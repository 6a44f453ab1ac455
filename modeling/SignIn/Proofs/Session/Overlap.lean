import SignIn.Proofs.Session.Epochs

/-!
# Exchanges that overlap

Between the sending of an exchange and its return anything may happen to the manager. If a login
URL was issued or the session was torn down, the exchange is superseded, whatever it brings, and
changes nothing. Otherwise it meets the login that it was sent for, and what it brings is recorded
under the handle of that login. No two exchanges of one epoch are on the network.
-/

namespace SignIn

/-- The login to which a state belongs, given by its handle: it is the newest one that the manager
issued or, if it issued none, the one that was kept at the beginning, and may lack a handle. -/
inductive Begun (init : Entries) (past : List (Moment Act Answer)) (state : String) :
    Option String → Prop
  | issued {older x since handle} (hpast : past = older ++ x :: since)
      (hissues : x.Issues 0 state handle)
      (hnewest : ∀ z ∈ since, ∀ n state handle, ¬ z.Issues n state handle) :
      Begun init past state (some handle)
  | kept (hissues : ∀ z ∈ past, ∀ n state handle, ¬ z.Issues n state handle)
      (hstate : init.get? stateKey = some state) : Begun init past state (init.get? handleKey)

theorem Begun.concat {init : Entries} {past : List (Moment Act Answer)} {state : String}
    {handle : Option String} {x : Moment Act Answer} (h : Begun init past state handle)
    (hx : ∀ n state handle, ¬ x.Issues n state handle) : Begun init (past ++ [x]) state handle := by
  have hlast : ∀ {since : List (Moment Act Answer)},
      (∀ z ∈ since, ∀ n state handle, ¬ z.Issues n state handle) →
      ∀ z ∈ since ++ [x], ∀ n state handle, ¬ z.Issues n state handle := by
    intro since hsince z hz
    rcases List.mem_append.mp hz with hz | hz
    · exact hsince z hz
    · rw [List.mem_singleton.mp hz]
      exact hx
  cases h with
  | @issued older w since handle hpast hissues hnewest =>
    exact .issued (by rw [hpast, List.append_assoc, List.cons_append]) hissues (hlast hnewest)
  | kept hissues hstate => exact .kept (hlast hissues) hstate

namespace Manager

variable {m : Manager}

theorem recorded_eq_superseded {granted : Except AuthFault TokenResponse}
    (h : m.recorded granted = .error .superseded) : granted = .error .superseded := by
  unfold recorded at h
  cases granted with
  | error fault => exact congrArg _ (Except.error.inj h)
  | ok token =>
    dsimp only at h
    split at h <;> cases h

theorem recorded_of_handle {granted : TokenResponse} {handle : String}
    (h : m.handle.or granted.sub = some handle) :
    m.recorded (.ok granted) = .ok (handle, granted.accessToken) := by
  simp [recorded, h]

end Manager

namespace OpenManagers

variable {e : Endpoints} {o o' o₀ : OpenManagers Entries} {m : Manager} {x : Moment Act Answer}

theorem Alone.begun {st : Entries} {x₀ : Moment Act Answer} {past : List (Moment Act Answer)}
    (hx₀ : (closed st).Spans e x₀ o₀) (ha₀ : x₀.act = .openManager)
    (hpasses : o₀.Passes e past o) (h : o.Alone m) {state : String}
    (hkept : o.store.get? stateKey = some state) : Begun st (x₀ :: past) state m.handle := by
  obtain ⟨m₀, h₀, -, -, hkept₀⟩ := Alone.opened hx₀ ha₀
  refine h₀.passes_induction (motive := fun past o m => o.store.get? stateKey = some state →
    Begun st (x₀ :: past) state m.handle) ?_ ?_ hpasses h hkept
  · intro hkept
    obtain ⟨hstate, hhandle⟩ := hkept₀ (by simp [hkept])
    rw [hhandle]
    refine .kept (fun z hz n state handle hissues => ?_) (hstate.symm.trans hkept)
    obtain ⟨redirect, url, hact, -⟩ := hissues
    rw [List.mem_singleton.mp hz, ha₀] at hact
    cases hact
  · intro past o₁ m₁ x o₂ m₂ hpasses h₁ hx ha h₂ hlone ih hkept
    cases hlone with
    | issues _ hissues _ hhandle _ hstate =>
      rw [hhandle]
      obtain rfl := Option.some.inj (hstate.symm.trans hkept)
      have hpast : x₀ :: (past ++ [x]) = (x₀ :: past) ++ x :: [] := rfl
      exact .issued hpast hissues (by simp)
    | ends _ _ _ hstate | records _ _ _ _ _ _ _ hstate =>
      rw [hstate] at hkept
      cases hkept
    | rests hrenews _ hhandle _ hstate =>
      rw [hhandle]
      rw [hstate (by simp [hkept])] at hkept
      exact (ih hkept).concat fun n state handle hissues => hrenews hissues.renews

theorem Turn.of_returns {t : Ticket} {q : PendingExchange}
    {granted : Except AuthFault TokenResponse} {answer : Answer}
    (h : o.Turn e (.finishExchange t.number granted) answer o') (ho : o.Numbered)
    (ht : t ∈ o.waiting) (hcall : t.call = .exchange q) (hm : o.managers[t.manager]? = some m) :
    (m.epoch ≠ q.epoch ∧ answer = .fault .superseded ∧
      o' = (o.without t.number).seat t.manager { m with exchanging := false } o.store) ∨
    (m.epoch = q.epoch ∧ ∃ fault, m.recorded granted = .error fault ∧ answer = .fault fault ∧
      o' = (o.without t.number).seat t.manager { m with exchanging := false }.failExchange
        o.store) ∨
    (m.epoch = q.epoch ∧ ∃ handle token, m.recorded granted = .ok (handle, token) ∧
      answer = (if m.phase.isPending then .token token else .fault m.misplaced) ∧
      o' = (o.without t.number).seat t.manager (m.recording handle token)
        ((o.store.set handleKey handle).set tokenKey token)) := by
  have hticket := ho.ticket?_eq ht
  obtain ⟨number, n, call⟩ := t
  dsimp only at h hcall hm hticket ⊢
  subst hcall
  cases h with
  | superseded ht' hm' hp =>
    obtain ⟨rfl, ⟨⟩⟩ := ho.eq_of_ticket? ht ht'
    obtain rfl := Option.some.inj (hm.symm.trans hm')
    exact .inl ⟨hp, rfl, rfl⟩
  | failed ht' hm' hp hr =>
    obtain ⟨rfl, ⟨⟩⟩ := ho.eq_of_ticket? ht ht'
    obtain rfl := Option.some.inj (hm.symm.trans hm')
    exact .inr (.inl ⟨hp, _, hr, rfl, rfl⟩)
  | recorded ht' hm' hp hr =>
    obtain ⟨rfl, ⟨⟩⟩ := ho.eq_of_ticket? ht ht'
    obtain rfl := Option.some.inj (hm.symm.trans hm')
    exact .inr (.inr ⟨hp, _, _, hr, rfl, rfl⟩)
  | absent ha => cases ha
  | lost ha ht' hm' =>
    cases ha
    rw [hticket] at ht'
    cases ht'
    rw [hm] at hm'
    cases hm'
  | unknown ha ht' =>
    cases ha
    cases ht' _ hticket

theorem Alone.of_returns {t : Ticket} {q : PendingExchange}
    {granted : Except AuthFault TokenResponse} (h : o.Alone m) (hx : o.Spans e x o')
    (hreturns : x.Returns t granted) (hcall : t.call = .exchange q) :
    (q.epoch ≠ m.epoch ∧ x.answer = .fault .superseded ∧ x.Unmoved) ∨
    (q.epoch = m.epoch ∧ ∃ fault, m.recorded granted = .error fault ∧ x.answer = .fault fault) ∨
    (q.epoch = m.epoch ∧ ∃ handle token, m.recorded granted = .ok (handle, token) ∧
      x.after.Records 0 handle token ∧
      (x.answer = .token token ∧ x.after.Holds 0 handle token ∨
        x.answer = .fault m.misplaced)) := by
  obtain ⟨hact, hmem⟩ := hreturns
  rw [hx.before] at hmem
  have hzero := (h.sent hmem).1
  have hturn := hx.turn
  rw [hact] at hturn
  rcases hturn.of_returns h.numbered hmem hcall (hzero ▸ h.get) with
    ⟨hq, hanswer, hnext⟩ | ⟨hq, fault, hfault, hanswer, -⟩ |
      ⟨hq, handle, token, hrecorded, hanswer, hnext⟩
  · refine .inl ⟨Ne.symm hq, hanswer, ?_, ?_, ?_⟩
    · rw [hx.before, hx.after, hnext, hzero]
      simp [scene, seat, without, h.managers, Manager.session]
    · rw [hx.before, hx.after, hnext]
      rfl
    · rw [hx.before, hx.after, hnext]
      rfl
  · exact .inr (.inl ⟨hq.symm, fault, hfault, hanswer⟩)
  · have hmanager : x.after.managers[0]? = some (m.recording handle token) := by
      rw [hx.after, hnext, hzero]
      simp [scene, seat, without, h.managers]
    have hkeeps : x.after.keeps handleKey = .ok (some handle) ∧
        x.after.keeps tokenKey = .ok (some token) := by
      rw [hx.after, hnext]
      simp [scene, Storage.memory, Storage.Memory.get]
    refine .inr (.inr ⟨hq.symm, handle, token, hrecorded,
      ⟨⟨_, hmanager, rfl, rfl⟩, hkeeps.1, hkeeps.2⟩, ?_⟩)
    by_cases hpending : m.phase.isPending
    · rw [if_pos hpending] at hanswer
      exact .inl ⟨hanswer,
        ⟨_, hmanager, isAuthenticated_recording hpending _ _, rfl, rfl⟩, hkeeps.1, hkeeps.2⟩
    · rw [if_neg hpending] at hanswer
      exact .inr hanswer

theorem Alone.of_returns_late {t : Ticket} {q : PendingExchange}
    {granted : Except AuthFault TokenResponse} (h : o.Alone m) (hx : o.Spans e x o')
    (hreturns : x.Returns t granted) (hcall : t.call = .exchange q) (hq : q.epoch ≠ m.epoch) :
    x.answer = .fault .superseded ∧ x.Unmoved := by
  rcases h.of_returns hx hreturns hcall with ⟨-, hanswer, hunmoved⟩ | ⟨heq, -⟩ | ⟨heq, -⟩
  · exact ⟨hanswer, hunmoved⟩
  · exact absurd heq hq
  · exact absurd heq hq

/-- In the epoch in which it was sent an exchange is superseded only by the word of the network, and
what it brings is recorded under the handle by which the manager goes. -/
theorem Alone.of_returns_in_epoch {t : Ticket} {q : PendingExchange}
    {granted : Except AuthFault TokenResponse} (h : o.Alone m) (hx : o.Spans e x o')
    (hreturns : x.Returns t granted) (hcall : t.call = .exchange q) (hq : q.epoch = m.epoch) :
    (x.answer = .fault .superseded → granted = .error .superseded) ∧
    (∀ response handle, granted = .ok response → m.handle.or response.sub = some handle →
      x.after.Records 0 handle response.accessToken) ∧
    ∀ token, x.answer = .token token → ∃ response handle, granted = .ok response ∧
      response.accessToken = token ∧ m.handle.or response.sub = some handle ∧
      x.after.Holds 0 handle token := by
  rcases h.of_returns hx hreturns hcall with ⟨hother, -⟩ | ⟨-, fault, hfault, hanswer⟩ |
    ⟨-, handle, token, hrecorded, hrecords, hanswer⟩
  · exact absurd hq hother
  · refine ⟨fun heq => ?_, ?_, fun token heq => ?_⟩
    · obtain rfl : fault = .superseded := Answer.fault.inj (hanswer.symm.trans heq)
      exact Manager.recorded_eq_superseded hfault
    · rintro response handle rfl hhandle
      rw [Manager.recorded_of_handle hhandle] at hfault
      cases hfault
    · cases hanswer.symm.trans heq
  · cases granted with
    | error fault => cases hrecorded
    | ok response =>
      obtain ⟨hhandle, rfl⟩ := Manager.recorded_eq_ok hrecorded
      refine ⟨fun heq => ?_, ?_, fun token heq => ?_⟩
      · rcases hanswer with ⟨hanswer, -⟩ | hanswer <;> cases hanswer.symm.trans heq
      · rintro _ handle₁ ⟨⟩ hhandle₁
        obtain rfl := Option.some.inj (hhandle.symm.trans hhandle₁)
        exact hrecords
      · rcases hanswer with ⟨hanswer, hholds⟩ | hanswer
        · obtain rfl := Answer.token.inj (hanswer.symm.trans heq)
          exact ⟨response, handle, rfl, rfl, hhandle, hholds⟩
        · cases hanswer.symm.trans heq

/-- In the epoch in which it was sent an exchange comes back to the login that it was sent for. -/
theorem Alone.handle_of_sends {o₁ o₂ o₃ : OpenManagers Entries} {m₁ m₃ : Manager} {t : Ticket}
    {q : PendingExchange} {between : List (Moment Act Answer)} (h : o₁.Alone m₁)
    (hx : o₁.Spans e x o₂) (hsends : x.Sends 0 t) (hcall : t.call = .exchange q)
    (hpasses : o₂.Passes e between o₃) (h₃ : o₃.Alone m₃) (ht : t ∈ o₃.waiting)
    (hq : q.epoch = m₃.epoch) : m₃.handle = m₁.handle ∧ o₁.store.get? stateKey ≠ none := by
  obtain ⟨callback, hact, hanswer⟩ := hsends
  have hturn := hx.turn
  rw [hact, hanswer] at hturn
  obtain ⟨m, request, hm, hkept, ht', hmem, -, hm₂⟩ := hturn.of_sent
  obtain ⟨-, rfl⟩ := h.eq_of_get hm
  rw [h.adopting_eq] at hm₂ ht'
  obtain ⟨m₂, h₂, -⟩ := h.aloneTurn hx (by rw [hact]; exact Act.noConfusion)
  obtain ⟨-, rfl⟩ := h₂.eq_of_get hm₂
  obtain rfl : q = ⟨request, m₁.epoch⟩ := by
    rw [ht'] at hcall
    exact (Waiting.exchange.inj hcall).symm
  have hcurrent₂ := h₂.current_iff.mpr ⟨hmem, _, hcall, rfl⟩
  have hcurrent₃ := h₃.current_iff.mpr ⟨ht, _, hcall, hq⟩
  exact ⟨h₂.handle_eq hcurrent₂ hpasses h₃ hcurrent₃, hkept⟩

end OpenManagers

/-- An exchange is superseded, and changes nothing, if a login URL was issued or the session was
torn down since it was sent. Otherwise it is superseded only by the word of the network, and what it
brings is recorded under the handle of the login to which its state belongs. Of one epoch no two
exchanges are on the network. -/
theorem exchange_meets_its_login {σ : Type} {p : Platform σ} {Holds : σ → Entries → Prop}
    (hp : p.Reliable Holds) {st : σ} {st' : Entries} (hst : Holds st st') {acts : List Act}
    (hacts : .openManager ∉ acts) :
    (∀ before x between y rest t granted,
      (OpenManagers.closed st).story p (.openManager :: acts) =
        before ++ x :: (between ++ y :: rest) →
      x.Sends 0 t → y.Returns t granted →
      ((∃ z ∈ between, z.Renews) → y.answer = .fault .superseded ∧ y.Unmoved) ∧
      ((∀ z ∈ between, ¬ z.Renews) →
        (y.answer = .fault .superseded → granted = .error .superseded) ∧
        ∃ state login, x.before.keeps stateKey = .ok (some state) ∧
          Begun st' before state login ∧
          (∀ response handle, granted = .ok response → login.or response.sub = some handle →
            y.after.Records 0 handle response.accessToken) ∧
          ∀ token, y.answer = .token token → ∃ response handle, granted = .ok response ∧
            response.accessToken = token ∧ login.or response.sub = some handle ∧
            y.after.Holds 0 handle token)) ∧
    ∀ x ∈ (OpenManagers.closed st).story p (.openManager :: acts),
      ∀ t ∈ x.after.waiting, ∀ t' ∈ x.after.waiting, ∀ q q', t.call = .exchange q →
        t'.call = .exchange q' → q.epoch = q'.epoch → t = t' := by
  rw [OpenManagers.story_eq_inMemory hp hst]
  constructor
  · intro before x between y rest t granted hstory hsends hreturns
    obtain ⟨callback, hact, hwaits⟩ := id hsends
    obtain ⟨x₀, past, o₀, o₁, m₁, o₂, m₂, o₃, m₃, o₄, rfl, hx₀, ha₀, hpast, h₁, hx, h₂, -,
      hbetween, h₃, hy⟩ :=
        OpenManagers.exists_course_of_story_eq hacts hstory (by rw [hact]; exact Act.noConfusion)
    have hmem : t ∈ o₃.waiting := by
      have hmem := hreturns.2
      rwa [hy.before] at hmem
    obtain ⟨q, hcall⟩ := hx.exchange_of_sends hsends
    have hiff : q.epoch = m₃.epoch ↔ ∀ z ∈ between, ¬ z.Renews := by
      rw [← OpenManagers.Alone.epoch_iff hx hwaits h₂ hbetween h₃, hcall]
      rfl
    constructor
    · rintro ⟨z, hz, hrenews⟩
      exact h₃.of_returns_late hy hreturns hcall fun heq => hiff.mp heq z hz hrenews
    · intro hrenews
      have hepoch : q.epoch = m₃.epoch := hiff.mpr hrenews
      obtain ⟨hhandle, hkept⟩ := h₁.handle_of_sends hx hsends hcall hbetween h₃ hmem hepoch
      obtain ⟨state, hstate⟩ := Option.ne_none_iff_exists'.mp hkept
      have hlogin : Begun st' (x₀ :: past) state m₃.handle := by
        rw [hhandle]
        exact OpenManagers.Alone.begun hx₀ ha₀ hpast h₁ hstate
      have hkeeps : x.before.keeps stateKey = .ok (some state) := by
        rw [hx.before]
        exact congrArg Except.ok hstate
      obtain ⟨hsuperseded, hrecords, hholds⟩ := h₃.of_returns_in_epoch hy hreturns hcall hepoch
      exact ⟨hsuperseded, state, m₃.handle, hkeeps, hlogin, hrecords, hholds⟩
  · intro x hx t ht t' ht'
    obtain ⟨o, m, hafter, h⟩ := OpenManagers.exists_alone_after hacts hx
    rw [hafter] at ht ht'
    exact h.lone t ht t' ht'

set_option maxRecDepth 10000 in
/-- A second login supersedes the exchange of the first, and its own exchange brings the session. -/
theorem exchange_meets_second_login :
    let told := (OpenManagers.closed .empty).story .sample
      [.openManager, .login 0 "s1" "alice.example" (.secure "app.example" ["cb"]),
        .startExchange 0 "https://app.example/cb?code=XYZ&state=s1",
        .login 0 "s2" "bob.example" (.secure "app.example" ["cb"]),
        .finishExchange 0 (.ok { accessToken := "token-1" }),
        .startExchange 0 "https://app.example/cb?code=XYZ&state=s2",
        .finishExchange 1 (.ok { accessToken := "token-2" })]
    (∃ y, told[4]? = some y ∧ y.answer = .fault .superseded ∧ y.Unmoved) ∧
      ∃ z, told[6]? = some z ∧ z.after.Holds 0 "bob.example" "token-2" := by
  have hmeets := (exchange_meets_its_login Platform.sample_reliable (rfl : Entries.empty = .empty)
    (by simp : Act.openManager ∉
      [Act.login 0 "s1" "alice.example" (.secure "app.example" ["cb"]),
        .startExchange 0 "https://app.example/cb?code=XYZ&state=s1",
        .login 0 "s2" "bob.example" (.secure "app.example" ["cb"]),
        .finishExchange 0 (.ok { accessToken := "token-1" }),
        .startExchange 0 "https://app.example/cb?code=XYZ&state=s2",
        .finishExchange 1 (.ok { accessToken := "token-2" })])).1
  constructor
  · exact ⟨_, rfl, (hmeets [_, _] _ [_] _ [_, _] _ _ rfl ⟨_, rfl, rfl⟩ ⟨rfl, .head _⟩).1
      ⟨_, .head _, .inl (Option.some_ne_none _)⟩⟩
  · obtain ⟨-, state, login, -, -, -, hholds⟩ :=
      (hmeets [_, _, _, _, _] _ [] _ [] _ _ rfl ⟨_, rfl, rfl⟩ ⟨rfl, .head _⟩).2 (by simp)
    obtain ⟨response, handle, -, -, -, hafter⟩ := hholds "token-2" rfl
    obtain rfl : "bob.example" = handle := Option.some.inj (Except.ok.inj hafter.handle)
    exact ⟨_, rfl, hafter⟩

end SignIn
