import SignIn.Proofs.Session.Continuity

/-!
# One manager and its store

A manager alone with its store shows a session exactly if it remembers a token, and keeps the token
and the handle that it remembers. One course of events can break this. The flag that says whether
an exchange is on the network is shared by all exchanges, and the first to come back lowers it. If
a callback is refused while a newer exchange is on the network and the flag is down, the login of
that exchange is given up; its token is still kept when it arrives, with a fault as the answer.
The runs without this course are exactly the runs without such a contradiction.
-/

namespace SignIn

def Act.isExchange : Act → Bool
  | .startExchange .. | .finishExchange .. => true
  | _ => false

/-- Whether a fault is the answer of the network that an act hands on. -/
def Act.relays (fault : AuthFault) : Act → Prop
  | .finishExchange _ (.error f) | .finishFetch _ (.error f) => f = fault
  | _ => False

/-- What a manager shows, what it remembers and what is kept are the same session. -/
structure Manager.Agrees (m : Manager) (keeps : String → Except StoreFault (Option String)) :
    Prop where
  shown : m.isAuthenticated = m.token.isSome
  token : keeps tokenKey = .ok m.token
  handle : m.token.isSome → m.handle.isSome ∧ keeps handleKey = .ok m.handle

/-- An exchange is on the network, and was sent in the epoch that its manager is in. -/
def Scene.Current (c : Scene) (t : Ticket) : Prop :=
  t ∈ c.waiting ∧ ∃ m q, c.managers[t.manager]? = some m ∧ t.call = .exchange q ∧
    q.epoch = m.epoch

namespace Moment

/-- Everything agrees after the moment, no phase refused its event, and no exchange that was
answered with a fault brought a token. -/
structure Sound (x : Moment Act Answer) : Prop where
  agrees : ∀ m ∈ x.after.managers, m.Agrees x.after.keeps
  placed : ∀ text, x.answer = .fault (.invalidTransition text) →
    x.act.relays (.invalidTransition text)
  tokens : ∀ fault, x.act.isExchange → x.answer = .fault fault →
    x.after.managers.map (·.token) = x.before.managers.map (·.token) ∧
      x.after.keeps tokenKey = x.before.keeps tokenKey

/-- A callback is refused while an exchange is on the network that the flag does not tell of. -/
structure Disowns (x : Moment Act Answer) (t : Ticket) : Prop where
  current : x.before.Current t
  lowered : ∀ m, x.before.managers[t.manager]? = some m → m.exchanging = false
  refused : ∃ callback fault, x.act = .startExchange t.manager callback ∧ x.answer = .fault fault

/-- An exchange comes back, in the epoch in which it was sent, with a token that can be kept. -/
structure Delivers (x : Moment Act Answer) (t : Ticket) : Prop where
  current : x.before.Current t
  granted : ∃ granted m record, x.act = .finishExchange t.number granted ∧
    x.before.managers[t.manager]? = some m ∧ m.recorded granted = .ok record

end Moment

namespace OpenManagers

variable {e : Endpoints} {o o' : OpenManagers Entries} {a : Act} {answer : Answer} {m m' : Manager}

/-! ## Where a refused event comes from -/

theorem verdict_ne_invalidTransition (st : Entries) (callback text : String) :
    LoginFlow.verdict e st callback ≠ .error (.invalidTransition text) := by
  unfold LoginFlow.verdict LoginFlow.checkCallback LoginFlow.check
  cases st.get? stateKey with
  | none => simp
  | some expected =>
    cases Url.parse callback with
    | error fault => simp
    | ok url =>
      dsimp only
      repeat' split
      all_goals simp

theorem prepare_ne_invalidTransition (origin : Url) (request : Request) (text : String) :
    Gateway.prepare origin request ≠ .error (.invalidTransition text) := by
  have hresolve : Gateway.resolve origin request.target ≠ .error (.invalidTransition text) := by
    unfold Gateway.resolve
    repeat' split
    all_goals simp
  unfold Gateway.prepare
  cases hr : Gateway.resolve origin request.target with
  | ok url =>
    intro h
    cases h
  | error fault => exact fun h => hresolve (hr.trans (congrArg Except.error (Except.error.inj h)))

theorem interpret_eq_invalidTransition {received : Except AuthFault Response} {text : String}
    (h : Gateway.interpret received = .error (.invalidTransition text)) :
    received = .error (.invalidTransition text) := by
  unfold Gateway.interpret at h
  cases received with
  | error fault => exact h
  | ok response =>
    dsimp only at h
    split at h <;> cases h

theorem recorded_eq_invalidTransition {granted : Except AuthFault TokenResponse} {text : String}
    (h : m.recorded granted = .error (.invalidTransition text)) :
    granted = .error (.invalidTransition text) := by
  unfold Manager.recorded at h
  cases granted with
  | error fault => exact congrArg _ (Except.error.inj h)
  | ok token =>
    dsimp only at h
    split at h <;> cases h

/-- A phase refuses an event only if a token arrives outside a login. -/
theorem Turn.invalidTransition {text : String}
    (h : o.Turn e a (.fault (.invalidTransition text)) o') :
    a.relays (.invalidTransition text) ∨
    ∃ number n p m granted record, a = .finishExchange number granted ∧
      o.ticket? number = some ⟨number, n, .exchange p⟩ ∧ o.managers[n]? = some m ∧
      m.epoch = p.epoch ∧ m.recorded granted = .ok record ∧ m.phase.isPending = false := by
  generalize hanswer : Answer.fault (.invalidTransition text) = answer at h
  cases h with
  | refused hm hv =>
    cases hanswer
    exact absurd hv (verdict_ne_invalidTransition _ _ _)
  | unsent hm ht hr =>
    cases hanswer
    exact absurd hr (prepare_ne_invalidTransition _ _ _)
  | failed ht hm hp hr =>
    cases hanswer
    rw [recorded_eq_invalidTransition hr]
    exact .inl rfl
  | @answered number n m p received ht hm ha =>
    cases hr : Gateway.interpret received with
    | ok response =>
      rw [hr] at hanswer
      cases hanswer
    | error fault =>
      rw [hr] at hanswer
      cases hanswer
      rw [interpret_eq_invalidTransition hr]
      exact .inl rfl
  | @recorded number n m p granted handle token ht hm hp hr =>
    by_cases hpending : m.phase.isPending
    · rw [if_pos hpending] at hanswer
      cases hanswer
    · exact .inr ⟨_, _, _, _, _, _, rfl, ht, hm, hp, hr, by simpa using hpending⟩
  | superseded | tokenless | rejected | late => cases hanswer
  | restored | orphaned | resumed | login | started | sent | dropped | loggedOut | absent | lost
  | unknown => cases hanswer

/-! ## One manager -/

def Current (o : OpenManagers Entries) (t : Ticket) : Prop := (o.scene .memory).Current t

theorem current_iff (hm : o.managers = [m]) {t : Ticket} :
    o.Current t ↔
      t ∈ o.waiting ∧ t.manager = 0 ∧ ∃ q, t.call = .exchange q ∧ q.epoch = m.epoch := by
  constructor
  · rintro ⟨ht, m', q, hm', hcall, hq⟩
    obtain ⟨hn, rfl⟩ := eq_of_get_alone hm hm'
    exact ⟨ht, hn, q, hcall, hq⟩
  · rintro ⟨ht, hn, q, hcall, hq⟩
    exact ⟨ht, m, q, by simp [scene, hm, hn], hcall, hq⟩

/-- What is true of a manager that is alone with its store, as long as no exchange is delivered
that was disowned. -/
structure Settled (past : List (Moment Act Answer)) (o : OpenManagers Entries)
    (m : Manager) : Prop where
  alone : o.managers = [m]
  numbered : o.Numbered
  shown : m.isAuthenticated = m.token.isSome
  token : o.store.get? tokenKey = m.token
  handle : m.token.isSome → m.handle.isSome ∧ o.store.get? handleKey = m.handle
  awaited : o.store.get? stateKey ≠ none → m.phase.isPending
  epoch_le : ∀ t ∈ o.waiting, ∀ q, t.call = .exchange q → q.epoch ≤ m.epoch
  lone : ∀ t t', o.Current t → o.Current t' → t = t'
  used : ∀ t, o.Current t → o.store.get? stateKey = none ∧ m.isAuthenticated = false
  disowned : ∀ t, o.Current t → m.phase.isPending = false → ∃ x ∈ past, x.Disowns t

def Exchanges (o' o : OpenManagers Entries) : Prop :=
  ∀ t ∈ o'.waiting, ∀ q, t.call = .exchange q → t ∈ o.waiting

theorem exchanges_without (o : OpenManagers Entries) (number : Nat) :
    (o.without number).Exchanges o :=
  fun _ ht _ _ => (mem_without.mp ht).1

namespace Settled

variable {past past' : List (Moment Act Answer)}

theorem agrees (h : Settled past o m) :
    ∀ m ∈ (o.scene .memory).managers, m.Agrees (o.scene .memory).keeps := by
  intro m' hm'
  obtain rfl : m' = m := by simpa [scene, h.alone] using hm'
  exact ⟨h.shown, congrArg Except.ok h.token, fun ht =>
    ⟨(h.handle ht).1, congrArg Except.ok (h.handle ht).2⟩⟩

theorem eq_of_get (h : Settled past o m) {n : Nat} (hm : o.managers[n]? = some m') :
    n = 0 ∧ m = m' :=
  eq_of_get_alone h.alone hm

theorem adopting_eq (h : Settled past o m) : m.adopting o.store = m := by
  unfold Manager.adopting
  rw [if_neg]
  rintro ⟨hpending, hstate⟩
  exact hpending (h.awaited (Option.isSome_iff_ne_none.mp hstate))

theorem token_of_pending (h : Settled past o m) (hpending : m.phase.isPending) :
    m.token = none := by
  have hshown := h.shown
  unfold Manager.isAuthenticated at hshown
  cases hp : m.phase with
  | loginPending =>
    rw [hp] at hshown
    exact Option.not_isSome_iff_eq_none.mp (by rw [← hshown]; decide)
  | unauthenticated | authenticated => simp [hp, Phase.isPending] at hpending

theorem of_not_current (hm : o'.managers = [m']) (hn : o'.Numbered)
    (hshown : m'.isAuthenticated = m'.token.isSome) (htoken : o'.store.get? tokenKey = m'.token)
    (hhandle : m'.token.isSome → m'.handle.isSome ∧ o'.store.get? handleKey = m'.handle)
    (hawaited : o'.store.get? stateKey ≠ none → m'.phase.isPending)
    (hepoch : ∀ t ∈ o'.waiting, ∀ q, t.call = .exchange q → q.epoch ≤ m'.epoch)
    (hnone : ∀ t, ¬ o'.Current t) : Settled past' o' m' where
  alone := hm
  numbered := hn
  shown := hshown
  token := htoken
  handle := hhandle
  awaited := hawaited
  epoch_le := hepoch
  lone t _ ht := absurd ht (hnone t)
  used t ht := absurd ht (hnone t)
  disowned t ht := absurd ht (hnone t)

theorem renew (h : Settled past o m) (hm : o'.managers = [m']) (hn : o'.Numbered)
    (hepoch : m'.epoch = m.epoch + 1) (hshown : m'.isAuthenticated = false)
    (hm' : m'.token = none) (htoken : o'.store.get? tokenKey = none)
    (hawaited : o'.store.get? stateKey ≠ none → m'.phase.isPending)
    (hsub : o'.Exchanges o) : Settled past' o' m' := by
  have hle : ∀ t ∈ o'.waiting, ∀ q, t.call = .exchange q → q.epoch < m'.epoch := by
    intro t ht q hcall
    have hlast := h.epoch_le t (hsub t ht q hcall) q hcall
    omega
  refine of_not_current hm hn (by rw [hshown, hm']; rfl) (by rw [htoken, hm']) ?_ hawaited
    (fun t ht q hcall => (hle t ht q hcall).le) ?_
  · intro hsome
    rw [hm'] at hsome
    cases hsome
  · intro t ht
    obtain ⟨hw, -, q, hcall, hq⟩ := (current_iff hm).mp ht
    exact (hle t hw q hcall).ne hq

theorem stay (h : Settled past o m) (hm : o'.managers = [m']) (hn : o'.Numbered)
    (hshown : m'.isAuthenticated = m.isAuthenticated) (hown : m'.handle = m.handle)
    (hheld : m'.token = m.token) (hepoch : m'.epoch = m.epoch)
    (hstore : o'.store = o.store ∨ o'.store = o.store.erase stateKey)
    (hawaited : o'.store.get? stateKey ≠ none → m'.phase.isPending) (hsub : o'.Exchanges o)
    (hdisowned : ∀ t, o.Current t → o'.Current t → m'.phase.isPending = false →
      ∃ x ∈ past', x.Disowns t) : Settled past' o' m' := by
  have hcurrent : ∀ t, o'.Current t → o.Current t := by
    intro t ht
    obtain ⟨hw, hn, q, hcall, hq⟩ := (current_iff hm).mp ht
    exact (current_iff h.alone).mpr ⟨hsub t hw q hcall, hn, q, hcall, hq.trans hepoch⟩
  have hkept : o'.store.get? tokenKey = o.store.get? tokenKey ∧
      o'.store.get? handleKey = o.store.get? handleKey := by
    rcases hstore with hstore | hstore <;> rw [hstore]
    · exact ⟨rfl, rfl⟩
    · simp
  constructor
  · exact hm
  · exact hn
  · rw [hshown, hheld]
    exact h.shown
  · rw [hkept.1, hheld]
    exact h.token
  · rw [hkept.2, hheld, hown]
    exact h.handle
  · exact hawaited
  · intro t ht q hcall
    rw [hepoch]
    exact h.epoch_le t (hsub t ht q hcall) q hcall
  · exact fun t t' ht ht' => h.lone t t' (hcurrent t ht) (hcurrent t' ht')
  · intro t ht
    obtain ⟨hnone, hauth⟩ := h.used t (hcurrent t ht)
    refine ⟨?_, hshown.trans hauth⟩
    rcases hstore with hstore | hstore <;> rw [hstore]
    · exact hnone
    · simp
  · exact fun t ht => hdisowned t (hcurrent t ht) ht

theorem keep (h : Settled past o m) {b : Bool} (hm : o'.managers = [{ m with exchanging := b }])
    (hn : o'.Numbered) (hstore : o'.store = o.store ∨ o'.store = o.store.erase stateKey)
    (hsub : o'.Exchanges o) (hpast : past ⊆ past') :
    Settled past' o' { m with exchanging := b } := by
  refine h.stay hm hn rfl rfl rfl rfl hstore ?_ hsub ?_
  · intro hsome
    rcases hstore with hstore | hstore <;> rw [hstore] at hsome
    · exact h.awaited hsome
    · simp at hsome
  · intro t ht _ hpending
    obtain ⟨x, hx, hdisowns⟩ := h.disowned t ht hpending
    exact ⟨x, hpast hx, hdisowns⟩

theorem not_current_without (h : Settled past o m) {number n : Nat} {q : PendingExchange}
    (ht : o.ticket? number = some ⟨number, n, .exchange q⟩) (hm : o.managers[n]? = some m)
    (hq : m.epoch = q.epoch) (hm' : o'.managers = [m']) (hepoch : m'.epoch = m.epoch)
    (hw : o'.waiting = (o.without number).waiting) (t : Ticket) : ¬ o'.Current t := by
  intro hcurrent
  obtain ⟨hmem, hn, q', hcall, hq'⟩ := (current_iff hm').mp hcurrent
  rw [hw] at hmem
  obtain ⟨hmem, hne⟩ := mem_without.mp hmem
  have hthis : o.Current ⟨number, n, .exchange q⟩ := ⟨mem_of_ticket? ht, m, q, hm, rfl, hq.symm⟩
  have hthat : o.Current t :=
    (current_iff h.alone).mpr ⟨hmem, hn, q', hcall, hq'.trans hepoch⟩
  exact hne (by rw [h.lone t _ hthat hthis])

theorem refuse (h : Settled past o m) {x : Moment Act Answer} (hx : x.before = o.scene .memory)
    (hrefused : ∃ callback fault, x.act = .startExchange 0 callback ∧ x.answer = .fault fault)
    (hm : o'.managers = [m.refusing]) (hn : o'.Numbered)
    (hstore : o'.store = o.store.erase stateKey) (hw : o'.waiting = o.waiting) :
    Settled (past ++ [x]) o' m.refusing := by
  have hsub : o'.Exchanges o := fun t ht _ _ => hw ▸ ht
  by_cases hflag : m.exchanging
  · have hself : m.refusing = m := if_pos hflag
    rw [hself] at hm ⊢
    exact h.keep (b := m.exchanging) hm hn (.inr hstore) hsub (by simp)
  · have hfail : m.refusing = m.failExchange := if_neg hflag
    rw [hfail] at hm ⊢
    refine h.stay hm hn (by simp) (by simp) (by simp) (by simp) (.inr hstore) ?_ hsub ?_
    · simp [hstore]
    · intro t ht _ _
      obtain ⟨-, hzero, -⟩ := (current_iff h.alone).mp ht
      refine ⟨x, by simp, ⟨hx ▸ ht, ?_, hzero ▸ hrefused⟩⟩
      intro m' hm'
      rw [hx] at hm'
      obtain ⟨-, rfl⟩ := h.eq_of_get hm'
      simpa using hflag

theorem start (h : Settled past o m) {p : PendingExchange} (hp : p.epoch = m.epoch)
    (hsome : o.store.get? stateKey ≠ none) (hm : o'.managers = [{ m with exchanging := true }])
    (hn : o'.Numbered) (hstore : o'.store = o.store.erase stateKey)
    (hw : o'.waiting = o.waiting ++ [⟨o.issued, 0, .exchange p⟩]) :
    Settled past' o' { m with exchanging := true } := by
  have hpending : m.phase.isPending := h.awaited hsome
  have hcurrent : ∀ t, o'.Current t → t = ⟨o.issued, 0, .exchange p⟩ := by
    intro t ht
    obtain ⟨hmem, hzero, q, hcall, hq⟩ := (current_iff hm).mp ht
    rcases List.mem_append.mp (hw ▸ hmem) with hmem | hmem
    · have hold : o.Current t := (current_iff h.alone).mpr ⟨hmem, hzero, q, hcall, hq⟩
      exact absurd (h.used t hold).1 hsome
    · exact List.mem_singleton.mp hmem
  constructor
  · exact hm
  · exact hn
  · exact h.shown
  · rw [hstore]
    simpa using h.token
  · rw [hstore]
    simpa using h.handle
  · exact fun _ => hpending
  · intro t ht q hcall
    rcases List.mem_append.mp (hw ▸ ht) with ht | ht
    · exact h.epoch_le t ht q hcall
    · rw [List.mem_singleton.mp ht] at hcall
      cases hcall
      exact hp.le
  · intro t t' ht ht'
    rw [hcurrent t ht, hcurrent t' ht']
  · intro t ht
    refine ⟨by simp [hstore], ?_⟩
    have hshown := h.shown
    rw [h.token_of_pending hpending] at hshown
    exact hshown
  · intro t ht hnot
    exact absurd hpending (by simpa using hnot)

theorem fail (h : Settled past o m) {number n : Nat} {q : PendingExchange}
    (ht : o.ticket? number = some ⟨number, n, .exchange q⟩) (hm : o.managers[n]? = some m)
    (hq : m.epoch = q.epoch) (hm' : o'.managers = [{ m with exchanging := false }.failExchange])
    (hn : o'.Numbered) (hstore : o'.store = o.store)
    (hw : o'.waiting = (o.without number).waiting) :
    Settled past' o' { m with exchanging := false }.failExchange := by
  have hnone := h.not_current_without ht hm hq hm' (by simp) hw
  have hsub : o'.Exchanges o := fun t ht q hcall => exchanges_without o number t (hw ▸ ht) q hcall
  refine h.stay hm' hn (Manager.isAuthenticated_failExchange _) (by simp) (by simp) (by simp)
    (.inl hstore) ?_ hsub fun t _ ht _ => absurd ht (hnone t)
  intro hsome
  rw [hstore] at hsome
  exact absurd (h.used _ ⟨mem_of_ticket? ht, m, q, hm, rfl, hq.symm⟩).1 hsome

theorem record (h : Settled past o m) {number n : Nat} {q : PendingExchange}
    {handle token : String} (ht : o.ticket? number = some ⟨number, n, .exchange q⟩)
    (hm : o.managers[n]? = some m) (hq : m.epoch = q.epoch) (hpending : m.phase.isPending)
    (hm' : o'.managers = [m.recording handle token]) (hn : o'.Numbered)
    (hstore : o'.store = (o.store.set handleKey handle).set tokenKey token)
    (hw : o'.waiting = (o.without number).waiting) :
    Settled past' o' (m.recording handle token) := by
  have hnone := h.not_current_without ht hm hq hm' rfl hw
  refine of_not_current hm' hn ?_ ?_ ?_ ?_ ?_ hnone
  · obtain ⟨phase, _⟩ := m
    cases phase <;> first | rfl | cases hpending
  · simp [hstore, Manager.recording]
  · simp [hstore, Manager.recording]
  · intro hsome
    have hstate := (h.used _ ⟨mem_of_ticket? ht, m, q, hm, rfl, hq.symm⟩).1
    simp [hstore] at hsome hstate
    exact absurd hstate hsome
  · intro t hmem q hcall
    exact h.epoch_le t (mem_without.mp (hw ▸ hmem)).1 q hcall

/-- What is delivered meets its login, unless it was disowned. -/
theorem pending_of_recorded (h : Settled past o m) {x : Moment Act Answer}
    (hx : x.before = o.scene .memory)
    (hsafe : ∀ t, x.Delivers t → ∀ y ∈ past, ¬ y.Disowns t) {number n : Nat}
    {q : PendingExchange} {granted : Except AuthFault TokenResponse} {record : String × String}
    (hact : x.act = .finishExchange number granted)
    (ht : o.ticket? number = some ⟨number, n, .exchange q⟩) (hm : o.managers[n]? = some m)
    (hq : m.epoch = q.epoch) (hr : m.recorded granted = .ok record) : m.phase.isPending := by
  have hcurrent : o.Current ⟨number, n, .exchange q⟩ :=
    ⟨mem_of_ticket? ht, m, q, hm, rfl, hq.symm⟩
  have hdelivers : x.Delivers ⟨number, n, .exchange q⟩ :=
    ⟨hx ▸ hcurrent, granted, m, record, hact, hx ▸ hm, hr⟩
  cases hpending : m.phase.isPending with
  | true => rfl
  | false =>
    obtain ⟨y, hy, hdisowns⟩ := h.disowned _ hcurrent hpending
    exact absurd hdisowns (hsafe _ hdelivers y hy)

theorem turn (h : Settled past o m) (hturn : o.Turn e a answer o') (ha : a ≠ .openManager)
    {x : Moment Act Answer} (hx : x = ⟨o.scene .memory, a, answer, o'.scene .memory⟩)
    (hsafe : ∀ t, x.Delivers t → ∀ y ∈ past, ¬ y.Disowns t) :
    ∃ m', Settled (past ++ [x]) o' m' ∧
      (a.isExchange → ∀ fault, answer = .fault fault → m'.token = m.token) := by
  have hn := hturn.numbered h.numbered
  have hpast : past ⊆ past ++ [x] := List.subset_append_left past [x]
  have hself : ∀ {m'}, o.managers.set 0 m' = [m'] := by simp [h.alone]
  have hother : ∀ {P : Prop}, false = true → P := fun hfalse => absurd hfalse Bool.false_ne_true
  cases hturn with
  | restored | orphaned | resumed => exact absurd rfl ha
  | login hm state handle redirect =>
    obtain ⟨rfl, rfl⟩ := h.eq_of_get hm
    refine ⟨_, h.renew hself hn rfl rfl rfl ?_ (fun _ => rfl) fun t ht _ _ => ht, hother⟩
    have htoken := h.token
    cases hheld : m.token with
    | none => simpa [hheld] using htoken
    | some token => simp
  | refused hm hv =>
    obtain ⟨rfl, rfl⟩ := h.eq_of_get hm
    rw [h.adopting_eq] at hx hn ⊢
    refine ⟨_, h.refuse (x := x) ?_ ?_ hself hn rfl rfl, fun _ _ _ => ?_⟩
    · rw [hx]
    · exact ⟨_, _, by rw [hx], by rw [hx]⟩
    · unfold Manager.refusing
      split <;> simp
  | started hm hv =>
    obtain ⟨rfl, rfl⟩ := h.eq_of_get hm
    rw [h.adopting_eq] at hx hn ⊢
    exact ⟨_, h.start rfl (LoginFlow.ne_none_of_verdict hv) hself hn rfl rfl, fun _ _ _ => rfl⟩
  | superseded ht hm hp granted =>
    obtain ⟨rfl, rfl⟩ := h.eq_of_get hm
    exact ⟨_, h.keep hself hn (.inl rfl) (exchanges_without o _) hpast, fun _ _ _ => rfl⟩
  | failed ht hm hp hr =>
    obtain ⟨rfl, rfl⟩ := h.eq_of_get hm
    exact ⟨_, h.fail ht hm hp hself hn rfl rfl, fun _ _ _ => by simp⟩
  | recorded ht hm hp hr =>
    obtain ⟨rfl, rfl⟩ := h.eq_of_get hm
    have hpending := h.pending_of_recorded (by rw [hx]) hsafe (by rw [hx]) ht hm hp hr
    refine ⟨_, h.record ht hm hp hpending hself hn rfl rfl, fun _ fault hfault => ?_⟩
    rw [if_pos hpending] at hfault
    cases hfault
  | tokenless hm | loggedOut hm =>
    obtain ⟨rfl, rfl⟩ := h.eq_of_get hm
    exact ⟨_, h.renew hself hn rfl rfl rfl (by simp) (by simp) fun t ht _ _ => ht, hother⟩
  | rejected ht hm ha hp =>
    obtain ⟨rfl, rfl⟩ := h.eq_of_get hm
    exact ⟨_, h.renew hself hn rfl rfl rfl (by simp) (by simp) (exchanges_without o _), hother⟩
  | unsent hm =>
    exact ⟨_, h.keep (b := m.exchanging) h.alone hn (.inl rfl) (fun t ht _ _ => ht) hpast,
      hother⟩
  | sent hm =>
    refine ⟨_, h.keep (b := m.exchanging) h.alone hn (.inl rfl) ?_ hpast, hother⟩
    intro t ht q hcall
    rcases List.mem_append.mp ht with ht | ht
    · exact ht
    · rw [List.mem_singleton.mp ht] at hcall
      cases hcall
  | late | answered | dropped =>
    exact ⟨_, h.keep (b := m.exchanging) h.alone hn (.inl rfl) (exchanges_without o _) hpast,
      hother⟩
  | lost =>
    exact ⟨_, h.keep (b := m.exchanging) h.alone hn (.inl rfl) (exchanges_without o _) hpast,
      fun _ _ hfault => by cases hfault⟩
  | absent | unknown =>
    exact ⟨_, h.keep (b := m.exchanging) h.alone hn (.inl rfl) (fun t ht _ _ => ht) hpast,
      fun _ _ hfault => by cases hfault⟩

theorem opened {st : Entries} (hturn : (closed st).Turn e .openManager answer o')
    (past : List (Moment Act Answer)) : (∃ m, Settled past o' m) ∧ ∃ n, answer = .opened n := by
  have hn := hturn.numbered (numbered_closed st)
  cases hturn with
  | restored ht hh =>
    refine ⟨⟨_, of_not_current rfl hn rfl ?_ ?_ ?_ ?_ ?_⟩, _, rfl⟩
    · simpa [closed] using ht
    · simpa [closed] using hh
    · simp
    · exact fun t ht => absurd ht List.not_mem_nil
    · exact fun t ht => absurd ht.1 List.not_mem_nil
  | orphaned ht hh =>
    refine ⟨⟨_, of_not_current rfl hn rfl ?_ ?_ ?_ ?_ ?_⟩, _, rfl⟩
    · simp
    · exact fun hsome => absurd hsome Bool.false_ne_true
    · simp
    · exact fun t ht => absurd ht List.not_mem_nil
    · exact fun t ht => absurd ht.1 List.not_mem_nil
  | resumed ht =>
    refine ⟨⟨_, of_not_current rfl hn ?_ ht ?_ ?_ ?_ ?_⟩, _, rfl⟩
    · dsimp only [Manager.isAuthenticated]
      split <;> rfl
    · exact fun hsome => absurd hsome Bool.false_ne_true
    · intro hsome
      rw [if_pos (Option.isSome_iff_ne_none.mpr hsome)]
      rfl
    · exact fun t ht => absurd ht List.not_mem_nil
    · exact fun t ht => absurd ht.1 List.not_mem_nil
  | absent ha => cases ha
  | lost ha => cases ha
  | unknown ha => cases ha

end Settled

/-! ## Runs -/

/-- Whoever disowns an exchange is not waiting for a login any more. -/
theorem Turn.not_pending_of_refused {n : Nat} {callback : String} {fault : AuthFault}
    (h : o.Turn e (.startExchange n callback) (.fault fault) o') (hm : o.managers[n]? = some m)
    (hflag : m.exchanging = false) :
    ∃ m', o'.managers[n]? = some m' ∧ m'.phase.isPending = false := by
  cases h with
  | @refused _ m₁ _ _ hm₁ hv =>
    obtain rfl : m₁ = m := Option.some.inj (hm₁.symm.trans hm)
    obtain ⟨hn, -⟩ := List.getElem?_eq_some_iff.mp hm
    have hflag' : (m₁.adopting o.store).exchanging = false := by
      unfold Manager.adopting
      split <;> exact hflag
    refine ⟨_, List.getElem?_set_self hn, ?_⟩
    rw [Manager.refusing, if_neg (by simp [hflag'])]
    exact Manager.isPending_failExchange _

theorem Turn.misplaced (h : o.Turn e a answer o') (ho : o.Numbered) {t : Ticket}
    {x : Moment Act Answer} (hx : x = ⟨o.scene .memory, a, answer, o'.scene .memory⟩)
    (hdelivers : x.Delivers t) (hm : o.managers[t.manager]? = some m)
    (hpending : m.phase.isPending = false) : ¬ x.Sound := by
  subst hx
  obtain ⟨⟨hmem, m₁, q, hm₁, hcall, hq⟩, granted, m₂, record, hact, hm₂, hr⟩ := hdelivers
  obtain rfl : m = m₁ := Option.some.inj (hm.symm.trans hm₁)
  obtain rfl : m = m₂ := Option.some.inj (hm.symm.trans hm₂)
  have hticket := ho.ticket?_eq hmem
  obtain ⟨number, n, call⟩ := t
  dsimp only at hact hcall hticket hm hq
  subst hact hcall
  intro hsound
  have hsame : ∀ {n' q'}, o.ticket? number = some ⟨number, n', .exchange q'⟩ →
      n' = n ∧ q' = q := by
    intro n' q' ht
    rw [hticket] at ht
    cases ht
    exact ⟨rfl, rfl⟩
  cases h with
  | superseded ht hm' hp =>
    obtain ⟨rfl, rfl⟩ := hsame ht
    obtain rfl := Option.some.inj (hm.symm.trans hm')
    exact hp hq.symm
  | failed ht hm' hp hr' =>
    obtain ⟨rfl, rfl⟩ := hsame ht
    obtain rfl := Option.some.inj (hm.symm.trans hm')
    rw [hr] at hr'
    cases hr'
  | recorded ht hm' hp hr' =>
    obtain ⟨rfl, rfl⟩ := hsame ht
    obtain rfl := Option.some.inj (hm.symm.trans hm')
    have hrelays := hsound.placed _ (if_neg (by simp [hpending]))
    cases granted with
    | error fault => cases hr
    | ok token => exact hrelays
  | absent ha => cases ha
  | lost ha ht hm' =>
    cases ha
    rw [hticket] at ht
    cases ht
    rw [hm] at hm'
    cases hm'
  | unknown ha ht =>
    cases ha
    cases ht _ hticket

theorem not_sound_of_delivers {o₁ o₂ o₃ : OpenManagers Entries} {b : Act} {answer' : Answer}
    {x y : Moment Act Answer} {t : Ticket} (hturn : o.Turn e a answer o₁)
    (hx : x = ⟨o.scene .memory, a, answer, o₁.scene .memory⟩) (hlater : o₁.Later o₂)
    (ho : o₂.Numbered) (hturn' : o₂.Turn e b answer' o₃)
    (hy : y = ⟨o₂.scene .memory, b, answer', o₃.scene .memory⟩) (hdisowns : x.Disowns t)
    (hdelivers : y.Delivers t) : ¬ y.Sound := by
  subst hx
  obtain ⟨⟨-, m, q, hm, hcall, hq⟩, hlowered, callback, fault, hact, hanswer⟩ := hdisowns
  obtain ⟨-, m₂, q₂, hm₂, hcall₂, hq₂⟩ := hy ▸ hdelivers.current
  have hbefore := hturn.later.manager t.manager m hm
  dsimp only at hact hanswer hm₂
  subst hact hanswer
  obtain ⟨m₁, hm₁, hended⟩ := hturn.not_pending_of_refused hm (hlowered m hm)
  obtain ⟨m₁', hm₁', hle⟩ := hbefore
  obtain rfl : m₁ = m₁' := Option.some.inj (hm₁.symm.trans hm₁')
  obtain ⟨m₂', hm₂', hle₂⟩ := hlater.manager t.manager m₁ hm₁
  obtain rfl : m₂ = m₂' := Option.some.inj (hm₂.symm.trans hm₂')
  obtain rfl : q₂ = q := by
    rw [hcall] at hcall₂
    cases hcall₂
    rfl
  -- the epoch has not moved on, so no login began in between
  have hepoch : m₂.epoch = m₁.epoch := by
    have h₁ := hle.epoch_le
    have h₂ := hle₂.epoch_le
    omega
  refine hturn'.misplaced ho hy hdelivers hm₂ ?_
  cases hpending : m₂.phase.isPending with
  | false => rfl
  | true =>
    rw [(hle₂.pending hepoch hpending).1] at hended
    cases hended

/-- A moment is sound and leaves the manager settled, unless it delivers what was disowned. -/
theorem Settled.moment_sound {past : List (Moment Act Answer)} (h : Settled past o m)
    (hturn : o.Turn e a answer o') (ha : a ≠ .openManager) {x : Moment Act Answer}
    (hx : x = ⟨o.scene .memory, a, answer, o'.scene .memory⟩)
    (hsafe : ∀ t, x.Delivers t → ∀ y ∈ past, ¬ y.Disowns t) :
    x.Sound ∧ ∃ m', Settled (past ++ [x]) o' m' := by
  obtain ⟨m', hsettled, htoken⟩ := h.turn hturn ha hx hsafe
  refine ⟨?_, m', hsettled⟩
  subst hx
  constructor
  · exact hsettled.agrees
  · intro text hanswer
    have hfault : answer = .fault (.invalidTransition text) := hanswer
    rw [hfault] at hturn
    rcases hturn.invalidTransition with
      hrelays | ⟨number, n, q, m₁, granted, record, hact, ht, hm, hq, hr, hpending⟩
    · exact hrelays
    · obtain ⟨rfl, rfl⟩ := h.eq_of_get hm
      rw [h.pending_of_recorded rfl hsafe hact ht hm hq hr] at hpending
      cases hpending
  · intro fault hexchange hanswer
    have hsame := htoken hexchange fault hanswer
    have hmanagers : o'.managers.map (·.token) = o.managers.map (·.token) := by
      rw [h.alone, hsettled.alone, List.map_singleton, List.map_singleton, hsame]
    have hkept : o'.store.get? tokenKey = o.store.get? tokenKey := by
      rw [h.token, hsettled.token, hsame]
    exact ⟨hmanagers, congrArg Except.ok hkept⟩

section Runs

variable {σ : Type} {p : Platform σ}

theorem Settled.sound {past : List (Moment Act Answer)} (h : Settled past o m) {acts : List Act}
    (hacts : .openManager ∉ acts)
    (hsafe : (past ++ o.story p.inMemory acts).Pairwise
      fun x y => ∀ t, x.Disowns t → ¬ y.Delivers t) :
    ∀ x ∈ o.story p.inMemory acts, x.Sound := by
  -- what was told so far is carried along, for there an exchange was disowned
  induction acts generalizing past o m with
  | nil => exact fun x hx => absurd hx List.not_mem_nil
  | cons a acts ih =>
    have ha : a ≠ .openManager := fun heq => hacts (heq ▸ List.mem_cons_self)
    set x : Moment Act Answer := ⟨o.scene .memory, a, (o.step p.inMemory a).1,
      (o.step p.inMemory a).2.scene .memory⟩ with hx
    have hstory : o.story p.inMemory (a :: acts) =
      x :: (o.step p.inMemory a).2.story p.inMemory acts := rfl
    rw [hstory] at hsafe ⊢
    have hdelivers : ∀ t, x.Delivers t → ∀ y ∈ past, ¬ y.Disowns t := by
      intro t hdelivers y hy hdisowns
      exact (List.pairwise_append.mp hsafe).2.2 y hy x List.mem_cons_self t hdisowns hdelivers
    obtain ⟨hsound, m', hsettled⟩ := h.moment_sound (turn_step p a) ha hx hdelivers
    intro y hy
    rcases List.mem_cons.mp hy with rfl | hy
    · exact hsound
    · refine ih hsettled (fun hmem => hacts (List.mem_cons_of_mem a hmem)) ?_ y hy
      rw [List.append_assoc]
      exact hsafe

theorem pairwise_of_sound (ho : o.Numbered) {acts : List Act}
    (hsound : ∀ x ∈ o.story p.inMemory acts, x.Sound) :
    (o.story p.inMemory acts).Pairwise fun x y => ∀ t, x.Disowns t → ¬ y.Delivers t := by
  induction acts generalizing o with
  | nil => exact .nil
  | cons a acts ih =>
    have hturn := turn_step (o := o) p a
    refine .cons ?_ (ih (hturn.numbered ho) fun x hx => hsound x (List.mem_cons_of_mem _ hx))
    intro y hy t hdisowns hdelivers
    obtain ⟨ys, zs, hsplit⟩ := List.append_of_mem hy
    obtain ⟨bs, b, cs, -, -, hy', -⟩ := exists_of_story_eq hsplit
    exact not_sound_of_delivers hturn rfl (later_reach p _ bs)
      (numbered_reach p (hturn.numbered ho) bs) (turn_step p b) hy' hdisowns hdelivers
      (hsound y (List.mem_cons_of_mem _ hy))

end Runs

end OpenManagers

/-- One manager on its own agrees with its store, is never refused an event, and gets no token from
an exchange that is answered with a fault, exactly if no exchange is delivered that was
disowned. -/
theorem story_sound_iff {σ : Type} {p : Platform σ} {Holds : σ → Entries → Prop}
    (hp : p.Reliable Holds) {st : σ} {st' : Entries} (hst : Holds st st')
    {acts : List Act} (hacts : .openManager ∉ acts) :
    (∀ x ∈ (OpenManagers.closed st).story p (.openManager :: acts), x.Sound) ↔
      ((OpenManagers.closed st).story p (.openManager :: acts)).Pairwise
        fun x y => ∀ t, x.Disowns t → ¬ y.Delivers t := by
  rw [OpenManagers.story_eq_inMemory hp hst]
  constructor
  · exact OpenManagers.pairwise_of_sound (OpenManagers.numbered_closed st')
  · intro hsafe x hx
    have hturn := OpenManagers.turn_step (o := OpenManagers.closed st') p .openManager
    obtain ⟨⟨m, hsettled⟩, n, hanswer⟩ := OpenManagers.Settled.opened hturn
      [moment .memory (fun o a => OpenManagers.step p.inMemory o a) (.closed st') .openManager]
    rcases List.mem_cons.mp hx with rfl | hx
    · refine ⟨hsettled.agrees, fun text hfault => ?_, fun _ hexchange => ?_⟩
      · cases hanswer.symm.trans hfault
      · cases hexchange
    · exact hsettled.sound hacts hsafe x hx

set_option maxRecDepth 10000 in
/-- A login that goes through is not refused anything and leaves no contradiction. -/
theorem story_sound_of_login :
    let told := (OpenManagers.closed .empty).story .sample
      [.openManager, .login 0 "s1" "alice.example" (.secure "app.example" ["cb"]),
        .startExchange 0 "https://app.example/cb?code=XYZ&state=s1",
        .finishExchange 0 (.ok { accessToken := "token-XYZ" })]
    told.filterMap (·.answer.fault?) = [] ∧ ∀ x ∈ told, x.Sound := by
  have hfaults : ((OpenManagers.closed .empty).story .sample
      [.openManager, .login 0 "s1" "alice.example" (.secure "app.example" ["cb"]),
        .startExchange 0 "https://app.example/cb?code=XYZ&state=s1",
        .finishExchange 0 (.ok { accessToken := "token-XYZ" })]).filterMap (·.answer.fault?) =
      [] := by decide
  refine ⟨hfaults, (story_sound_iff Platform.sample_reliable rfl (by simp)).mpr ?_⟩
  refine List.pairwise_of_forall_mem_list fun x hx _ _ t hdisowns => ?_
  obtain ⟨callback, fault, -, hanswer⟩ := hdisowns.refused
  have hnone := List.filterMap_eq_nil_iff.mp hfaults x hx
  rw [hanswer] at hnone
  cases hnone

set_option maxRecDepth 10000 in
/-- Two exchanges are on the network when the first comes back too late; then the callback of the
second comes in again. -/
theorem not_story_sound_of_overlap :
    ¬ ∀ x ∈ (OpenManagers.closed .empty).story .sample
      [.openManager, .login 0 "s1" "alice.example" (.secure "app.example" ["cb"]),
        .startExchange 0 "https://app.example/cb?code=XYZ&state=s1",
        .login 0 "s2" "alice.example" (.secure "app.example" ["cb"]),
        .startExchange 0 "https://app.example/cb?code=XYZ&state=s2",
        .finishExchange 0 (.ok { accessToken := "token-XYZ" }),
        .startExchange 0 "https://app.example/cb?code=XYZ&state=s2",
        .finishExchange 1 (.ok { accessToken := "token-XYZ" })],
      x.Sound := by
  intro h
  exact (h _ (List.getElem_mem (n := 7) (by decide))).placed _ rfl

end SignIn
