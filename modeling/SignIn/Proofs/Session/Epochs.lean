import SignIn.Proofs.Session.Agreement
import SignIn.Proofs.Session.Identity

/-!
# Epochs of one manager

A manager that is alone with its store begins a new epoch exactly when it issues a login URL or
when its session is torn down. Within an epoch no second login state is kept, so at most one
exchange is sent, and the token comes in at most once, from that exchange. A run of the manager is
therefore looked at between two of its moments, and the epochs tell whether anything that matters
came between them.
-/

namespace SignIn

def Answer.url? : Answer → Option Url
  | .loginUrl url => some url
  | _ => none

/-- A login URL is issued, or the session is torn down. -/
def Moment.Renews (x : Moment Act Answer) : Prop :=
  x.answer.url? ≠ none ∨ x.after.notices ≠ x.before.notices

instance : DecidablePred Moment.Renews :=
  fun x => inferInstanceAs (Decidable (x.answer.url? ≠ none ∨ x.after.notices ≠ x.before.notices))

theorem Moment.Issues.renews {x : Moment Act Answer} {n : Nat} {state handle : String}
    (h : x.Issues n state handle) : x.Renews := by
  obtain ⟨redirect, url, -, hanswer⟩ := h
  refine .inl ?_
  rw [hanswer]
  exact Option.some_ne_none url

def Manager.session (m : Manager) : Phase × Option String × Option String :=
  (m.phase, m.handle, m.token)

/-- No session and no key changes, and no notice is given. -/
structure Moment.Unmoved (x : Moment Act Answer) : Prop where
  sessions : x.after.managers.map Manager.session = x.before.managers.map Manager.session
  keeps : x.after.keeps = x.before.keeps
  notices : x.after.notices = x.before.notices

def Moment.Returns (x : Moment Act Answer) (t : Ticket)
    (granted : Except AuthFault TokenResponse) : Prop :=
  x.act = .finishExchange t.number granted ∧ t ∈ x.before.waiting

/-- A manager remembers a handle with a token, and so does the store. -/
structure Scene.Records (c : Scene) (n : Nat) (handle token : String) : Prop where
  manager : ∃ m, c.managers[n]? = some m ∧ m.handle = some handle ∧ m.token = some token
  handle : c.keeps handleKey = .ok (some handle)
  token : c.keeps tokenKey = .ok (some token)

namespace OpenManagers

variable {e : Endpoints} {o o' : OpenManagers Entries} {m m' : Manager} {x : Moment Act Answer}

structure Spans (e : Endpoints) (o : OpenManagers Entries) (x : Moment Act Answer)
    (o' : OpenManagers Entries) : Prop where
  turn : o.Turn e x.act x.answer o'
  before : x.before = o.scene .memory
  after : x.after = o'.scene .memory

theorem spans_moment {σ : Type} (p : Platform σ) (o : OpenManagers Entries) (a : Act) :
    o.Spans p.endpoints (moment .memory (fun o a => o.step p.inMemory a) o a)
      (o.step p.inMemory a).2 :=
  ⟨turn_step p a, rfl, rfl⟩

/-- What is true of a manager that is alone with its store. -/
structure Alone (o : OpenManagers Entries) (m : Manager) : Prop where
  managers : o.managers = [m]
  numbered : o.Numbered
  dated : o.Dated
  awaited : o.store.get? stateKey ≠ none → m.phase.isPending ∧ m.token = none
  current : ∀ t, o.Current t → o.store.get? stateKey = none ∧ m.token = none
  lone : ∀ t ∈ o.waiting, ∀ t' ∈ o.waiting, ∀ q q', t.call = .exchange q →
    t'.call = .exchange q' → q.epoch = q'.epoch → t = t'
  fetch : ∀ t ∈ o.waiting, ∀ q, t.call = .fetch q → q.epoch = m.epoch → m.token = some q.token

/-- What a moment does to a manager that is alone with its store: it begins a new epoch with a login
or without a session, records the token of the exchange of this epoch, or leaves epoch, handle and
token. -/
inductive AloneTurn (o : OpenManagers Entries) (m : Manager) (x : Moment Act Answer)
    (o' : OpenManagers Entries) (m' : Manager) : Prop
  | issues {state handle : String} (hrenews : x.Renews) (hissues : x.Issues 0 state handle)
      (hepoch : m'.epoch = m.epoch + 1) (hhandle : m'.handle = some handle)
      (htoken : m'.token = none) (hstate : o'.store.get? stateKey = some state)
  | ends (hrenews : x.Renews) (hepoch : m'.epoch = m.epoch + 1) (htoken : m'.token = none)
      (hstate : o'.store.get? stateKey = none)
  | records {t : Ticket} {granted : TokenResponse} {handle : String} (hrenews : ¬ x.Renews)
      (ht : o.Current t) (hreturns : x.Returns t (.ok granted))
      (hhandle : m.handle.or granted.sub = some handle)
      (hepoch : m'.epoch = m.epoch) (hgone : t ∉ o'.waiting)
      (hrecords : x.after.Records 0 handle granted.accessToken)
      (hstate : o'.store.get? stateKey = none)
  | rests (hrenews : ¬ x.Renews) (hepoch : m'.epoch = m.epoch) (hhandle : m'.handle = m.handle)
      (htoken : m'.token = m.token)
      (hstate : o'.store.get? stateKey ≠ none → o'.store.get? stateKey = o.store.get? stateKey)

theorem AloneTurn.epoch_iff (h : o.AloneTurn m x o' m') :
    m.epoch ≤ m'.epoch ∧ (m'.epoch = m.epoch ↔ ¬ x.Renews) := by
  cases h with
  | issues hrenews _ hepoch | ends hrenews hepoch =>
    exact ⟨by omega, fun heq => by omega, fun hnot => absurd hrenews hnot⟩
  | records hrenews _ _ _ hepoch | rests hrenews hepoch =>
    exact ⟨hepoch.ge, fun _ => hrenews, fun _ => hepoch⟩

namespace Alone

theorem get (h : o.Alone m) : o.managers[0]? = some m := by simp [h.managers]

theorem eq_of_get (h : o.Alone m) {n : Nat} (hm : o.managers[n]? = some m') :
    n = 0 ∧ m = m' :=
  eq_of_get_alone h.managers hm

theorem mem_scene_iff (h : o.Alone m) : m' ∈ (o.scene .memory).managers ↔ m' = m := by
  simp [scene, h.managers]

theorem sent (h : o.Alone m) {t : Ticket} (ht : t ∈ o.waiting) :
    t.manager = 0 ∧ t.call.epoch ≤ m.epoch := by
  obtain ⟨m', hm', hle⟩ := h.dated t ht
  obtain ⟨hn, rfl⟩ := h.eq_of_get hm'
  exact ⟨hn, hle⟩

theorem current_iff (h : o.Alone m) {t : Ticket} :
    o.Current t ↔ t ∈ o.waiting ∧ ∃ q, t.call = .exchange q ∧ q.epoch = m.epoch := by
  rw [OpenManagers.current_iff h.managers]
  constructor
  · rintro ⟨ht, -, hq⟩
    exact ⟨ht, hq⟩
  · rintro ⟨ht, hq⟩
    exact ⟨ht, (h.sent ht).1, hq⟩

theorem adopting_eq (h : o.Alone m) : m.adopting o.store = m := by
  unfold Manager.adopting
  rw [if_neg]
  rintro ⟨hpending, hstate⟩
  exact hpending (h.awaited (Option.isSome_iff_ne_none.mp hstate)).1

theorem renew (h : o.Alone m) (hm : o'.managers = [m']) (hn : o'.Numbered) (hd : o'.Dated)
    (hepoch : m'.epoch = m.epoch + 1) (htoken : m'.token = none)
    (hawaited : o'.store.get? stateKey ≠ none → m'.phase.isPending)
    (hw : ∀ t ∈ o'.waiting, t ∈ o.waiting) : o'.Alone m' := by
  have hlt : ∀ t ∈ o'.waiting, t.call.epoch < m'.epoch := by
    intro t ht
    have hle := (h.sent (hw t ht)).2
    omega
  constructor
  · exact hm
  · exact hn
  · exact hd
  · exact fun hstate => ⟨hawaited hstate, htoken⟩
  · intro t ht
    obtain ⟨hmem, -, q, hcall, hq⟩ := (OpenManagers.current_iff hm).mp ht
    have hpast := hlt t hmem
    rw [hcall, Waiting.epoch_exchange] at hpast
    exact absurd hq hpast.ne
  · exact fun t ht t' ht' => h.lone t (hw t ht) t' (hw t' ht')
  · intro t ht q hcall hq
    have hpast := hlt t ht
    rw [hcall, Waiting.epoch_fetch] at hpast
    exact absurd hq hpast.ne

theorem stay (h : o.Alone m) (hm : o'.managers = [m']) (hn : o'.Numbered) (hd : o'.Dated)
    (hepoch : m'.epoch = m.epoch) (htoken : m'.token = m.token)
    (hstate : o'.store.get? stateKey ≠ none →
      o.store.get? stateKey ≠ none ∧ m'.phase = m.phase)
    (hw : ∀ t ∈ o'.waiting, t ∈ o.waiting) : o'.Alone m' := by
  constructor
  · exact hm
  · exact hn
  · exact hd
  · intro hkept
    obtain ⟨hbefore, hphase⟩ := hstate hkept
    rw [hphase, htoken]
    exact h.awaited hbefore
  · intro t ht
    obtain ⟨hmem, -, q, hcall, hq⟩ := (OpenManagers.current_iff hm).mp ht
    obtain ⟨hnone, hheld⟩ := h.current t
      (h.current_iff.mpr ⟨hw t hmem, q, hcall, hq.trans hepoch⟩)
    refine ⟨?_, htoken.trans hheld⟩
    by_contra hkept
    exact (hstate hkept).1 hnone
  · exact fun t ht t' ht' => h.lone t (hw t ht) t' (hw t' ht')
  · intro t ht q hcall hq
    rw [htoken]
    exact h.fetch t (hw t ht) q hcall (hq.trans hepoch)

theorem sendExchange (h : o.Alone m) {q : PendingExchange} (hq : q.epoch = m.epoch)
    (hkept : o.store.get? stateKey ≠ none) (hm : o'.managers = [{ m with exchanging := true }])
    (hn : o'.Numbered) (hd : o'.Dated) (hstate : o'.store.get? stateKey = none)
    (hw : o'.waiting = o.waiting ++ [⟨o.issued, 0, .exchange q⟩]) :
    o'.Alone { m with exchanging := true } := by
  have hnone : ∀ t ∈ o.waiting, ∀ q', t.call = .exchange q' → q'.epoch ≠ m.epoch := by
    intro t ht q' hcall hq'
    exact hkept (h.current t (h.current_iff.mpr ⟨ht, q', hcall, hq'⟩)).1
  have hcases : ∀ t ∈ o'.waiting, t ∈ o.waiting ∨ t = ⟨o.issued, 0, .exchange q⟩ := by
    intro t ht
    rcases List.mem_append.mp (hw ▸ ht) with ht | ht
    · exact .inl ht
    · exact .inr (List.mem_singleton.mp ht)
  constructor
  · exact hm
  · exact hn
  · exact hd
  · exact fun hsome => absurd hstate hsome
  · exact fun t _ => ⟨hstate, (h.awaited hkept).2⟩
  · intro t ht t' ht' q₁ q₂ hcall hcall' heq
    rcases hcases t ht with ht | rfl <;> rcases hcases t' ht' with ht' | rfl
    · exact h.lone t ht t' ht' q₁ q₂ hcall hcall' heq
    · cases hcall'
      exact absurd (heq.trans hq) (hnone t ht q₁ hcall)
    · cases hcall
      exact absurd (heq.symm.trans hq) (hnone t' ht' q₂ hcall')
    · rfl
  · intro t ht q' hcall hq'
    rcases hcases t ht with ht | rfl
    · exact h.fetch t ht q' hcall hq'
    · cases hcall

theorem sendFetch (h : o.Alone m) {q : PendingFetch} (htoken : m.token = some q.token)
    (hn : (o.enter 0 (.fetch q)).2.Numbered) (hd : (o.enter 0 (.fetch q)).2.Dated) :
    (o.enter 0 (.fetch q)).2.Alone m := by
  have hcases : ∀ t ∈ (o.enter 0 (.fetch q)).2.waiting,
      t ∈ o.waiting ∨ t = ⟨o.issued, 0, .fetch q⟩ := by
    intro t ht
    rcases List.mem_append.mp ht with ht | ht
    · exact .inl ht
    · exact .inr (List.mem_singleton.mp ht)
  constructor
  · exact h.managers
  · exact hn
  · exact hd
  · exact h.awaited
  · intro t ht
    have hm : (o.enter 0 (.fetch q)).2.managers = [m] := h.managers
    obtain ⟨hmem, -, q', hcall, hq'⟩ := (OpenManagers.current_iff hm).mp ht
    rcases hcases t hmem with hmem | rfl
    · exact h.current t (h.current_iff.mpr ⟨hmem, q', hcall, hq'⟩)
    · cases hcall
  · intro t ht t' ht' q₁ q₂ hcall hcall'
    rcases hcases t ht with ht | rfl <;> rcases hcases t' ht' with ht' | rfl
    · exact h.lone t ht t' ht' q₁ q₂ hcall hcall'
    · cases hcall'
    · cases hcall
    · cases hcall
  · intro t ht q' hcall hq'
    rcases hcases t ht with ht | rfl
    · exact h.fetch t ht q' hcall hq'
    · cases hcall
      exact htoken

theorem record (h : o.Alone m) {t : Ticket} {handle token : String} (ht : o.Current t)
    (hm : o'.managers = [m.recording handle token]) (hn : o'.Numbered) (hd : o'.Dated)
    (hstate : o'.store.get? stateKey = none)
    (hw : ∀ t' ∈ o'.waiting, t' ∈ o.waiting ∧ t' ≠ t) : o'.Alone (m.recording handle token) := by
  obtain ⟨hmem, q, hcall, hq⟩ := h.current_iff.mp ht
  constructor
  · exact hm
  · exact hn
  · exact hd
  · exact fun hsome => absurd hstate hsome
  · intro t' ht'
    obtain ⟨hmem', -, q', hcall', hq'⟩ := (OpenManagers.current_iff hm).mp ht'
    obtain ⟨hold, hne⟩ := hw t' hmem'
    exact absurd (h.lone t' hold t hmem q' q hcall' hcall (hq'.trans hq.symm)) hne
  · exact fun t₁ ht₁ t₂ ht₂ => h.lone t₁ (hw t₁ ht₁).1 t₂ (hw t₂ ht₂).1
  · intro t' ht' q' hcall' hq'
    have hheld := h.fetch t' (hw t' ht').1 q' hcall' hq'
    rw [(h.current t ht).2] at hheld
    cases hheld

theorem aloneTurn (h : o.Alone m) (hx : o.Spans e x o') (ha : x.act ≠ .openManager) :
    ∃ m', o'.Alone m' ∧ o.AloneTurn m x o' m' := by
  obtain ⟨before, a, answer, after⟩ := x
  obtain ⟨hturn, rfl, rfl⟩ := hx
  dsimp only at hturn ha
  have hn := hturn.numbered h.numbered
  have hd := hturn.dated h.dated
  have hself : ∀ {m'}, o.managers.set 0 m' = [m'] := by simp [h.managers]
  -- a turn that is neither answered with a URL nor given notice of
  have hquiet : answer.url? = none → o'.notices = o.notices →
      ¬ Moment.Renews ⟨o.scene .memory, a, answer, o'.scene .memory⟩ :=
    fun hanswer hnotices hrenews => hrenews.elim (· hanswer) (· hnotices)
  cases hturn with
  | restored | orphaned | resumed => exact absurd rfl ha
  | login hm state handle redirect =>
    obtain ⟨rfl, rfl⟩ := h.eq_of_get hm
    exact ⟨_, h.renew hself hn hd rfl rfl (fun _ => rfl) fun t ht => ht,
      .issues (.inl (Option.some_ne_none _)) ⟨redirect, _, rfl, rfl⟩ rfl rfl rfl (by simp)⟩
  | tokenless hm | loggedOut hm =>
    obtain ⟨rfl, rfl⟩ := h.eq_of_get hm
    exact ⟨_, h.renew hself hn hd rfl rfl (by simp) fun t ht => ht,
      .ends (.inr (by simp [scene, tearDown])) rfl rfl (by simp)⟩
  | rejected ht hm =>
    obtain ⟨rfl, rfl⟩ := h.eq_of_get hm
    exact ⟨_, h.renew hself hn hd rfl rfl (by simp) fun t ht => (mem_without.mp ht).1,
      .ends (.inr (by simp [scene, tearDown, without])) rfl rfl (by simp)⟩
  | refused hm =>
    obtain ⟨rfl, rfl⟩ := h.eq_of_get hm
    rw [h.adopting_eq] at hn hd hquiet ⊢
    exact ⟨_, h.stay hself hn hd (by simp) (by simp) (by simp) fun t ht => ht,
      .rests (hquiet rfl rfl) (by simp) (by simp) (by simp) (by simp)⟩
  | started hm hv =>
    obtain ⟨rfl, rfl⟩ := h.eq_of_get hm
    rw [h.adopting_eq] at hn hd hquiet ⊢
    exact ⟨_, h.sendExchange rfl (LoginFlow.ne_none_of_verdict hv) hself hn hd (by simp) rfl,
      .rests (hquiet rfl rfl) rfl rfl rfl (by simp)⟩
  | superseded ht hm =>
    obtain ⟨rfl, rfl⟩ := h.eq_of_get hm
    exact ⟨_, h.stay hself hn hd rfl rfl (fun hkept => ⟨hkept, rfl⟩)
        fun t ht => (mem_without.mp ht).1,
      .rests (hquiet rfl rfl) rfl rfl rfl fun _ => rfl⟩
  | failed ht hm hp =>
    obtain ⟨rfl, rfl⟩ := h.eq_of_get hm
    have hnone := (h.current _ (h.current_iff.mpr ⟨mem_of_ticket? ht, _, rfl, hp.symm⟩)).1
    exact ⟨_, h.stay hself hn hd (by simp) (by simp) (fun hkept => absurd hnone hkept)
        fun t ht => (mem_without.mp ht).1,
      .rests (hquiet rfl rfl) (by simp) (by simp) (by simp) fun _ => rfl⟩
  | @recorded number n _ q granted handle token ht hm hp hr =>
    obtain ⟨rfl, rfl⟩ := h.eq_of_get hm
    have hcurrent : o.Current ⟨number, 0, .exchange q⟩ :=
      h.current_iff.mpr ⟨mem_of_ticket? ht, _, rfl, hp.symm⟩
    have hnone := (h.current _ hcurrent).1
    have hgone : ∀ t ∈ (o.without number).waiting,
        t ∈ o.waiting ∧ t ≠ ⟨number, 0, .exchange q⟩ := by
      intro t ht
      obtain ⟨hmem, hne⟩ := mem_without.mp ht
      exact ⟨hmem, fun heq => hne (heq ▸ rfl)⟩
    have hanswer : (if m.phase.isPending then Answer.token token else .fault m.misplaced).url? =
        none := by
      split <;> rfl
    cases granted with
    | error fault => cases hr
    | ok granted =>
      obtain ⟨hhandle, rfl⟩ := Manager.recorded_eq_ok hr
      refine ⟨_, h.record hcurrent hself hn hd (by simpa using hnone) hgone,
        .records (hquiet hanswer rfl) hcurrent ⟨rfl, mem_of_ticket? ht⟩ hhandle rfl
          (fun ht => (hgone _ ht).2 rfl) ⟨?_, ?_, ?_⟩ (by simpa using hnone)⟩
      · exact ⟨m.recording handle granted.accessToken, by simp [scene, seat, without, h.managers],
          rfl, rfl⟩
      · simp [scene, Storage.memory, Storage.Memory.get]
      · simp [scene, Storage.memory, Storage.Memory.get]
  | unsent hm =>
    exact ⟨m, h, .rests (hquiet rfl rfl) rfl rfl rfl fun _ => rfl⟩
  | sent hm htoken =>
    obtain ⟨rfl, rfl⟩ := h.eq_of_get hm
    exact ⟨_, h.sendFetch htoken hn hd, .rests (hquiet rfl rfl) rfl rfl rfl fun _ => rfl⟩
  | late | dropped =>
    exact ⟨_, h.stay h.managers hn hd rfl rfl (fun hkept => ⟨hkept, rfl⟩)
        fun t ht => (mem_without.mp ht).1,
      .rests (hquiet rfl rfl) rfl rfl rfl fun _ => rfl⟩
  | @answered number n _ q received =>
    have hanswer : (Answer.ofFetch (Gateway.interpret received)).url? = none := by
      cases Gateway.interpret received <;> rfl
    exact ⟨_, h.stay h.managers hn hd rfl rfl (fun hkept => ⟨hkept, rfl⟩)
        fun t ht => (mem_without.mp ht).1,
      .rests (hquiet hanswer rfl) rfl rfl rfl fun _ => rfl⟩
  | lost =>
    exact ⟨_, h.stay h.managers hn hd rfl rfl (fun hkept => ⟨hkept, rfl⟩)
        fun t ht => (mem_without.mp ht).1,
      .rests (hquiet rfl rfl) rfl rfl rfl fun _ => rfl⟩
  | absent | unknown =>
    exact ⟨m, h, .rests (hquiet rfl rfl) rfl rfl rfl fun _ => rfl⟩

theorem opened {st : Entries} (hx : (closed st).Spans e x o) (ha : x.act = .openManager) :
    ∃ m, o.Alone m ∧ o.waiting = [] ∧
      (m.phase.isPending ↔ o.store.get? stateKey ≠ none) ∧
      (o.store.get? stateKey ≠ none →
        o.store.get? stateKey = st.get? stateKey ∧ m.handle = st.get? handleKey) := by
  obtain ⟨before, a, answer, after⟩ := x
  obtain ⟨hturn, rfl, rfl⟩ := hx
  dsimp only at hturn ha
  subst ha
  have hn := hturn.numbered (numbered_closed st)
  have hd := hturn.dated (dated_closed st)
  -- a manager without calls is alone if what it waits for is the state that is kept
  have halone : ∀ {m}, o.managers = [m] → o.waiting = [] →
      (o.store.get? stateKey ≠ none → m.phase.isPending ∧ m.token = none) → o.Alone m := by
    intro m hm hw hawaited
    have hnone : ∀ t, t ∉ o.waiting := fun t ht => by simp [hw] at ht
    exact ⟨hm, hn, hd, hawaited, fun t ht => absurd ht.1 (hnone t),
      fun t ht => absurd ht (hnone t), fun t ht => absurd ht (hnone t)⟩
  cases hturn with
  | restored ht hh =>
    refine ⟨_, halone rfl rfl (by simp), rfl, ?_, by simp⟩
    simp [Phase.isPending]
  | orphaned ht hh =>
    refine ⟨_, halone rfl rfl (by simp), rfl, ?_, by simp⟩
    simp [Phase.isPending]
  | resumed ht =>
    have hpending : (if ((closed st).store.get? stateKey).isSome then Phase.loginPending
        else .unauthenticated).isPending ↔ (closed st).store.get? stateKey ≠ none := by
      cases (closed st).store.get? stateKey <;> simp [Phase.isPending]
    exact ⟨_, halone rfl rfl fun hkept => ⟨hpending.mpr hkept, rfl⟩, rfl, hpending,
      fun _ => ⟨rfl, rfl⟩⟩
  | absent ha | lost ha | unknown ha => cases ha

end Alone

/-! ## Runs -/

/-- Moments that lead from managers in memory to what becomes of them, none of which opens a
manager. -/
inductive Passes (e : Endpoints) (o : OpenManagers Entries) :
    List (Moment Act Answer) → OpenManagers Entries → Prop
  | nil : Passes e o [] o
  | concat {xs o₁ x o₂} (h : Passes e o xs o₁) (hx : o₁.Spans e x o₂)
      (ha : x.act ≠ .openManager) : Passes e o (xs ++ [x]) o₂

theorem Passes.later {xs : List (Moment Act Answer)} (h : o.Passes e xs o') : o.Later o' := by
  induction h with
  | nil => exact .refl o
  | concat _ hx _ ih => exact ih.trans hx.turn.later

theorem Spans.not_renews (hx : o.Spans e x o') (ha : x.act = .openManager) : ¬ x.Renews := by
  obtain ⟨before, a, answer, after⟩ := x
  obtain ⟨hturn, rfl, rfl⟩ := hx
  dsimp only at hturn ha
  subst ha
  cases hturn with
  | restored | orphaned | resumed => simp [Moment.Renews, Answer.url?, scene]
  | absent ha | lost ha | unknown ha => cases ha

theorem Passes.exists_spans {xs : List (Moment Act Answer)} {z : Moment Act Answer}
    (h : o.Passes e xs o') (hz : z ∈ xs) : ∃ o₁ o₂ : OpenManagers Entries, o₁.Spans e z o₂ := by
  induction h with
  | nil => cases hz
  | concat _ hx _ ih =>
    rcases List.mem_append.mp hz with hz | hz
    · exact ih hz
    · exact ⟨_, _, List.mem_singleton.mp hz ▸ hx⟩

theorem Spans.exchange_of_sends (hx : o.Spans e x o') {n : Nat} {t : Ticket}
    (h : x.Sends n t) : ∃ q, t.call = .exchange q := by
  obtain ⟨callback, hact, hanswer⟩ := h
  have hturn := hx.turn
  rw [hact, hanswer] at hturn
  obtain ⟨m, request, -, -, rfl, -⟩ := hturn.of_sent
  exact ⟨_, rfl⟩

section Stories

variable {σ : Type} {p : Platform σ} {acts : List Act} {past rest : List (Moment Act Answer)}

theorem exists_spans_of_story_eq (hstory : o.story p.inMemory acts = past ++ x :: rest) :
    ∃ o₁ o₂ : OpenManagers Entries, o₁.Spans p.endpoints x o₂ := by
  obtain ⟨before, a, after, -, -, rfl, -⟩ := exists_of_story_eq hstory
  exact ⟨_, _, spans_moment p _ a⟩

theorem passes_story (hacts : .openManager ∉ acts) :
    o.Passes p.endpoints (o.story p.inMemory acts) (o.run p.inMemory acts) := by
  induction acts using List.reverseRecOn with
  | nil => exact .nil
  | append_singleton acts a ih =>
    simp only [List.mem_append, List.mem_singleton, not_or] at hacts
    have hrun : o.run p.inMemory (acts ++ [a]) = ((o.run p.inMemory acts).step p.inMemory a).2 := by
      simp [run]
    rw [story, story_concat, hrun]
    exact .concat (ih hacts.1) (spans_moment p _ a) (Ne.symm hacts.2)

theorem exists_passes_of_story_eq (hacts : .openManager ∉ acts)
    (hstory : o.story p.inMemory acts = past ++ x :: rest) :
    ∃ o₁ o₂ acts', o.Passes p.endpoints past o₁ ∧ o₁.Spans p.endpoints x o₂ ∧
      x.act ≠ .openManager ∧ .openManager ∉ acts' ∧ rest = o₂.story p.inMemory acts' := by
  obtain ⟨before, a, after, rfl, rfl, rfl, rfl⟩ := exists_of_story_eq hstory
  simp only [List.mem_append, List.mem_cons, not_or] at hacts
  exact ⟨_, _, after, passes_story hacts.1, spans_moment p _ a, Ne.symm hacts.2.1, hacts.2.2, rfl⟩

theorem exists_passes_after {st : Entries} (hacts : .openManager ∉ acts)
    (hstory : (closed st).story p.inMemory (.openManager :: acts) = past ++ x :: rest) :
    ∃ x₀ xs o₀ o₁, past ++ [x] = x₀ :: xs ∧ (closed st).Spans p.endpoints x₀ o₀ ∧
      x₀.act = .openManager ∧ o₀.Passes p.endpoints xs o₁ ∧ x.after = o₁.scene .memory ∧
      ∀ z ∈ xs, z.act ∈ acts := by
  have hopened := spans_moment p (closed st) .openManager
  cases past with
  | nil =>
    obtain ⟨rfl, -⟩ := List.cons.inj hstory
    exact ⟨_, [], _, _, rfl, hopened, rfl, .nil, rfl, by simp⟩
  | cons x₀ past =>
    obtain ⟨rfl, htail : SignIn.story _ _ _ acts = past ++ x :: rest⟩ := List.cons.inj hstory
    obtain ⟨o₁, o₂, -, hpasses, hspans, ha, -⟩ := exists_passes_of_story_eq hacts htail
    refine ⟨_, _, _, o₂, rfl, hopened, rfl, hpasses.concat hspans ha, hspans.after, ?_⟩
    intro z hz
    have hmem : z ∈ past ++ x :: rest := by
      rw [List.append_cons]
      exact List.mem_append_left rest hz
    have hact : z.act ∈ (past ++ x :: rest).map (·.act) := List.mem_map_of_mem hmem
    rwa [← htail, map_act_story] at hact

/-- A run begins with the opening of the manager, and passes from there. -/
theorem exists_opened_of_story_eq {st : Entries} (hacts : .openManager ∉ acts)
    (hstory : (closed st).story p.inMemory (.openManager :: acts) = past ++ x :: rest)
    (hx : x.act ≠ .openManager) :
    ∃ x₀ past' o₀ o₁ o₂ acts', past = x₀ :: past' ∧ (closed st).Spans p.endpoints x₀ o₀ ∧
      x₀.act = .openManager ∧ o₀.Passes p.endpoints past' o₁ ∧ o₁.Spans p.endpoints x o₂ ∧
      .openManager ∉ acts' ∧ rest = o₂.story p.inMemory acts' := by
  have hopened := spans_moment p (closed st) .openManager
  cases past with
  | nil =>
    obtain ⟨hfirst, -⟩ := List.cons.inj hstory
    exact absurd (hfirst ▸ rfl) hx
  | cons x₀ past' =>
    obtain ⟨rfl, htail⟩ := List.cons.inj hstory
    obtain ⟨o₁, o₂, acts', hpasses, hspans, -, hacts', hrest⟩ :=
      exists_passes_of_story_eq hacts htail
    exact ⟨_, past', _, o₁, o₂, acts', rfl, hopened, rfl, hpasses, hspans, hacts', hrest⟩

end Stories

namespace Alone

variable {xs : List (Moment Act Answer)} {t : Ticket}

theorem passes (h : o.Alone m) (hpasses : o.Passes e xs o') :
    ∃ m', o'.Alone m' ∧ m.epoch ≤ m'.epoch ∧
      (m'.epoch = m.epoch ↔ ∀ z ∈ xs, ¬ z.Renews) := by
  induction hpasses with
  | nil => exact ⟨m, h, le_refl _, by simp⟩
  | @concat xs o₁ x o₂ _ hx ha ih =>
    obtain ⟨m₁, h₁, hle, hiff⟩ := ih
    obtain ⟨m₂, h₂, hlone⟩ := h₁.aloneTurn hx ha
    have hlast : (∀ z ∈ xs ++ [x], ¬ z.Renews) ↔ (∀ z ∈ xs, ¬ z.Renews) ∧ ¬ x.Renews := by
      simp [or_imp, forall_and]
    obtain ⟨hle', hiff'⟩ := hlone.epoch_iff
    refine ⟨m₂, h₂, hle.trans hle', ?_⟩
    rw [hlast, ← hiff, ← hiff']
    omega

/-- What holds before all moments and is kept by every such turn holds of the manager afterwards. -/
theorem passes_induction {motive : List (Moment Act Answer) → OpenManagers Entries → Manager → Prop}
    (h : o.Alone m) (hnil : motive [] o m)
    (hconcat : ∀ xs o₁ m₁ x o₂ m₂, o.Passes e xs o₁ → o₁.Alone m₁ → o₁.Spans e x o₂ →
      x.act ≠ .openManager → o₂.Alone m₂ → o₁.AloneTurn m₁ x o₂ m₂ → motive xs o₁ m₁ →
      motive (xs ++ [x]) o₂ m₂)
    (hpasses : o.Passes e xs o') (h' : o'.Alone m') : motive xs o' m' := by
  induction hpasses generalizing m' with
  | nil =>
    obtain ⟨-, rfl⟩ := h.eq_of_get h'.get
    exact hnil
  | @concat xs o₁ x o₂ hpasses hx ha ih =>
    obtain ⟨m₁, h₁, -⟩ := h.passes hpasses
    obtain ⟨m₂, h₂, hlone⟩ := h₁.aloneTurn hx ha
    obtain ⟨-, rfl⟩ := h₂.eq_of_get h'.get
    exact hconcat xs o₁ m₁ x o₂ m₂ hpasses h₁ hx ha h₂ hlone (ih h₁)

/-- A call comes back to the epoch in which it was sent exactly if nothing renewed it. -/
theorem epoch_iff {o₁ o₂ : OpenManagers Entries} {m₂ : Manager} (hx : o.Spans e x o₁)
    (hanswer : x.answer = .waits t) (h₁ : o₁.Alone m) (hpasses : o₁.Passes e xs o₂)
    (h₂ : o₂.Alone m₂) : t.call.epoch = m₂.epoch ↔ ∀ z ∈ xs, ¬ z.Renews := by
  have hturn := hx.turn
  rw [hanswer] at hturn
  obtain ⟨m₁, hm₁, hepoch, -⟩ := hturn.sent_by
  obtain ⟨-, rfl⟩ := h₁.eq_of_get hm₁
  obtain ⟨m₂', h₂', -, hiff⟩ := h₁.passes hpasses
  obtain ⟨-, rfl⟩ := h₂.eq_of_get h₂'.get
  rw [hepoch, eq_comm]
  exact hiff

theorem handle_eq (h : o.Alone m) (ht : o.Current t) (hpasses : o.Passes e xs o')
    (h' : o'.Alone m') (ht' : o'.Current t) : m'.handle = m.handle := by
  refine h.passes_induction (motive := fun _ o' m' => o'.Current t → m'.handle = m.handle)
    (fun _ => rfl) ?_ hpasses h' ht'
  intro xs o₁ m₁ x o₂ m₂ hpasses h₁ hx ha h₂ hlone ih ht₂
  obtain ⟨hmem, q, hcall, hq⟩ := h.current_iff.mp ht
  obtain ⟨hmem₂, q₂, hcall₂, hq₂⟩ := h₂.current_iff.mp ht₂
  obtain rfl : q = q₂ := by
    rw [hcall] at hcall₂
    exact Waiting.exchange.inj hcall₂
  have hold : t.number < o₁.issued :=
    (h.numbered.lt_issued t hmem).trans_le hpasses.later.issued_le
  have hmem₁ : t ∈ o₁.waiting := hx.turn.later.waiting t hmem₂ hold
  have hepoch := (h₁.sent hmem₁).2
  rw [hcall, Waiting.epoch_exchange] at hepoch
  cases hlone with
  | issues _ _ hnext | ends _ hnext => omega
  | @records t₁ granted handle _ ht₁ _ _ hsame hgone =>
    obtain ⟨hmem₁', q₁, hcall₁, hq₁⟩ := h₁.current_iff.mp ht₁
    have heq := h₁.lone t₁ hmem₁' t hmem₁ q₁ q hcall₁ hcall (by omega)
    exact absurd hmem₂ (heq ▸ hgone)
  | rests _ hsame hhandle =>
    rw [hhandle]
    exact ih (h₁.current_iff.mpr ⟨hmem₁, q, hcall, by omega⟩)

end Alone

section Stories

variable {σ : Type} {p : Platform σ} {st : Entries} {acts : List Act}

/-- Every moment of a run leaves the manager alone with its store. -/
theorem exists_alone_after (hacts : .openManager ∉ acts)
    (hx : x ∈ (closed st).story p.inMemory (.openManager :: acts)) :
    ∃ (o : OpenManagers Entries) (m : Manager), x.after = o.scene .memory ∧ o.Alone m := by
  obtain ⟨past, rest, hsplit⟩ := List.append_of_mem hx
  obtain ⟨x₀, xs, o₀, o₁, -, hx₀, ha₀, hpasses, hafter, -⟩ := exists_passes_after hacts hsplit
  obtain ⟨m₀, h₀, -⟩ := Alone.opened hx₀ ha₀
  obtain ⟨m₁, h₁, -⟩ := h₀.passes hpasses
  exact ⟨o₁, m₁, hafter, h₁⟩

theorem exists_course_of_story_eq {before between rest : List (Moment Act Answer)}
    {y : Moment Act Answer} (hacts : .openManager ∉ acts)
    (hstory : (closed st).story p.inMemory (.openManager :: acts) =
      before ++ x :: (between ++ y :: rest)) (hx : x.act ≠ .openManager) :
    ∃ x₀ past o₀ o₁ m₁ o₂ m₂ o₃ m₃ o₄, before = x₀ :: past ∧
      (closed st).Spans p.endpoints x₀ o₀ ∧ x₀.act = .openManager ∧
      o₀.Passes p.endpoints past o₁ ∧ o₁.Alone m₁ ∧ o₁.Spans p.endpoints x o₂ ∧ o₂.Alone m₂ ∧
      o₁.AloneTurn m₁ x o₂ m₂ ∧ o₂.Passes p.endpoints between o₃ ∧ o₃.Alone m₃ ∧
      o₃.Spans p.endpoints y o₄ := by
  obtain ⟨x₀, past, o₀, o₁, o₂, acts₂, hbefore, hx₀, ha₀, hpast, hspans, hacts₂, hrest⟩ :=
    exists_opened_of_story_eq hacts hstory hx
  obtain ⟨o₃, o₄, -, hbetween, hy, -⟩ := exists_passes_of_story_eq hacts₂ hrest.symm
  obtain ⟨m₀, h₀, -⟩ := Alone.opened hx₀ ha₀
  obtain ⟨m₁, h₁, -⟩ := h₀.passes hpast
  obtain ⟨m₂, h₂, hlone⟩ := h₁.aloneTurn hspans hx
  obtain ⟨m₃, h₃, -⟩ := h₂.passes hbetween
  exact ⟨x₀, past, o₀, o₁, m₁, o₂, m₂, o₃, m₃, o₄, hbefore, hx₀, ha₀, hpast, h₁, hspans, h₂,
    hlone, hbetween, h₃, hy⟩

end Stories

end OpenManagers

end SignIn
