import SignIn.Proofs.Session.FaultyTurn
import SignIn.Proofs.Session.Handover

/-!
# What the failing of a store does to a session

One manager over a store whose calls may fail. Between its operations the manager shows a session
exactly if it remembers a token, and so exactly if its next fetch is sent. Only one course of
events divides the session: a manager that shows a session and cannot issue a login URL has
forgotten its token, and shows the session still.
-/

namespace SignIn

/-- A manager that shows a session fails to issue a login URL. -/
def Moment.Stumbles (x : Moment Operation Answer) : Prop :=
  ∃ n state handle redirect fault m, x.act = .login n state handle redirect ∧
    x.answer = .fault fault ∧ x.before.managers[n]? = some m ∧ m.isAuthenticated

namespace Manager

theorem named_adopting {m : Manager} (h : m.token.isSome → m.handle.isSome) (st : Entries) :
    (m.adopting st).token.isSome → (m.adopting st).handle.isSome := by
  obtain ⟨-, -, hadopts⟩ | ⟨-, hsame⟩ := m.adopting_cases st
  · rw [hadopts]
    exact fun hsome => absurd hsome Bool.false_ne_true
  · rwa [hsame]

end Manager

namespace OpenManagers

/-- A manager shows a session exactly if it remembers a token, and exactly if a fetch that is not
refused for its target is sent. -/
def Undivided {σ : Type} (p : Platform σ) (o : OpenManagers σ) : Prop :=
  ∀ n m, o.managers[n]? = some m → m.isAuthenticated = m.token.isSome ∧
    ∀ request prepared, Gateway.prepare p.endpoints.serverOrigin request = .ok prepared →
      (m.isAuthenticated ↔ ∃ t, (o.step p (.startFetch n request)).1 = .waits t)

/-- At most one manager, of which a state is kept only while it shows no session and no exchange of
its epoch is on the network. -/
structure Single (o : OpenManagers Entries) : Prop where
  alone : ∀ m ∈ o.managers, o.managers = [m]
  numbered : o.Numbered
  dated : o.Dated
  named : ∀ m ∈ o.managers, m.token.isSome → m.handle.isSome
  spent : ∀ m ∈ o.managers, m.isAuthenticated → o.store.get? stateKey = none
  used : ∀ t, o.Current t → o.store.get? stateKey = none

variable {e : Endpoints} {o o' : OpenManagers Entries} {a : Act} {answer : Answer} {n : Nat}
  {m m' : Manager}

/-! ## What faulty turns leave as it is -/

theorem FaultyTurn.waiting (h : o.FaultyTurn a answer o') :
    (∀ t ∈ o'.waiting, t ∈ o.waiting) ∧ o'.issued = o.issued := by
  cases h with
  | unkept | rejected => exact ⟨fun t ht => (mem_without.mp ht).1, rfl⟩
  | unopened | unissued | unread | unadopted | untaken | tokenless | loggedOut =>
    exact ⟨fun t ht => ht, rfl⟩

theorem FaultyTurn.later (h : o.FaultyTurn a answer o') : o.Later o' := by
  obtain ⟨hsub, hissued⟩ := h.waiting
  refine ⟨hissued.ge, fun t ht _ => hsub t ht, fun n m hm => ?_⟩
  cases h with
  | unopened | unread => exact ⟨m, hm, .refl m⟩
  | unissued hm₁ | unadopted hm₁ =>
    exact exists_later_of_set hm₁ ⟨le_refl _, fun _ h => ⟨h, rfl⟩⟩ hm
  | untaken hm₁ =>
    exact exists_later_of_set hm₁
      ((Manager.later_adopting _ _).trans (Manager.later_refusing _)) hm
  | unkept _ hm₁ =>
    exact exists_later_of_set (o := o.without _) hm₁
      ((Manager.later_exchanging _ _).trans (Manager.later_failExchange _)) hm
  | tokenless hm₁ | loggedOut hm₁ =>
    exact exists_later_of_set hm₁ (Manager.later_tornDown _) hm
  | rejected _ hm₁ =>
    exact exists_later_of_set (o := o.without _) hm₁ (Manager.later_tornDown _) hm

theorem FaultyTurn.numbered (h : o.FaultyTurn a answer o') (ho : o.Numbered) : o'.Numbered := by
  obtain ⟨hsub, hissued⟩ := h.waiting
  exact ⟨fun t ht => hissued ▸ ho.lt_issued t (hsub t ht),
    fun t ht t' ht' => ho.injective t (hsub t ht) t' (hsub t' ht')⟩

theorem FaultyTurn.dated (h : o.FaultyTurn a answer o') (ho : o.Dated) : o'.Dated :=
  fun t ht => ho.later h.later (h.waiting.1 t ht)

/-! ## One manager -/

namespace Single

theorem set_eq (h : o.Single) (hm : o.managers[n]? = some m) (m' : Manager) :
    o.managers.set n m' = [m'] := by
  have halone := h.alone m (List.mem_of_getElem? hm)
  obtain ⟨rfl, -⟩ := eq_of_get_alone halone hm
  rw [halone]
  rfl

theorem of_managers (hm : o'.managers = [m']) (hn : o'.Numbered) (hd : o'.Dated)
    (hnamed : m'.token.isSome → m'.handle.isSome)
    (hspent : m'.isAuthenticated → o'.store.get? stateKey = none)
    (hused : ∀ t, o'.Current t → o'.store.get? stateKey = none) : o'.Single := by
  constructor
  · simp [hm]
  · exact hn
  · exact hd
  · simpa [hm] using hnamed
  · simpa [hm] using hspent
  · exact hused

theorem of_state_eq_none (hm : o'.managers = [m']) (hn : o'.Numbered) (hd : o'.Dated)
    (hnamed : m'.token.isSome → m'.handle.isSome) (hstate : o'.store.get? stateKey = none) :
    o'.Single :=
  of_managers hm hn hd hnamed (fun _ => hstate) fun _ _ => hstate

theorem renew (h : o.Single) (hget : o.managers[n]? = some m) (hm : o'.managers = [m'])
    (hn : o'.Numbered) (hd : o'.Dated) (hauth : m'.isAuthenticated = false)
    (htoken : m'.token = none) (hepoch : m'.epoch = m.epoch + 1) (hsub : o'.Exchanges o) :
    o'.Single := by
  refine of_managers hm hn hd (fun hsome => ?_) (fun hshown => ?_) fun t ht => ?_
  · rw [htoken] at hsome
    cases hsome
  · rw [hauth] at hshown
    cases hshown
  · obtain ⟨hmem, -, q, hcall, hq⟩ := (current_iff hm).mp ht
    obtain ⟨m₁, hm₁, hle⟩ := h.dated t (hsub t hmem q hcall)
    obtain ⟨-, rfl⟩ := eq_of_get_alone (h.alone m (List.mem_of_getElem? hget)) hm₁
    rw [hcall, Waiting.epoch_exchange] at hle
    omega

theorem stay (h : o.Single) (hget : o.managers[n]? = some m) (hm : o'.managers = [m'])
    (hn : o'.Numbered) (hd : o'.Dated) (hnamed : m'.token.isSome → m'.handle.isSome)
    (hauth : m'.isAuthenticated = m.isAuthenticated) (hepoch : m'.epoch = m.epoch)
    (hstate : o'.store.get? stateKey = o.store.get? stateKey) (hsub : o'.Exchanges o) :
    o'.Single := by
  have hmem := List.mem_of_getElem? hget
  refine of_managers hm hn hd hnamed (fun hshown => ?_) fun t ht => ?_
  · rw [hstate]
    exact h.spent m hmem (hauth ▸ hshown)
  · obtain ⟨hwaits, hzero, q, hcall, hq⟩ := (current_iff hm).mp ht
    rw [hstate]
    exact h.used t ((current_iff (h.alone m hmem)).mpr
      ⟨hsub t hwaits q hcall, hzero, q, hcall, hq.trans hepoch⟩)

theorem rest (h : o.Single) (hm : o'.managers = o.managers) (hn : o'.Numbered) (hd : o'.Dated)
    (hstore : o'.store = o.store) (hsub : o'.Exchanges o) : o'.Single := by
  constructor
  · rw [hm]
    exact h.alone
  · exact hn
  · exact hd
  · rw [hm]
    exact h.named
  · rw [hm, hstore]
    exact h.spent
  · rintro t ⟨hmem, m, q, hget, hcall, hq⟩
    rw [hstore]
    exact h.used t ⟨hsub t hmem q hcall, m, q, by simpa only [scene, hm] using hget, hcall, hq⟩

theorem named_of_get (h : o.Single) (hm : o.managers[n]? = some m) :
    m.token.isSome → m.handle.isSome :=
  h.named m (List.mem_of_getElem? hm)

theorem state_of_ticket (h : o.Single) {number : Nat} {q : PendingExchange}
    (ht : o.ticket? number = some ⟨number, n, .exchange q⟩) (hm : o.managers[n]? = some m)
    (hq : m.epoch = q.epoch) : o.store.get? stateKey = none :=
  h.used _ ⟨mem_of_ticket? ht, m, q, hm, rfl, hq.symm⟩

theorem turn (h : o.Single) (hturn : o.Turn e a answer o') (ha : a ≠ .openManager) :
    o'.Single := by
  have hn := hturn.numbered h.numbered
  have hd := hturn.dated h.dated
  cases hturn with
  | restored | orphaned | resumed => exact absurd rfl ha
  | login hm => exact h.renew hm (h.set_eq hm _) hn hd rfl rfl rfl fun t ht _ _ => ht
  | refused hm =>
    refine of_state_eq_none (h.set_eq hm _) hn hd ?_ (by simp)
    simpa using Manager.named_adopting (h.named_of_get hm) o.store
  | started hm =>
    exact of_state_eq_none (h.set_eq hm _) hn hd
      (Manager.named_adopting (h.named_of_get hm) o.store) (by simp)
  | superseded ht hm =>
    have hnamed := h.named_of_get hm
    exact h.stay hm (h.set_eq hm _) hn hd hnamed rfl rfl rfl (exchanges_without o _)
  | failed ht hm =>
    have hnamed := h.named_of_get hm
    exact h.stay hm (h.set_eq hm _) hn hd (by simpa using hnamed) (by simp; rfl) (by simp) rfl
      (exchanges_without o _)
  | recorded ht hm hp =>
    exact of_state_eq_none (h.set_eq hm _) hn hd (fun _ => rfl)
      (by simpa using h.state_of_ticket ht hm hp)
  | tokenless hm | loggedOut hm | rejected _ hm =>
    exact of_state_eq_none (h.set_eq hm _) hn hd (fun hsome => absurd hsome Bool.false_ne_true)
      (by simp)
  | unsent | absent | unknown => exact h
  | sent hm =>
    refine h.rest rfl hn hd rfl fun t ht q hcall => ?_
    rcases List.mem_append.mp ht with ht | ht
    · exact ht
    · rw [List.mem_singleton.mp ht] at hcall
      cases hcall
  | late | answered | dropped | lost => exact h.rest rfl hn hd rfl (exchanges_without o _)

theorem faultyTurn (h : o.Single) (hfaulty : o.FaultyTurn a answer o') (ha : a ≠ .openManager) :
    o'.Single := by
  have hn := hfaulty.numbered h.numbered
  have hd := hfaulty.dated h.dated
  have hbare : (none : Option String).isSome → False := Bool.false_ne_true
  cases hfaulty with
  | unopened => exact absurd rfl ha
  | unissued hm hstate =>
    exact h.stay hm (h.set_eq hm _) hn hd (fun hsome => (hbare hsome).elim) rfl rfl hstate
      fun t ht _ _ => ht
  | unread => exact h
  | unadopted hm =>
    exact h.stay hm (h.set_eq hm _) hn hd (fun hsome => (hbare hsome).elim) rfl rfl rfl
      fun t ht _ _ => ht
  | @untaken n m callback cause hm =>
    obtain ⟨-, -, hadopts⟩ | ⟨-, hsame⟩ := m.adopting_cases o.store
    · rw [hadopts] at hn hd ⊢
      exact h.renew hm (h.set_eq hm _) hn hd (by simp; rfl) (by simp; rfl) (by simp; rfl)
        fun t ht _ _ => ht
    · rw [hsame] at hn hd ⊢
      exact h.stay hm (h.set_eq hm _) hn hd (by simpa using h.named_of_get hm) (by simp) (by simp)
        rfl fun t ht _ _ => ht
  | unkept ht hm hp hr hstate =>
    have hnamed := h.named_of_get hm
    exact of_state_eq_none (h.set_eq hm _) hn hd (by simpa using hnamed)
      (hstate.trans (h.state_of_ticket ht hm hp))
  | tokenless hm | loggedOut hm =>
    exact h.renew hm (h.set_eq hm _) hn hd rfl rfl rfl fun t ht _ _ => ht
  | rejected _ hm =>
    exact h.renew hm (h.set_eq hm _) hn hd rfl rfl rfl (exchanges_without o _)

theorem of_closed (st : Entries) : (closed st).Single := by
  constructor
  · exact fun m hm => absurd hm List.not_mem_nil
  · exact numbered_closed st
  · exact dated_closed st
  · exact fun m hm => absurd hm List.not_mem_nil
  · exact fun m hm => absurd hm List.not_mem_nil
  · exact fun t ht => absurd ht.1 List.not_mem_nil

theorem turn_opened {st : Entries} (h : (closed st).Turn e .openManager answer o') :
    o'.Single := by
  have hn := h.numbered (numbered_closed st)
  have hd := h.dated (dated_closed st)
  generalize hact : Act.openManager = a at h
  cases h with
  | restored => exact of_state_eq_none rfl hn hd (fun _ => rfl) (by simp)
  | orphaned => exact of_state_eq_none rfl hn hd (by simp) (by simp)
  | resumed =>
    refine of_managers rfl hn hd (by simp) (fun hshown => ?_)
      fun t ht => absurd ht.1 List.not_mem_nil
    dsimp only [Manager.isAuthenticated] at hshown
    split at hshown <;> cases hshown
  | absent ha | lost ha | unknown ha =>
    rw [← hact] at ha
    cases ha
  | _ => cases hact

theorem faultyTurn_opened {st : Entries} (h : (closed st).FaultyTurn .openManager answer o') :
    o'.Single := by
  cases h
  exact of_closed _

theorem turnsOrFaults {σ : Type} {Holds : σ → Entries → Prop} {r : Answer × OpenManagers σ}
    (h : o.Single)
    (hr : o.TurnsOrFaults Holds e a r) (ha : a ≠ .openManager) :
    ∃ o'', r.2.MirroredBy Holds o'' ∧ o''.Single := by
  obtain ⟨o'', hmirrored, hturn | hfaulty⟩ := hr
  · exact ⟨o'', hmirrored, h.turn hturn ha⟩
  · exact ⟨o'', hmirrored, h.faultyTurn hfaulty ha⟩

end Single

/-! ## What divides a session -/

/-- A faulty turn leaves all managers whole, unless it is a login URL that a manager with a session
does not issue. -/
theorem FaultyTurn.whole (h : o.FaultyTurn a answer o') (ho : o.Single)
    (hwhole : ∀ m ∈ o.managers, m.Whole)
    (hlogin : ∀ n state handle redirect m, a = .login n state handle redirect →
      o.managers[n]? = some m → m.isAuthenticated = false) :
    ∀ m ∈ o'.managers, m.Whole := by
  have hget : ∀ {n : Nat} {m : Manager}, o.managers[n]? = some m → m.Whole :=
    fun hm => hwhole _ (List.mem_of_getElem? hm)
  cases h with
  | unopened | unread => exact hwhole
  | @unissued n m state handle redirect cause st hm =>
    exact whole_set hwhole (Manager.whole_of_token_eq_none (hlogin _ _ _ _ m rfl hm) rfl)
  | @unadopted n m callback cause hm hidle hstate =>
    -- a manager that shows a session has used its state up
    have hshown : m.isAuthenticated = false := by
      by_contra hshown
      exact hstate (ho.spent m (List.mem_of_getElem? hm) (by simpa using hshown))
    exact whole_set hwhole (Manager.whole_of_token_eq_none hshown rfl)
  | untaken hm => exact whole_set hwhole ((hget hm).adopting _).refusing
  | unkept _ hm => exact whole_set hwhole ((hget hm).exchanging _).failExchange
  | tokenless | rejected | loggedOut => exact whole_set hwhole (Manager.whole_tornDown _)

theorem FaultyTurn.not_whole {state handle : String} {redirect : Url}
    (h : o.FaultyTurn (.login n state handle redirect) answer o') (hm : o.managers[n]? = some m)
    (hshown : m.isAuthenticated) : ¬ ∀ m ∈ o'.managers, m.Whole := by
  intro hwhole
  cases h with
  | unissued hm' =>
    cases hm.symm.trans hm'
    have hforgot := (hwhole _ (List.mem_of_getElem? (getElem?_seat hm _ _))).shown
    exact Bool.false_ne_true (hforgot.symm.trans hshown)

theorem FaultyTurn.exists_fault (h : o.FaultyTurn a answer o') :
    ∃ fault, answer = .fault fault := by
  cases h <;> exact ⟨_, rfl⟩

theorem FaultyTurn.whole_iff {x : Moment Operation Answer}
    (h : o.FaultyTurn x.act.start x.answer o')
    (hx : x.before.managers = o.managers) (ho : o.Single) (hwhole : ∀ m ∈ o.managers, m.Whole) :
    (∀ m ∈ o'.managers, m.Whole) ↔ ¬ x.Stumbles := by
  obtain ⟨fault, hfault⟩ := h.exists_fault
  constructor
  · rintro hwhole' ⟨n, state, handle, redirect, _, m, hact, -, hm, hshown⟩
    rw [hact] at h
    exact h.not_whole (hx ▸ hm) hshown hwhole'
  · intro hstumbles
    refine h.whole ho hwhole fun n state handle redirect m hlogin hm => ?_
    have hact : x.act = .login n state handle redirect := by
      cases hact : x.act <;> rw [hact] at hlogin <;> cases hlogin
      rfl
    by_contra hshown
    exact hstumbles ⟨n, state, handle, redirect, fault, m, hact, hfault, hx ▸ hm,
      by simpa using hshown⟩

theorem Turn.not_stumbles {x : Moment Operation Answer} (h : o.Turn e x.act.start answer o')
    (hanswer : x.answer = answer ∨ ∃ t, answer = .waits t) : ¬ x.Stumbles := by
  rintro ⟨n, state, handle, redirect, fault, m, hact, hfault, -⟩
  rw [hact] at h
  rw [hfault] at hanswer
  cases h with
  | login | absent => simp at hanswer
  | lost ha | unknown ha => cases ha

theorem Turn.whole_of_waits {b : Operation} {t : Ticket} (h : o.Turn e b.start (.waits t) o')
    (hwhole : ∀ m ∈ o.managers, m.Whole) : ∀ m ∈ o'.managers, m.Whole := by
  cases b with
  | exchange =>
    cases h with
    | started hm =>
      exact whole_set hwhole (((hwhole _ (List.mem_of_getElem? hm)).adopting _).exchanging _)
  | fetch =>
    cases h with
    | sent => exact hwhole
  | openManager | login | logout => cases h

theorem Numbered.whole_of_turns {b : Operation} {t : Ticket} {o₁ : OpenManagers Entries}
    (ho : o.Numbered) (h : o.Turn e b.start (.waits t) o₁)
    (h' : o₁.Turn e (b.finish t.number) answer o') (hwhole : ∀ m ∈ o.managers, m.Whole) :
    ∀ m ∈ o'.managers, m.Whole := by
  cases b with
  | exchange => exact (ho.operationTurn_exchange h h').whole hwhole
  | fetch => exact (ho.operationTurn_fetch h h').whole hwhole
  | openManager | login | logout => cases h

section Faltering

variable {σ : Type} {Holds : σ → Entries → Prop} {p : Platform σ} {o : OpenManagers σ}
  {o' : OpenManagers Entries}

theorem MirroredBy.sends_iff (hp : p.Faltering Holds) (h : o.MirroredBy Holds o') {n : Nat}
    {m : Manager}
    (hm : o'.managers[n]? = some m) {request : Request} {prepared : ResourceRequest}
    (hr : Gateway.prepare p.endpoints.serverOrigin request = .ok prepared) :
    (∃ t, (o.step p (.startFetch n request)).1 = .waits t) ↔ m.token.isSome := by
  obtain ⟨o'', -, hstart⟩ := h.turnsOrFaults hp (.startFetch n request)
  generalize (o.step p (.startFetch n request)).1 = answer at hstart
  cases htoken : m.token with
  | none =>
    refine iff_of_false ?_ Bool.false_ne_true
    rintro ⟨t, rfl⟩
    rcases hstart with hturn | hfaulty
    · cases (hturn.functional (.tokenless hm htoken request) rfl).1
    · cases hfaulty
  | some token =>
    refine iff_of_true ?_ rfl
    rcases hstart with hturn | hfaulty
    · exact ⟨_, (hturn.functional (.sent hm htoken hr) rfl).1⟩
    · cases hfaulty with
      | tokenless hm' htoken' =>
        cases hm.symm.trans hm'
        cases htoken.symm.trans htoken'

theorem MirroredBy.undivided_iff (hp : p.Faltering Holds) (h : o.MirroredBy Holds o')
    (ho : o'.Single) :
    o.Undivided p ↔ ∀ m ∈ o'.managers, m.Whole := by
  constructor
  · intro hundivided m hmem
    obtain ⟨n, hm⟩ := List.mem_iff_getElem?.mp hmem
    exact ⟨(hundivided n m (h.managers ▸ hm)).1, ho.named m hmem⟩
  · intro hwhole n m hm
    rw [h.managers] at hm
    have hshown := (hwhole m (List.mem_of_getElem? hm)).shown
    exact ⟨hshown, fun request prepared hr => by rw [h.sends_iff hp hm hr, hshown]⟩

/-- After an operation that runs to its end all managers are whole, unless it stumbles. -/
theorem MirroredBy.whole_operate_iff (hp : p.Faltering Holds) (h : o.MirroredBy Holds o')
    (ho : o'.Single)
    (hwhole : ∀ m ∈ o'.managers, m.Whole) {a : Operation} (ha : a ≠ .openManager) :
    ∃ o'', (o.operate p a).2.MirroredBy Holds o'' ∧ o''.Single ∧
      ((∀ m ∈ o''.managers, m.Whole) ↔
        ¬ (moment p.storage (OpenManagers.operate p) o a).Stumbles) := by
  have hstart : a.start ≠ .openManager := by cases a <;> simp_all [Operation.start]
  have hfinish : ∀ number, a.finish number ≠ .openManager := by cases a <;> simp [Operation.finish]
  obtain ⟨o₁, h₁, hfirst⟩ := h.turnsOrFaults hp a.start
  have hsingle : o₁.Single := hfirst.elim (ho.turn · hstart) (ho.faultyTurn · hstart)
  generalize hr : o.step p a.start = r at h₁ hfirst
  obtain ⟨answer, o₂⟩ := r
  by_cases hwaits : ∃ t, answer = .waits t
  · obtain ⟨t, rfl⟩ := hwaits
    have hoperate : o.operate p a = o₂.step p (a.finish t.number) := by
      simp [OpenManagers.operate, hr]
    rcases hfirst with hturn | hfaulty
    · obtain ⟨o₃, h₃, hsecond⟩ := h₁.turnsOrFaults hp (a.finish t.number)
      refine ⟨o₃, hoperate ▸ h₃, hsecond.elim (hsingle.turn · (hfinish _))
        (hsingle.faultyTurn · (hfinish _)), iff_of_true ?_ (hturn.not_stumbles (.inr ⟨t, rfl⟩))⟩
      rcases hsecond with hturn' | hfaulty
      · exact ho.numbered.whole_of_turns hturn hturn' hwhole
      · refine hfaulty.whole hsingle (hturn.whole_of_waits hwhole) ?_
        intro n state handle redirect m hlogin
        cases a <;> cases hlogin
    · obtain ⟨fault, hfault⟩ := hfaulty.exists_fault
      cases hfault
  · have hoperate : o.operate p a = (answer, o₂) := by
      unfold OpenManagers.operate
      rw [hr]
      cases answer <;> first | rfl | exact absurd ⟨_, rfl⟩ hwaits
    unfold moment
    rw [hoperate]
    refine ⟨o₁, h₁, hsingle, ?_⟩
    rcases hfirst with hturn | hfaulty
    · exact iff_of_true (hturn.whole a.ticket?_start (by simpa using hwaits) hwhole)
        (hturn.not_stumbles (.inl rfl))
    · exact hfaulty.whole_iff h.managers ho hwhole

/-- Operations leave a manager undivided as long as none stumbles. -/
theorem MirroredBy.undivided_operations (hp : p.Faltering Holds) (h : o.MirroredBy Holds o')
    (ho : o'.Single)
    (hwhole : ∀ m ∈ o'.managers, m.Whole) {operations : List Operation}
    (hoperations : .openManager ∉ operations) :
    (∀ early, early <+: operations → (reach (OpenManagers.operate p) o early).Undivided p) ↔
      ∀ x ∈ o.chronicle p operations, ¬ x.Stumbles := by
  have hnow : o.Undivided p := (h.undivided_iff hp ho).mpr hwhole
  induction operations generalizing o o' with
  | nil =>
    refine iff_of_true (fun early hearly => ?_) fun x hx => absurd hx List.not_mem_nil
    rw [List.prefix_nil.mp hearly]
    exact hnow
  | cons a operations ih =>
    obtain ⟨o'', h', hsingle, hiff⟩ :=
      h.whole_operate_iff hp ho hwhole (a := a) (fun ha => hoperations (ha ▸ List.mem_cons_self))
    have hfirst := (h'.undivided_iff hp hsingle).trans hiff
    have hrest : (o.operate p a).2.Undivided p →
        ((∀ early, early <+: operations →
          (reach (OpenManagers.operate p) (o.operate p a).2 early).Undivided p) ↔
            ∀ x ∈ (o.operate p a).2.chronicle p operations, ¬ x.Stumbles) := fun hundivided =>
      ih h' hsingle ((h'.undivided_iff hp hsingle).mp hundivided)
        (fun ha => hoperations (List.mem_cons_of_mem _ ha)) hundivided
    constructor
    · intro hearly x hx
      have hlater := hearly [a] (by simp)
      rcases List.mem_cons.mp hx with rfl | hx
      · exact hfirst.mp hlater
      · refine (hrest hlater).mp (fun early hprefix => ?_) x hx
        exact hearly (a :: early) (List.cons_prefix_cons.mpr ⟨rfl, hprefix⟩)
    · intro hnever early hprefix
      have hlater := hfirst.mpr (hnever _ List.mem_cons_self)
      obtain rfl | ⟨early', rfl, hprefix'⟩ := List.prefix_cons_iff.mp hprefix
      · exact hnow
      · exact (hrest hlater).mpr (fun x hx => hnever x (List.mem_cons_of_mem _ hx)) early' hprefix'

theorem single_opened (hp : p.Faltering Holds) {st : σ} {st' : Entries} (hst : Holds st st') :
    ∃ o'', ((closed st).step p .openManager).2.MirroredBy Holds o'' ∧ o''.Single ∧
      ∀ m ∈ o''.managers, m.Whole := by
  have hclosed : (closed st).MirroredBy Holds (closed st') := ⟨hst, rfl, rfl, rfl, rfl⟩
  have hwhole : ∀ m ∈ (closed st').managers, m.Whole := fun m hm => absurd hm List.not_mem_nil
  obtain ⟨o'', hmirrored, hturn | hfaulty⟩ := hclosed.turnsOrFaults hp .openManager
  · refine ⟨o'', hmirrored, .turn_opened hturn, hturn.whole rfl (fun t ht => ?_) hwhole⟩
    rw [ht] at hturn
    cases hturn
  · refine ⟨o'', hmirrored, .faultyTurn_opened hfaulty, hfaulty.whole (.of_closed st') hwhole ?_⟩
    intro n state handle redirect m hlogin
    cases hlogin

theorem Single.reach (hp : p.Faltering Holds) (h : o.MirroredBy Holds o') (ho : o'.Single)
    {acts : List Act} (hacts : .openManager ∉ acts) :
    ∃ o'', (SignIn.reach (fun o a => OpenManagers.step p o a) o acts).MirroredBy Holds o'' ∧
      o''.Single := by
  induction acts generalizing o o' with
  | nil => exact ⟨o', h, ho⟩
  | cons a acts ih =>
    obtain ⟨o'', h', hsingle⟩ :=
      ho.turnsOrFaults (h.turnsOrFaults hp a) fun ha => hacts (ha ▸ List.mem_cons_self)
    exact ih h' hsingle fun ha => hacts (List.mem_cons_of_mem _ ha)

end Faltering

end OpenManagers

/-- Over a store that may fail, and from whatever is kept in it, a manager is undivided when it has
been opened. In whatever a run has come to, operations leave an undivided manager undivided exactly
as long as it does not show a session when it fails to issue a login URL. -/
theorem undivided_iff_not_stumbles {σ : Type} {p : Platform σ} {Holds : σ → Entries → Prop}
    (hp : p.Faltering Holds) {st : σ} {st' : Entries} (hst : Holds st st') {acts : List Act}
    (hacts : .openManager ∉ acts) :
    let o := reach (fun o a => OpenManagers.step p o a) (OpenManagers.closed st)
      (.openManager :: acts)
    (acts = [] → o.Undivided p) ∧ (o.Undivided p → ∀ operations : List Operation,
      .openManager ∉ operations →
        ((∀ early, early <+: operations → (reach (OpenManagers.operate p) o early).Undivided p) ↔
          ∀ x ∈ o.chronicle p operations, ¬ x.Stumbles)) := by
  obtain ⟨o', hopened, hsingle, hwhole⟩ := OpenManagers.single_opened hp hst
  refine ⟨?_, fun hundivided operations hoperations => ?_⟩
  · rintro rfl
    exact (hopened.undivided_iff hp hsingle).mpr hwhole
  · obtain ⟨o'', hreached, hsingle'⟩ := hsingle.reach hp hopened hacts
    have hwhole' := (hreached.undivided_iff hp hsingle').mp hundivided
    exact hreached.undivided_operations hp hsingle' hwhole' hoperations

/-- Managers at the node of the samples, over a store in memory that fails as a script says. -/
def Platform.scripted : Platform (Entries × List Bool) :=
  ⟨Storage.plain.guarded Storage.scriptedPlan, pure (), .sample⟩

theorem Platform.scripted_faltering : scripted.Faltering fun st e => st.1 = e where
  storage := Storage.plain_reliable.faltering.guarded _
  opens _ := .pure rfl

set_option maxRecDepth 10000 in
/-- A login URL that is not issued to a manager without a session does no harm: the next one is
issued, and its login completes. -/
theorem undivided_of_second_login :
    let o := (reach (fun o a => OpenManagers.step .scripted o a)
      (OpenManagers.closed (.empty, [false, false, false, true])) [.openManager])
    let operations := [.login 0 "s1" "alice.example" (.secure "app.example" ["cb"]),
      .login 0 "s2" "alice.example" (.secure "app.example" ["cb"]),
      .exchange 0 "https://app.example/cb?code=XYZ&state=s2" (.ok { accessToken := "token-XYZ" })]
    (o.chronicle .scripted operations).map (·.answer.fault?.isSome) = [true, false, false] ∧
      ∀ early, early <+: operations →
        (reach (OpenManagers.operate .scripted) o early).Undivided .scripted := by
  have hquiet : Act.openManager ∉ ([] : List Act) := List.not_mem_nil
  obtain ⟨hopened, hoperations⟩ := undivided_iff_not_stumbles Platform.scripted_faltering
    (rfl : (Entries.empty, [false, false, false, true]).1 = .empty) hquiet
  refine ⟨rfl, (hoperations (hopened rfl) _ (by simp)).mpr ?_⟩
  rintro x hx ⟨n, state, handle, redirect, fault, m, hact, hfault, hm, hshown⟩
  rcases hx with _ | ⟨_, _ | ⟨_, _ | ⟨_, hx⟩⟩⟩
  · cases hact
    cases hm
    cases hshown
  · cases hfault
  · cases hact
  · cases hx

set_option maxRecDepth 10000 in
/-- A manager that shows a session cannot issue a login URL, for the removal of the token fails.
Then the token is forgotten, and the session is shown. -/
theorem not_undivided_of_failed_login :
    let kept : Entries := .ofPairs [(handleKey, "alice.example"), (tokenKey, "token-1")]
    let o := (reach (fun o a => OpenManagers.step .scripted o a)
      (OpenManagers.closed (kept, [false, false, false, true]))
      [.openManager, .login 0 "s1" "bob.example" (.secure "app.example" ["cb"])])
    (∃ m, o.managers = [m] ∧ m.isAuthenticated ∧ m.token = none) ∧ ¬ o.Undivided .scripted := by
  intro kept o
  have hdivided : ∃ m, o.managers = [m] ∧ m.isAuthenticated ∧ m.token = none :=
    ⟨_, rfl, rfl, rfl⟩
  refine ⟨hdivided, fun hundivided => ?_⟩
  obtain ⟨m, hmanagers, hshown, htoken⟩ := hdivided
  have hsame := (hundivided 0 m (by rw [hmanagers]; rfl)).1
  rw [hshown, htoken] at hsame
  cases hsame

end SignIn
