import Mathlib.Tactic.IntervalCases
import SignIn.Proofs.Session.Overlap
import SignIn.Proofs.Session.Pending

/-!
# Exchanges that are dropped

An exchange may be given up while it is on the network. Nothing changes but that it is no longer
waited for, and its state stays used up. What remains is the flag of the manager, which only an
exchange that comes back lowers. If the exchange that was sent last is dropped, the flag tells of an
exchange that does not exist: a callback that is refused then leaves the manager waiting for a login
that nothing can complete. These are the only refused callbacks, with no exchange on the network,
that leave a manager waiting.
-/

namespace SignIn

def Scene.Idle (c : Scene) : Prop := ∀ t ∈ c.waiting, ∀ q, t.call ≠ .exchange q

namespace Moment

def Presents (x : Moment Act Answer) (state : String) : Prop :=
  ∃ callback, x.act = .startExchange 0 callback ∧
    (CallbackParams.state? callback).getD "" = state

def ComesBack (x : Moment Act Answer) : Prop :=
  ∃ t q granted, x.Returns t granted ∧ t.call = .exchange q

end Moment

/-- An exchange was sent, and since then none came back. -/
def Unreturned (past : List (Moment Act Answer)) (t : Ticket) : Prop :=
  ∃ before x since, past = before ++ x :: since ∧ x.Sends 0 t ∧ ∀ z ∈ since, ¬ z.ComesBack

/-- An exchange was sent and dropped, and since it was sent none came back. -/
def Abandoned (past : List (Moment Act Answer)) (t : Ticket) : Prop :=
  ∃ before x since, past = before ++ x :: since ∧ x.Sends 0 t ∧
    (∃ z ∈ since, z.act = .drop t.number ∧ t ∈ z.before.waiting) ∧ ∀ z ∈ since, ¬ z.ComesBack

/-- A callback is refused by a manager that waits for a login, with no exchange on the network,
after the exchange that was sent last was dropped. -/
structure Moment.Stalls (x : Moment Act Answer) (past : List (Moment Act Answer)) : Prop where
  refuses : x.Refuses
  idle : x.before.Idle
  pending : ∃ m, x.before.managers[0]? = some m ∧ m.phase.isPending
  abandoned : ∃ t, Abandoned past t

theorem unreturned_concat {past : List (Moment Act Answer)} {x : Moment Act Answer} {t : Ticket} :
    Unreturned (past ++ [x]) t ↔ x.Sends 0 t ∨ ¬ x.ComesBack ∧ Unreturned past t :=
  Text.exists_since_concat

theorem Abandoned.unreturned {past : List (Moment Act Answer)} {t : Ticket}
    (h : Abandoned past t) : Unreturned past t := by
  obtain ⟨before, x, since, hpast, hsends, -, hsince⟩ := h
  exact ⟨before, x, since, hpast, hsends, hsince⟩

theorem Abandoned.concat {past : List (Moment Act Answer)} {x : Moment Act Answer} {t : Ticket}
    (h : Abandoned past t) (hx : ¬ x.ComesBack) : Abandoned (past ++ [x]) t := by
  obtain ⟨before, y, since, rfl, hsends, ⟨z, hz, hdropped⟩, hsince⟩ := h
  refine ⟨before, y, since ++ [x], by simp, hsends,
    ⟨z, List.mem_append_left _ hz, hdropped⟩, ?_⟩
  exact List.forall_mem_append.mpr ⟨hsince, List.forall_mem_singleton.mpr hx⟩

theorem Unreturned.abandoned {past : List (Moment Act Answer)} {x : Moment Act Answer} {t : Ticket}
    (h : Unreturned past t) (hx : ¬ x.ComesBack) (hact : x.act = .drop t.number)
    (hmem : t ∈ x.before.waiting) : Abandoned (past ++ [x]) t := by
  obtain ⟨before, y, since, rfl, hsends, hsince⟩ := h
  refine ⟨before, y, since ++ [x], by simp, hsends,
    ⟨x, List.mem_append_right _ (.head _), hact, hmem⟩, ?_⟩
  exact List.forall_mem_append.mpr ⟨hsince, List.forall_mem_singleton.mpr hx⟩

namespace Manager

@[simp] theorem exchanging_failExchange (m : Manager) :
    m.failExchange.exchanging = m.exchanging := by
  unfold failExchange
  split <;> rfl

@[simp] theorem exchanging_refusing (m : Manager) : m.refusing.exchanging = m.exchanging := by
  unfold refusing
  split <;> simp

end Manager

namespace OpenManagers

variable {e : Endpoints} {st : Entries} {o o' o₀ : OpenManagers Entries} {m m' : Manager}
  {x x₀ : Moment Act Answer} {past : List (Moment Act Answer)} {t : Ticket}

/-- Dropping a call changes nothing but that it no longer waits. -/
theorem Turn.of_drop {number : Nat} {answer : Answer} (h : o.Turn e (.drop number) answer o')
    (ho : o.Dated) : o' = o.without number := by
  cases h with
  | dropped ht => rfl
  | absent ha => cases ha
  | lost ha ht hm =>
    obtain ⟨m, hget, -⟩ := ho _ (mem_of_ticket? ht)
    rw [hm] at hget
    cases hget
  | unknown ha ht =>
    cases ha
    have hkept : o.waiting.filter (·.number != number) = o.waiting := by
      rw [List.filter_eq_self]
      intro t hmem
      by_contra hnumber
      have hsome : (o.ticket? number).isSome :=
        List.find?_isSome.mpr ⟨t, hmem, by simpa using hnumber⟩
      obtain ⟨t', ht'⟩ := Option.isSome_iff_exists.mp hsome
      exact absurd (ht t' ht') (by simp [Act.ends])
    exact (congrArg (fun ts => { o with waiting := ts }) hkept).symm

namespace Alone

theorem refuses_of_presents (h : o.Alone m) (hx : o.Spans e x o') {state : String}
    (hpresents : x.Presents state) (hstate : o.store.get? stateKey ≠ some state) :
    ∃ fault, x.answer = .fault fault := by
  obtain ⟨callback, hact, hbrought⟩ := hpresents
  have hturn := hx.turn
  rw [hact] at hturn
  generalize x.answer = answer at hturn
  cases hturn with
  | refused => exact ⟨_, rfl⟩
  | started hm hv =>
    obtain ⟨kept, hkept, hsame⟩ := brought_of_verdict hv
    exact absurd (hkept.trans (congrArg some (hsame.symm.trans hbrought))) hstate
  | absent ha hm =>
    cases ha
    rw [h.get] at hm
    cases hm
  | lost ha | unknown ha => cases ha

theorem state_of_sends (hx : o.Spans e x o') (hsends : x.Sends 0 t) :
    o'.store.get? stateKey = none := by
  obtain ⟨callback, hact, hanswer⟩ := hsends
  have hturn := hx.turn
  rw [hact, hanswer] at hturn
  cases hturn with
  | started => simp

/-- A state that an exchange used up is not kept again unless it is issued again. -/
theorem state_ne_of_passes {between : List (Moment Act Answer)} {state : String} (h : o.Alone m)
    (hnone : o.store.get? stateKey ≠ some state) (hpasses : o.Passes e between o')
    (h' : o'.Alone m') (hfresh : ∀ z ∈ between, ∀ handle, ¬ z.Issues 0 state handle) :
    o'.store.get? stateKey ≠ some state := by
  refine h.passes_induction (motive := fun between o' _ =>
    (∀ z ∈ between, ∀ handle, ¬ z.Issues 0 state handle) →
      o'.store.get? stateKey ≠ some state) (fun _ => hnone) ?_ hpasses h' hfresh
  intro xs o₁ m₁ y o₂ m₂ _ _ _ _ _ hlone ih hfresh hkept
  cases hlone with
  | @issues state' handle _ hissues _ _ _ hstate =>
    obtain rfl : state' = state := Option.some.inj (hstate.symm.trans hkept)
    exact hfresh y (by simp) handle hissues
  | ends _ _ _ hstate | records _ _ _ _ _ _ _ hstate =>
    rw [hstate] at hkept
    cases hkept
  | rests _ _ _ _ hstate =>
    rw [hstate (by simp [hkept])] at hkept
    exact ih (fun z hz => hfresh z (List.mem_append_left _ hz)) hkept

theorem not_exchanging_of_opened (h : o.Alone m) (hx : (closed st).Spans e x o)
    (ha : x.act = .openManager) : ¬ m.exchanging := by
  obtain ⟨before, a, answer, after⟩ := x
  obtain ⟨hturn, rfl, rfl⟩ := hx
  dsimp only at hturn ha
  subst ha
  have hlast : ∀ {m₁}, o.managers = [] ++ [m₁] → m = m₁ := by
    intro m₁ hmanagers
    simpa [h.managers] using hmanagers
  cases hturn with
  | restored | orphaned | resumed => simp [hlast rfl]
  | absent ha | lost ha | unknown ha => cases ha

theorem exchanging_of_sends (hx : o.Spans e x o') (h' : o'.Alone m') (hsends : x.Sends 0 t) :
    m'.exchanging := by
  obtain ⟨callback, hact, hanswer⟩ := hsends
  have hturn := hx.turn
  rw [hact, hanswer] at hturn
  obtain ⟨m₁, request, -, -, -, -, -, hm₁⟩ := hturn.of_sent
  obtain ⟨-, rfl⟩ := h'.eq_of_get hm₁
  rfl

theorem not_exchanging_of_comesBack (h : o.Alone m) (hx : o.Spans e x o') (h' : o'.Alone m')
    (hback : x.ComesBack) : ¬ m'.exchanging := by
  obtain ⟨t, q, granted, ⟨hact, hmem⟩, hcall⟩ := hback
  rw [hx.before] at hmem
  have hzero := (h.sent hmem).1
  have hturn := hx.turn
  rw [hact] at hturn
  have hseat : ∀ {m₁ st}, o' = (o.without t.number).seat t.manager m₁ st → m' = m₁ := by
    rintro m₁ st rfl
    simpa [seat, without, h.managers, hzero] using h'.managers.symm
  rcases hturn.of_returns h.numbered hmem hcall (hzero ▸ h.get) with
    ⟨-, -, hnext⟩ | ⟨-, fault, -, -, hnext⟩ | ⟨-, handle, token, -, -, hnext⟩
  · simp [hseat hnext]
  · simp [hseat hnext]
  · simp [hseat hnext, Manager.recording]

theorem exchanging_eq (h : o.Alone m) (hx : o.Spans e x o') (ha : x.act ≠ .openManager)
    (h' : o'.Alone m') (hsends : ∀ t, ¬ x.Sends 0 t) (hback : ¬ x.ComesBack) :
    m'.exchanging = m.exchanging := by
  obtain ⟨before, a, answer, after⟩ := x
  obtain ⟨hturn, rfl, rfl⟩ := hx
  dsimp only at hturn ha
  have hseat : ∀ {m₁}, o'.managers = o.managers.set 0 m₁ → m' = m₁ := by
    intro m₁ hmanagers
    simpa [h.managers, h'.managers] using hmanagers
  have hsame : o'.managers = o.managers → m' = m := by
    intro hmanagers
    simpa [h.managers, h'.managers] using hmanagers
  cases hturn with
  | restored | orphaned | resumed => exact absurd rfl ha
  | login hm | tokenless hm | loggedOut hm =>
    obtain ⟨rfl, rfl⟩ := h.eq_of_get hm
    rw [hseat rfl]
    rfl
  | rejected ht hm =>
    obtain ⟨rfl, rfl⟩ := h.eq_of_get hm
    rw [hseat rfl]
    rfl
  | refused hm =>
    obtain ⟨rfl, rfl⟩ := h.eq_of_get hm
    rw [h.adopting_eq] at hseat
    rw [hseat rfl, Manager.exchanging_refusing]
  | started hm =>
    obtain ⟨rfl, rfl⟩ := h.eq_of_get hm
    exact absurd ⟨_, rfl, rfl⟩ (hsends _)
  | superseded ht | failed ht | recorded ht =>
    exact absurd ⟨_, _, _, ⟨rfl, mem_of_ticket? ht⟩, rfl⟩ hback
  | unsent | sent | late | answered | dropped | absent | lost | unknown => rw [hsame rfl]

theorem waits_step (h : o.Alone m) (hx : o.Spans e x o') {q : PendingExchange}
    (ht : t ∈ o.waiting) (hcall : t.call = .exchange q) (hback : ¬ x.ComesBack) :
    t ∈ o'.waiting ∨ x.act = .drop t.number := by
  obtain ⟨before, a, answer, after⟩ := x
  obtain ⟨hturn, rfl, rfl⟩ := hx
  dsimp only at hturn ⊢
  -- the end of a fetch leaves the exchange
  have hfetch : ∀ {number n f}, o.ticket? number = some ⟨number, n, .fetch f⟩ →
      t ∈ (o.without number).waiting := by
    intro number n f hticket
    refine mem_without.mpr ⟨ht, fun hnumber => ?_⟩
    rw [← hnumber, h.numbered.ticket?_eq ht] at hticket
    rw [Option.some.inj hticket] at hcall
    cases hcall
  cases hturn with
  | superseded ht' | failed ht' | recorded ht' =>
    exact absurd ⟨_, _, _, ⟨rfl, mem_of_ticket? ht'⟩, rfl⟩ hback
  | rejected ht' | late ht' | answered ht' => exact .inl (hfetch ht')
  | @dropped number t' ht' =>
    by_cases hnumber : t.number = number
    · exact .inr (congrArg _ hnumber.symm)
    · exact .inl (mem_without.mpr ⟨ht, hnumber⟩)
  | lost ha ht' hm =>
    rw [(h.sent (mem_of_ticket? ht')).1, h.get] at hm
    cases hm
  | started | sent => exact .inl (List.mem_append_left _ ht)
  | restored | orphaned | resumed | login | refused | tokenless | unsent | loggedOut | absent
  | unknown => exact .inl ht

/-- The flag tells that some exchange was sent since which none came back. -/
theorem exchanging_iff (h : o.Alone m) (hx₀ : (closed st).Spans e x₀ o₀)
    (ha₀ : x₀.act = .openManager) (hpasses : o₀.Passes e past o) :
    m.exchanging ↔ ∃ t, Unreturned (x₀ :: past) t := by
  obtain ⟨m₀, h₀, -⟩ := Alone.opened hx₀ ha₀
  have hsends₀ : ∀ t, ¬ x₀.Sends 0 t := by
    rintro t ⟨callback, hact, -⟩
    cases ha₀.symm.trans hact
  refine h₀.passes_induction (motive := fun past o m =>
    m.exchanging ↔ ∃ t, Unreturned (x₀ :: past) t) ?_ ?_ hpasses h
  · refine iff_of_false (h₀.not_exchanging_of_opened hx₀ ha₀) ?_
    rintro ⟨t, hunreturned⟩
    have hnil : Unreturned ([] ++ [x₀]) t := hunreturned
    rcases unreturned_concat.mp hnil with hsends | ⟨-, before, x, since, hpast, -⟩
    · exact hsends₀ t hsends
    · simp at hpast
  · intro past o₁ m₁ x o₂ m₂ _ h₁ hx ha h₂ _ ih
    simp only [← List.cons_append, unreturned_concat, exists_or, exists_and_left, ← ih]
    by_cases hsends : ∃ t, x.Sends 0 t
    · exact iff_of_true (exchanging_of_sends hx h₂ hsends.choose_spec) (.inl hsends)
    · rw [or_iff_right hsends]
      by_cases hback : x.ComesBack
      · exact iff_of_false (h₁.not_exchanging_of_comesBack hx h₂ hback) fun h => h.1 hback
      · rw [and_iff_right hback, h₁.exchanging_eq hx ha h₂ (not_exists.mp hsends) hback]

/-- An exchange that has not come back is on the network or was dropped. -/
theorem waits_or_abandoned (h : o.Alone m) (hx₀ : (closed st).Spans e x₀ o₀)
    (ha₀ : x₀.act = .openManager) (hpasses : o₀.Passes e past o)
    (hunreturned : Unreturned (x₀ :: past) t) :
    (t ∈ o.waiting ∧ ∃ q, t.call = .exchange q) ∨ Abandoned (x₀ :: past) t := by
  obtain ⟨m₀, h₀, -⟩ := Alone.opened hx₀ ha₀
  refine h₀.passes_induction (motive := fun past o _ => Unreturned (x₀ :: past) t →
    (t ∈ o.waiting ∧ ∃ q, t.call = .exchange q) ∨ Abandoned (x₀ :: past) t) ?_ ?_ hpasses h
    hunreturned
  · rintro ⟨before, x, since, hpast, ⟨callback, hact, -⟩, -⟩
    obtain ⟨rfl, -⟩ : x₀ = x ∧ since = [] := by
      cases before with
      | nil => exact ⟨(List.cons.inj hpast).1, (List.cons.inj hpast).2.symm⟩
      | cons y before => simp at hpast
    cases ha₀.symm.trans hact
  · intro past o₁ m₁ x o₂ m₂ _ h₁ hx ha h₂ _ ih hunreturned
    rw [← List.cons_append] at hunreturned ⊢
    rcases unreturned_concat.mp hunreturned with hsends | ⟨hback, hunreturned⟩
    · obtain ⟨callback, hact, hanswer⟩ := id hsends
      have hturn := hx.turn
      rw [hact, hanswer] at hturn
      obtain ⟨-, -, -, -, -, hmem, -⟩ := hturn.of_sent
      exact .inl ⟨hmem, hx.exchange_of_sends hsends⟩
    · rcases ih hunreturned with ⟨hmem, q, hcall⟩ | habandoned
      · rcases h₁.waits_step hx hmem hcall hback with hmem' | hdrop
        · exact .inl ⟨hmem', q, hcall⟩
        · exact .inr (hunreturned.abandoned hback hdrop (hx.before ▸ hmem))
      · exact .inr (habandoned.concat hback)

theorem exchanging_iff_of_idle (h : o.Alone m) (hx₀ : (closed st).Spans e x₀ o₀)
    (ha₀ : x₀.act = .openManager) (hpasses : o₀.Passes e past o)
    (hidle : (o.scene .memory).Idle) : m.exchanging ↔ ∃ t, Abandoned (x₀ :: past) t := by
  rw [h.exchanging_iff hx₀ ha₀ hpasses]
  refine exists_congr fun t => ⟨fun hunreturned => ?_, Abandoned.unreturned⟩
  rcases h.waits_or_abandoned hx₀ ha₀ hpasses hunreturned with ⟨hmem, q, hcall⟩ | habandoned
  · exact absurd hcall (hidle t hmem q)
  · exact habandoned

theorem isPending_iff_stalls (h : o.Alone m) (hx₀ : (closed st).Spans e x₀ o₀)
    (ha₀ : x₀.act = .openManager) (hpasses : o₀.Passes e past o) (hx : o.Spans e x o')
    (h' : o'.Alone m') (hrefuses : x.Refuses) (hidle : x.before.Idle) :
    m'.phase.isPending ↔ x.Stalls (x₀ :: past) := by
  have hiff := h.exchanging_iff_of_idle hx₀ ha₀ hpasses (hx.before ▸ hidle)
  rw [(h.of_refuses hx h' hrefuses).1, hiff]
  have hget : x.before.managers[0]? = some m := by
    rw [hx.before]
    exact h.get
  constructor
  · rintro ⟨hpending, habandoned⟩
    exact ⟨hrefuses, hidle, ⟨m, hget, hpending⟩, habandoned⟩
  · rintro ⟨-, -, ⟨m₁, hm₁, hpending⟩, habandoned⟩
    obtain rfl := Option.some.inj (hget.symm.trans hm₁)
    exact ⟨hpending, habandoned⟩

end Alone

/-- In a run, a refused callback with no exchange on the network leaves a manager that waits exactly
if the exchange that was sent last was dropped. -/
theorem exists_isPending_iff_stalls {σ : Type} {p : Platform σ} {acts : List Act}
    {rest : List (Moment Act Answer)} (hacts : .openManager ∉ acts)
    (hstory : (closed st).story p.inMemory (.openManager :: acts) = past ++ x :: rest)
    (hrefuses : x.Refuses) (hidle : x.before.Idle) :
    (∃ m ∈ x.after.managers, m.phase.isPending) ↔ x.Stalls past := by
  obtain ⟨callback, fault, hact, -⟩ := id hrefuses
  have ha : x.act ≠ .openManager := by rw [hact]; exact Act.noConfusion
  obtain ⟨x₀, past, o₀, o₁, o₂, acts', rfl, hx₀, ha₀, hpasses, hx, -⟩ :=
    exists_opened_of_story_eq hacts hstory ha
  obtain ⟨m₀, h₀, -⟩ := Alone.opened hx₀ ha₀
  obtain ⟨m₁, h₁, -⟩ := h₀.passes hpasses
  obtain ⟨m₂, h₂, -⟩ := h₁.aloneTurn hx ha
  rw [← h₁.isPending_iff_stalls hx₀ ha₀ hpasses hx h₂ hrefuses hidle, hx.after]
  simp only [h₂.mem_scene_iff, exists_eq_left]

end OpenManagers

/-- Dropping an exchange changes nothing but that it no longer waits, and a state that was sent is
not accepted again. With no exchange on the network every refused callback leaves a manager that
waits for no login, if and only if in the run none is refused after the exchange that was sent last
was dropped. -/
theorem refusal_ends_login_iff {σ : Type} {p : Platform σ} {Holds : σ → Entries → Prop}
    (hp : p.Reliable Holds) {st : σ} {st' : Entries} (hst : Holds st st') {acts : List Act}
    (hacts : .openManager ∉ acts) :
    (∀ x ∈ (OpenManagers.closed st).story p (.openManager :: acts), ∀ number, x.act = .drop number →
      x.after =
        { x.before with waiting := x.before.waiting.filter (·.number != number) }) ∧
    (∀ before x between y rest t state,
      (OpenManagers.closed st).story p (.openManager :: acts) =
        before ++ x :: (between ++ y :: rest) →
      x.Sends 0 t → x.Presents state →
      (∀ z ∈ between, ∀ handle, ¬ z.Issues 0 state handle) → y.Presents state →
      ∃ fault, y.answer = .fault fault) ∧
    ((∀ past x rest,
      (OpenManagers.closed st).story p (.openManager :: acts) = past ++ x :: rest →
      x.before.Idle → x.Refuses → ∀ m ∈ x.after.managers, ¬ m.phase.isPending) ↔
    ∀ past x rest,
      (OpenManagers.closed st).story p (.openManager :: acts) = past ++ x :: rest →
      ¬ x.Stalls past) := by
  rw [OpenManagers.story_eq_inMemory hp hst]
  refine ⟨?_, ?_, ?_⟩
  · intro x hx number hact
    obtain ⟨past, rest, hstory⟩ := List.append_of_mem hx
    obtain ⟨x₀, past, o₀, o₁, o₂, acts', rfl, hx₀, ha₀, hpasses, hspans, -⟩ :=
      OpenManagers.exists_opened_of_story_eq hacts hstory (by rw [hact]; exact Act.noConfusion)
    obtain ⟨m₀, h₀, -⟩ := OpenManagers.Alone.opened hx₀ ha₀
    obtain ⟨m₁, h₁, -⟩ := h₀.passes hpasses
    have hturn := hspans.turn
    rw [hact] at hturn
    rw [hspans.before, hspans.after, hturn.of_drop h₁.dated]
    rfl
  · intro before x between y rest t state hstory hsends hpresents hfresh hpresents'
    obtain ⟨callback, hact, hanswer⟩ := id hsends
    obtain ⟨x₀, past, o₀, o₁, m₁, o₂, m₂, o₃, m₃, o₄, -, -, -, -,
      h₁, hx, h₂, -, hbetween, h₃, hy⟩ :=
      OpenManagers.exists_course_of_story_eq hacts hstory (by rw [hact]; exact Act.noConfusion)
    have hspent : o₂.store.get? stateKey = none := OpenManagers.Alone.state_of_sends hx hsends
    refine h₃.refuses_of_presents hy hpresents' ?_
    exact h₂.state_ne_of_passes (by simp [hspent]) hbetween h₃ hfresh
  · constructor
    · intro hends past x rest hstory hstalls
      obtain ⟨m, hm, hpending⟩ := (OpenManagers.exists_isPending_iff_stalls hacts hstory
        hstalls.refuses hstalls.idle).mpr hstalls
      exact hends past x rest hstory hstalls.idle hstalls.refuses m hm hpending
    · intro hsafe past x rest hstory hidle hrefuses m hm hpending
      exact hsafe past x rest hstory
        ((OpenManagers.exists_isPending_iff_stalls hacts hstory hrefuses hidle).mp
          ⟨m, hm, hpending⟩)

set_option maxRecDepth 10000 in
/-- An exchange is dropped and its state refused. Once the exchange of another login has come back,
a refused callback ends a login again. -/
theorem refusal_ends_login_after_return :
    let told := (OpenManagers.closed .empty).story .sample
      [.openManager, .login 0 "s1" "alice.example" (.secure "app.example" ["cb"]),
        .startExchange 0 "https://app.example/cb?code=XYZ&state=s1", .drop 0,
        .login 0 "s2" "alice.example" (.secure "app.example" ["cb"]),
        .startExchange 0 "https://app.example/cb?code=XYZ&state=s2",
        .finishExchange 1 (.error .missingCode),
        .login 0 "s3" "alice.example" (.secure "app.example" ["cb"]),
        .startExchange 0 "https://app.example/cb?code=XYZ&state=s1"]
    ∃ x y, told[3]? = some x ∧ x.after = { x.before with waiting := [] } ∧
      told[8]? = some y ∧ (∃ fault, y.answer = .fault fault) ∧
      ∀ m ∈ y.after.managers, ¬ m.phase.isPending := by
  intro told
  obtain ⟨hdrops, hspent, hends⟩ := refusal_ends_login_iff Platform.sample_reliable
    (rfl : Entries.empty = .empty)
    (by simp : Act.openManager ∉ [
      .login 0 "s1" "alice.example" (.secure "app.example" ["cb"]),
      .startExchange 0 "https://app.example/cb?code=XYZ&state=s1", .drop 0,
      .login 0 "s2" "alice.example" (.secure "app.example" ["cb"]),
      .startExchange 0 "https://app.example/cb?code=XYZ&state=s2",
      .finishExchange 1 (.error .missingCode),
      .login 0 "s3" "alice.example" (.secure "app.example" ["cb"]),
      .startExchange 0 "https://app.example/cb?code=XYZ&state=s1"])
  have honly : ∀ i x, told[i]? = some x → x.Refuses → i = 8 := by
    rintro i x hx ⟨callback, fault, hact, hanswer⟩
    have hlt : i < 9 := (List.getElem?_eq_some_iff.mp hx).1
    interval_cases i <;> cases hx <;> cases hact <;> first | rfl | cases hanswer
  -- the exchange of the second login came back, so none is abandoned when the callback is refused
  have hsafe : ∀ past x rest, told = past ++ x :: rest → ¬ x.Stalls past := by
    intro past x rest hstory hstalls
    have hlength := honly past.length x (by rw [hstory]; simp) hstalls.refuses
    obtain rfl : past = told.take 7 ++ [told[7]] := by
      have htake : told.take past.length = past := by rw [hstory, List.take_left]
      rw [← htake, hlength]
      rfl
    obtain ⟨t, habandoned⟩ := hstalls.abandoned
    rcases unreturned_concat.mp habandoned.unreturned with ⟨_, hact, -⟩ | ⟨-, hunreturned⟩
    · cases hact
    · have hback : Unreturned (told.take 6 ++ [told[6]]) t := hunreturned
      rcases unreturned_concat.mp hback with ⟨_, hact, -⟩ | ⟨hcomes, -⟩
      · cases hact
      · exact hcomes ⟨_, _, _, ⟨rfl, .head _⟩, rfl⟩
  refine ⟨_, _, rfl, hdrops _ (List.getElem_mem (n := 3) (by decide)) 0 rfl, rfl, ?_, ?_⟩
  · refine hspent [_, _] _ [_, _, _, _, _] _ [] _ "s1" rfl ⟨_, rfl, rfl⟩ ⟨_, rfl, by decide⟩ ?_
      ⟨_, rfl, by decide⟩
    rintro z hz handle ⟨redirect, url, hact, -⟩
    have hmem : z.act ∈ [.drop 0, .login 0 "s2" "alice.example" (.secure "app.example" ["cb"]),
        .startExchange 0 "https://app.example/cb?code=XYZ&state=s2",
        .finishExchange 1 (.error .missingCode),
        .login 0 "s3" "alice.example" (.secure "app.example" ["cb"])] :=
      List.mem_map_of_mem (f := Moment.act) hz
    rw [hact] at hmem
    simp at hmem
  · exact hends.mpr hsafe [_, _, _, _, _, _, _, _] _ [] rfl (by rintro t ⟨⟩) ⟨_, _, rfl, rfl⟩

set_option maxRecDepth 10000 in
/-- After its exchange was dropped, a manager waits for a login although the callback is refused and
nothing is on the network. -/
theorem not_refusal_ends_login_of_drop :
    ∃ past x, (OpenManagers.closed .empty).story .sample
        [.openManager, .login 0 "s1" "alice.example" (.secure "app.example" ["cb"]),
          .startExchange 0 "https://app.example/cb?code=XYZ&state=s1", .drop 0,
          .startExchange 0 "https://app.example/cb?code=XYZ&state=s1"] = past ++ [x] ∧
      x.before.Idle ∧ x.Refuses ∧ ∃ m ∈ x.after.managers, m.phase.isPending := by
  refine ⟨[_, _, _, _], _, rfl, ?_, ⟨_, _, rfl, rfl⟩, _, .head _, by decide⟩
  intro t ht
  cases ht

end SignIn
