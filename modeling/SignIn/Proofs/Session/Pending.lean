import SignIn.Proofs.Session.Epochs
import SignIn.Proofs.Text.Split

/-!
# Logins that can complete

A manager should wait for a login exactly as long as the login can still complete: its state is
kept, or its exchange is on the network. One moment can break this. When a callback is refused, the
flag of the manager decides whether the login is given up, and the flag is shared by all exchanges:
an old one that is still on the network holds it up, and an old one that comes back lowers it. A
manager waits for what can complete, at every moment of a run, exactly if no refused callback is
judged by a flag that is wrong.
-/

namespace SignIn

/-- An exchange was sent, and since then no login URL was issued and no session torn down. -/
def Underway (past : List (Moment Act Answer)) (t : Ticket) : Prop :=
  ∃ before x since, past = before ++ x :: since ∧ x.Sends 0 t ∧ ∀ z ∈ since, ¬ z.Renews

/-- The state of a login is kept, or an exchange that was sent since the last login began or the
last session ended is on the network. -/
def Scene.CanComplete (c : Scene) (past : List (Moment Act Answer)) : Prop :=
  (∃ state, c.keeps stateKey = .ok (some state)) ∨ ∃ t ∈ c.waiting, Underway past t

namespace Moment

def Refuses (x : Moment Act Answer) : Prop :=
  ∃ callback fault, x.act = .startExchange 0 callback ∧ x.answer = .fault fault

/-- A callback is refused by a manager that waits for a login, while its flag does not tell whether
the exchange of that login is on the network. -/
structure Misjudges (x : Moment Act Answer) (past : List (Moment Act Answer)) : Prop where
  refuses : x.Refuses
  flag : ∃ m, x.before.managers[0]? = some m ∧ m.phase.isPending ∧
    ¬ (m.exchanging ↔ ∃ t ∈ x.before.waiting, Underway past t)

end Moment

theorem underway_concat {past : List (Moment Act Answer)} {x : Moment Act Answer} {t : Ticket} :
    Underway (past ++ [x]) t ↔ x.Sends 0 t ∨ ¬ x.Renews ∧ Underway past t :=
  Text.exists_since_concat

theorem Manager.isPending_refusing (m : Manager) :
    m.refusing.phase.isPending = (m.phase.isPending && m.exchanging) := by
  unfold refusing
  cases hflag : m.exchanging <;> simp

namespace OpenManagers

variable {e : Endpoints} {st : Entries} {o o' o₀ : OpenManagers Entries} {m m' : Manager}
  {x x₀ : Moment Act Answer} {past : List (Moment Act Answer)} {t : Ticket}

/-- A login of a manager can complete: its state is kept, or its exchange is on the network. -/
def Awaits (o : OpenManagers Entries) : Prop := o.store.get? stateKey ≠ none ∨ ∃ t, o.Current t

theorem Turn.waiting_of_mem {a : Act} {answer : Answer} (h : o.Turn e a answer o')
    (ht : t ∈ o'.waiting) : t ∈ o.waiting ∨ answer = .waits t := by
  rcases h.waiting_cases with ⟨hw, -⟩ | ⟨number, hw, -⟩ | ⟨n, call, hanswer, hw, -⟩
  · exact .inl (hw ▸ ht)
  · exact .inl (mem_without.mp (hw ▸ ht)).1
  · rcases List.mem_append.mp (hw ▸ ht) with ht | ht
    · exact .inl ht
    · rw [List.mem_singleton.mp ht]
      exact .inr hanswer

theorem Turn.of_refused {n : Nat} {callback : String} {fault : AuthFault}
    (h : o.Turn e (.startExchange n callback) (.fault fault) o') :
    ∃ m, o.managers[n]? = some m ∧
      o' = o.seat n (m.adopting o.store).refusing (o.store.erase stateKey) := by
  cases h with
  | refused hm => exact ⟨_, hm, rfl⟩

namespace Alone

theorem underway_iff (h : o.Alone m) (hx₀ : (closed st).Spans e x₀ o₀)
    (ha₀ : x₀.act = .openManager) (hpasses : o₀.Passes e past o) (ht : t ∈ o.waiting)
    {q : PendingExchange} (hcall : t.call = .exchange q) :
    q.epoch = m.epoch ↔ Underway (x₀ :: past) t := by
  obtain ⟨m₀, h₀, hnone, -⟩ := Alone.opened hx₀ ha₀
  refine h₀.passes_induction (motive := fun past o m => t ∈ o.waiting →
    (q.epoch = m.epoch ↔ Underway (x₀ :: past) t)) ?_ ?_ hpasses h ht
  · intro ht
    rw [hnone] at ht
    cases ht
  · intro past o₁ m₁ x o₂ m₂ hpasses h₁ hx ha h₂ hlone ih ht
    rw [← List.cons_append, underway_concat]
    rcases hx.turn.waiting_of_mem ht with hold | hwaits
    · -- the ticket of an exchange that is sent now would be a fresh one
      have hsends : ¬ x.Sends 0 t := by
        rintro ⟨callback, hact, hanswer⟩
        have hturn := hx.turn
        rw [hact, hanswer] at hturn
        obtain ⟨m', request, -, -, rfl, -⟩ := hturn.of_sent
        exact absurd (h₁.numbered.lt_issued _ hold) (lt_irrefl _)
      have hle := (h₁.sent hold).2
      rw [hcall, Waiting.epoch_exchange] at hle
      obtain ⟨hle', hiff⟩ := hlone.epoch_iff
      rw [or_iff_right hsends, ← ih hold, ← hiff]
      omega
    · have hturn := hx.turn
      rw [hwaits] at hturn
      obtain ⟨m', hm', hepoch, hexchange⟩ := hturn.sent_by
      obtain ⟨callback, hact⟩ := hexchange q hcall
      obtain ⟨hzero, rfl⟩ := h₂.eq_of_get hm'
      rw [hcall, Waiting.epoch_exchange] at hepoch
      rw [hzero] at hact
      exact iff_of_true hepoch (.inl ⟨callback, hact, hwaits⟩)

theorem exists_underway_iff (h : o.Alone m) (hx₀ : (closed st).Spans e x₀ o₀)
    (ha₀ : x₀.act = .openManager) (hpasses : o₀.Passes e past o) :
    (∃ t ∈ o.waiting, Underway (x₀ :: past) t) ↔ ∃ t, o.Current t := by
  refine exists_congr fun t => ?_
  rw [h.current_iff]
  refine and_congr_right fun ht => ?_
  constructor
  · intro hunderway
    obtain ⟨before, z, since, hpast, hsends, -⟩ := id hunderway
    obtain ⟨q, hcall⟩ : ∃ q, t.call = .exchange q := by
      have hz : z ∈ x₀ :: past := by simp [hpast]
      rcases List.mem_cons.mp hz with rfl | hz
      · exact hx₀.exchange_of_sends hsends
      · obtain ⟨o₁, o₂, hspans⟩ := hpasses.exists_spans hz
        exact hspans.exchange_of_sends hsends
    exact ⟨q, hcall, (h.underway_iff hx₀ ha₀ hpasses ht hcall).mpr hunderway⟩
  · rintro ⟨q, hcall, hq⟩
    exact (h.underway_iff hx₀ ha₀ hpasses ht hcall).mp hq

theorem canComplete_iff (h : o.Alone m) (hx₀ : (closed st).Spans e x₀ o₀)
    (ha₀ : x₀.act = .openManager) (hpasses : o₀.Passes e past o) :
    (o.scene .memory).CanComplete (x₀ :: past) ↔ o.Awaits := by
  have hkept : (∃ state, (o.scene .memory).keeps stateKey = .ok (some state)) ↔
      o.store.get? stateKey ≠ none := by
    rw [Option.ne_none_iff_exists']
    exact exists_congr fun state => ⟨Except.ok.inj, congrArg Except.ok⟩
  exact or_congr hkept (h.exists_underway_iff hx₀ ha₀ hpasses)

theorem awaits_congr (h : o.Alone m) (h' : o'.Alone m') (hepoch : m'.epoch = m.epoch)
    (hstate : o'.store.get? stateKey = o.store.get? stateKey)
    (hw : ∀ t q, t.call = .exchange q → q.epoch = m.epoch → (t ∈ o'.waiting ↔ t ∈ o.waiting)) :
    o'.Awaits ↔ o.Awaits := by
  unfold Awaits
  rw [hstate]
  refine or_congr_right (exists_congr fun t => ?_)
  rw [h.current_iff, h'.current_iff, hepoch]
  constructor
  · rintro ⟨ht, q, hcall, hq⟩
    exact ⟨(hw t q hcall hq).mp ht, q, hcall, hq⟩
  · rintro ⟨ht, q, hcall, hq⟩
    exact ⟨(hw t q hcall hq).mpr ht, q, hcall, hq⟩

theorem not_awaits_of_ends (h : o.Alone m) (h' : o'.Alone m') (hepoch : m'.epoch = m.epoch + 1)
    (hstate : o'.store.get? stateKey = none) (hw : ∀ t ∈ o'.waiting, t ∈ o.waiting) :
    ¬ o'.Awaits := by
  rintro (hkept | ⟨t, ht⟩)
  · exact hkept hstate
  · obtain ⟨hmem, q, hcall, hq⟩ := h'.current_iff.mp ht
    have hle := (h.sent (hw t hmem)).2
    rw [hcall, Waiting.epoch_exchange] at hle
    omega

theorem not_awaits_of_returned (h : o.Alone m) (ht : o.Current t) (h' : o'.Alone m')
    (hepoch : m'.epoch = m.epoch) (hstate : o'.store.get? stateKey = o.store.get? stateKey)
    (hw : o'.waiting = (o.without t.number).waiting) : ¬ o'.Awaits := by
  obtain ⟨hmem, q, hcall, hq⟩ := h.current_iff.mp ht
  rintro (hkept | ⟨t', ht'⟩)
  · exact hkept (hstate.trans (h.current t ht).1)
  · obtain ⟨hmem', q', hcall', hq'⟩ := h'.current_iff.mp ht'
    obtain ⟨hold, hne⟩ := mem_without.mp (hw ▸ hmem')
    have heq := h.lone t' hold t hmem q' q hcall' hcall (by omega)
    exact hne (congrArg Ticket.number heq)

/-- After a refusal the flag says whether the manager still waits, and only the exchange of the
epoch can complete. -/
theorem of_refuses (h : o.Alone m) (hx : o.Spans e x o') (h' : o'.Alone m')
    (hrefuses : x.Refuses) :
    (m'.phase.isPending ↔ m.phase.isPending ∧ m.exchanging) ∧
      (o'.Awaits ↔ ∃ t, o.Current t) := by
  obtain ⟨callback, fault, hact, hanswer⟩ := hrefuses
  have hturn := hx.turn
  rw [hact, hanswer] at hturn
  obtain ⟨m₁, hm₁, hnext⟩ := hturn.of_refused
  obtain ⟨-, rfl⟩ := h.eq_of_get hm₁
  rw [h.adopting_eq] at hnext
  have hself : m' = m.refusing := by
    have hmanagers : o'.managers = [m.refusing] := by simp [hnext, seat, h.managers]
    simpa [h'.managers] using hmanagers
  have hstate : o'.store.get? stateKey = none := by simp [hnext]
  have hwaiting : o'.waiting = o.waiting := by rw [hnext]; rfl
  constructor
  · rw [hself, Manager.isPending_refusing, Bool.and_eq_true]
  · have hcurrent : ∀ t, o'.Current t ↔ o.Current t := by
      intro t
      rw [h.current_iff, h'.current_iff, hwaiting, hself, Manager.epoch_refusing]
    simp only [Awaits, hstate, hcurrent, ne_eq, not_true, false_or]

theorem awaits_of_not_refuses (h : o.Alone m) (hx : o.Spans e x o') (h' : o'.Alone m')
    (ha : x.act ≠ .openManager) (hdrop : ∀ n, x.act ≠ .drop n) (hrefuses : ¬ x.Refuses)
    (hpending : m.phase.isPending ↔ o.Awaits) : m'.phase.isPending ↔ o'.Awaits := by
  obtain ⟨before, a, answer, after⟩ := x
  obtain ⟨hturn, rfl, rfl⟩ := hx
  dsimp only at hturn ha hdrop
  have hseat : ∀ {m₁}, o'.managers = o.managers.set 0 m₁ → m' = m₁ := by
    intro m₁ hmanagers
    simpa [h.managers, h'.managers] using hmanagers
  have hsame : o'.managers = o.managers → m' = m := by
    intro hmanagers
    simpa [h.managers, h'.managers] using hmanagers
  -- a call that goes or comes and is not an exchange of this epoch makes no difference
  have hgoes : ∀ {number n call}, o.ticket? number = some ⟨number, n, call⟩ →
      (∀ q, call = .exchange q → q.epoch ≠ m.epoch) → ∀ t q, t.call = .exchange q →
      q.epoch = m.epoch → (t ∈ (o.without number).waiting ↔ t ∈ o.waiting) := by
    intro number n call ht hother t q hcall hq
    rw [mem_without, and_iff_left_iff_imp]
    intro hmem hnumber
    rw [← hnumber, h.numbered.ticket?_eq hmem] at ht
    have hcall' : t.call = call := congrArg Ticket.call (Option.some.inj ht)
    exact hother q (hcall'.symm.trans hcall) hq
  cases hturn with
  | restored | orphaned | resumed => exact absurd rfl ha
  | dropped => exact absurd rfl (hdrop _)
  | login hm =>
    obtain ⟨rfl, rfl⟩ := h.eq_of_get hm
    obtain rfl := hseat rfl
    exact iff_of_true rfl (.inl (by simp))
  | refused hm =>
    obtain ⟨rfl, rfl⟩ := h.eq_of_get hm
    exact absurd ⟨_, _, rfl, rfl⟩ hrefuses
  | started hm hv =>
    obtain ⟨rfl, rfl⟩ := h.eq_of_get hm
    rw [h.adopting_eq] at h' hseat ⊢
    obtain rfl := hseat rfl
    have hcurrent := h'.current_iff.mpr
      ⟨List.mem_append_right _ (List.mem_singleton_self _), _, rfl, rfl⟩
    exact iff_of_true (h.awaited (LoginFlow.ne_none_of_verdict hv)).1 (.inr ⟨_, hcurrent⟩)
  | superseded ht hm hp =>
    obtain ⟨rfl, rfl⟩ := h.eq_of_get hm
    obtain rfl := hseat rfl
    rw [h.awaits_congr h' rfl rfl (hgoes ht ?_)]
    · exact hpending
    · rintro q ⟨⟩
      exact Ne.symm hp
  | failed ht hm hp =>
    obtain ⟨rfl, rfl⟩ := h.eq_of_get hm
    obtain rfl := hseat rfl
    have hcurrent := h.current_iff.mpr ⟨mem_of_ticket? ht, _, rfl, hp.symm⟩
    exact iff_of_false (by simp) (h.not_awaits_of_returned hcurrent h' (by simp) rfl rfl)
  | recorded ht hm hp =>
    obtain ⟨rfl, rfl⟩ := h.eq_of_get hm
    obtain rfl := hseat rfl
    have hcurrent := h.current_iff.mpr ⟨mem_of_ticket? ht, _, rfl, hp.symm⟩
    exact iff_of_false (by simp) (h.not_awaits_of_returned hcurrent h' rfl (by simp) rfl)
  | tokenless hm | loggedOut hm =>
    obtain ⟨rfl, rfl⟩ := h.eq_of_get hm
    obtain rfl := hseat rfl
    exact iff_of_false (by simp [Manager.tornDown, Phase.isPending])
      (h.not_awaits_of_ends h' rfl (by simp) fun t ht => ht)
  | rejected ht hm =>
    obtain ⟨rfl, rfl⟩ := h.eq_of_get hm
    obtain rfl := hseat rfl
    exact iff_of_false (by simp [Manager.tornDown, Phase.isPending])
      (h.not_awaits_of_ends h' rfl (by simp) fun t ht => (mem_without.mp ht).1)
  | unsent | absent | unknown =>
    obtain rfl := hsame rfl
    exact hpending
  | sent hm htoken =>
    obtain rfl := hsame rfl
    rw [h.awaits_congr h' rfl rfl]
    · exact hpending
    · intro t q hcall _
      refine ⟨fun ht => ?_, List.mem_append_left _⟩
      rcases List.mem_append.mp ht with ht | ht
      · exact ht
      · rw [List.mem_singleton.mp ht] at hcall
        cases hcall
  | late ht | answered ht =>
    obtain rfl := hsame rfl
    rw [h.awaits_congr h' rfl rfl (hgoes ht fun q hcall => by cases hcall)]
    exact hpending
  | lost ha' ht hm =>
    rw [(h.sent (mem_of_ticket? ht)).1, h.get] at hm
    cases hm

/-- A moment keeps a manager waiting exactly as long as its login can complete, unless the moment
refuses a callback and the flag is wrong. -/
theorem awaits_step (h : o.Alone m) (hx : o.Spans e x o') (h' : o'.Alone m')
    (ha : x.act ≠ .openManager) (hdrop : ∀ n, x.act ≠ .drop n)
    (hflag : x.Refuses → m.phase.isPending → (m.exchanging ↔ ∃ t, o.Current t))
    (hpending : m.phase.isPending ↔ o.Awaits) : m'.phase.isPending ↔ o'.Awaits := by
  by_cases hrefuses : x.Refuses
  · obtain ⟨hphase, hawaits⟩ := h.of_refuses hx h' hrefuses
    rw [hphase, hawaits]
    constructor
    · rintro ⟨hwaits, hup⟩
      exact (hflag hrefuses hwaits).mp hup
    · intro hcurrent
      have hwaits := hpending.mpr (.inr hcurrent)
      exact ⟨hwaits, (hflag hrefuses hwaits).mpr hcurrent⟩
  · exact h.awaits_of_not_refuses hx h' ha hdrop hrefuses hpending

theorem awaits_of_passes (h : o.Alone m) (hx₀ : (closed st).Spans e x₀ o₀)
    (ha₀ : x₀.act = .openManager) (hpasses : o₀.Passes e past o)
    (hdrop : ∀ z ∈ past, ∀ n, z.act ≠ .drop n)
    (hflag : ∀ before z since, past = before ++ z :: since → ¬ z.Misjudges (x₀ :: before)) :
    m.phase.isPending ↔ o.Awaits := by
  obtain ⟨m₀, h₀, hnone, hpending₀, -⟩ := Alone.opened hx₀ ha₀
  refine h₀.passes_induction (motive := fun past o m => (∀ z ∈ past, ∀ n, z.act ≠ .drop n) →
    (∀ before z since, past = before ++ z :: since → ¬ z.Misjudges (x₀ :: before)) →
    (m.phase.isPending ↔ o.Awaits)) ?_ ?_ hpasses h hdrop hflag
  · intro _ _
    rw [hpending₀, Awaits, or_iff_left]
    rintro ⟨t, ht⟩
    have hmem := (h₀.current_iff.mp ht).1
    rw [hnone] at hmem
    cases hmem
  · intro past o₁ m₁ x o₂ m₂ hpasses h₁ hx ha h₂ _ ih hdrop hflag
    have hpending : m₁.phase.isPending ↔ o₁.Awaits := by
      refine ih (fun z hz => hdrop z (List.mem_append_left _ hz)) ?_
      rintro before z since rfl
      exact hflag before z (since ++ [x]) (by simp)
    refine h₁.awaits_step hx h₂ ha (hdrop x (by simp)) (fun hrefuses hwaits => ?_) hpending
    by_contra hwrong
    refine hflag past x [] rfl ⟨hrefuses, m₁, ?_, hwaits, ?_⟩
    · rw [hx.before]
      exact h₁.get
    · rw [hx.before]
      exact fun hiff => hwrong (hiff.trans (h₁.exists_underway_iff hx₀ ha₀ hpasses))

end Alone

end OpenManagers

/-- A manager waits for a login exactly as long as it can complete, at every moment of a run, if and
only if in the run no callback is refused while the flag is wrong. -/
theorem pending_iff_canComplete {σ : Type} {p : Platform σ} {Holds : σ → Entries → Prop}
    (hp : p.Reliable Holds) {st : σ} {st' : Entries} (hst : Holds st st') {acts : List Act}
    (hacts : .openManager ∉ acts) (hdrop : ∀ n, .drop n ∉ acts) :
    (∀ past x rest,
      (OpenManagers.closed st).story p (.openManager :: acts) = past ++ x :: rest →
      ∀ m ∈ x.after.managers, m.phase.isPending ↔ x.after.CanComplete (past ++ [x])) ↔
    ∀ past x rest,
      (OpenManagers.closed st).story p (.openManager :: acts) = past ++ x :: rest →
      ¬ x.Misjudges past := by
  rw [OpenManagers.story_eq_inMemory hp hst]
  constructor
  · intro hpending past x rest hstory hmisjudges
    obtain ⟨callback, fault, hact, -⟩ := id hmisjudges.refuses
    obtain ⟨x₀, past, o₀, o₁, o₂, acts', rfl, hx₀, ha₀, hpasses, hx, -⟩ :=
      OpenManagers.exists_opened_of_story_eq hacts hstory (by rw [hact]; exact Act.noConfusion)
    have ha : x.act ≠ .openManager := by rw [hact]; exact Act.noConfusion
    obtain ⟨m₀, h₀, -⟩ := OpenManagers.Alone.opened hx₀ ha₀
    obtain ⟨m₁, h₁, -⟩ := h₀.passes hpasses
    obtain ⟨m₂, h₂, -⟩ := h₁.aloneTurn hx ha
    obtain ⟨hphase, hawaits⟩ := h₁.of_refuses hx h₂ hmisjudges.refuses
    obtain ⟨m, hm, hwaits, hwrong⟩ := hmisjudges.flag
    rw [hx.before] at hm hwrong
    obtain ⟨-, rfl⟩ := h₁.eq_of_get hm
    have hmem : m₂ ∈ x.after.managers := by
      rw [hx.after, h₂.mem_scene_iff]
    have hafter := hpending _ x rest hstory m₂ hmem
    rw [hx.after, List.cons_append, h₂.canComplete_iff hx₀ ha₀ (hpasses.concat hx ha), hphase,
      hawaits, and_iff_right hwaits] at hafter
    exact hwrong (hafter.trans (h₁.exists_underway_iff hx₀ ha₀ hpasses).symm)
  · intro hflag past x rest hstory m hm
    obtain ⟨x₀, xs, o₀, o, hpast, hx₀, ha₀, hpasses, hafter, hxs⟩ :=
      OpenManagers.exists_passes_after hacts hstory
    obtain ⟨m₀, h₀, -⟩ := OpenManagers.Alone.opened hx₀ ha₀
    obtain ⟨m', h', -⟩ := h₀.passes hpasses
    obtain rfl : m = m' := by rwa [hafter, h'.mem_scene_iff] at hm
    rw [hafter, hpast, h'.canComplete_iff hx₀ ha₀ hpasses]
    refine h'.awaits_of_passes hx₀ ha₀ hpasses ?_ ?_
    · intro z hz n hact
      exact hdrop n (hact ▸ hxs z hz)
    · rintro before z since rfl
      refine hflag (x₀ :: before) z (since ++ rest) ?_
      have hsplit : past ++ x :: rest = (past ++ [x]) ++ rest := by simp
      rw [hstory, hsplit, hpast]
      simp

set_option maxRecDepth 10000 in
/-- A callback with a wrong state ends a login whose exchange was not sent, which can then no longer
complete. -/
theorem pending_iff_canComplete_of_wrong_state :
    let told := (OpenManagers.closed .empty).story .sample
      [.openManager, .login 0 "s1" "alice.example" (.secure "app.example" ["cb"]),
        .startExchange 0 "https://app.example/cb?code=XYZ&state=s2"]
    ∃ x m, told[2]? = some x ∧ x.after.managers = [m] ∧ ¬ m.phase.isPending ∧
      ¬ x.after.CanComplete told := by
  intro told
  have hidle : ∀ x ∈ told, x.before.waiting = [] ∧
      ∀ m ∈ x.before.managers, m.exchanging = false := by decide
  have hsafe : ∀ past x rest, told = past ++ x :: rest → ¬ x.Misjudges past := by
    intro past x rest hstory hmisjudges
    obtain ⟨m, hm, -, hwrong⟩ := hmisjudges.flag
    obtain ⟨hwaiting, hflag⟩ := hidle x (by rw [hstory]; simp)
    refine hwrong ?_
    simp [hwaiting, hflag m (List.mem_of_getElem? hm)]
  have hpending := (pending_iff_canComplete Platform.sample_reliable rfl (by simp)
    (by simp)).mpr hsafe
  refine ⟨_, _, rfl, rfl, by decide, fun hcan => ?_⟩
  have hwaits := (hpending [_, _] _ [] rfl _ (.head _)).mpr hcan
  revert hwaits
  decide

set_option maxRecDepth 10000 in
/-- While the exchange of an old login is on the network, a callback that is refused does not end
the login. Once it has come back, such a callback ends the login whose exchange is on the
network. -/
theorem not_pending_iff_canComplete_of_overlap :
    let told := (OpenManagers.closed .empty).story .sample
      [.openManager, .login 0 "s1" "alice.example" (.secure "app.example" ["cb"]),
        .startExchange 0 "https://app.example/cb?code=XYZ&state=s1",
        .login 0 "s2" "alice.example" (.secure "app.example" ["cb"]),
        .startExchange 0 "https://app.example/cb?code=XYZ&state=wrong",
        .login 0 "s3" "alice.example" (.secure "app.example" ["cb"]),
        .startExchange 0 "https://app.example/cb?code=XYZ&state=s3",
        .finishExchange 0 (.ok { accessToken := "token-XYZ" }),
        .startExchange 0 "https://app.example/cb?code=XYZ&state=s3"]
    (∃ past x rest, told = past ++ x :: rest ∧ ∃ m ∈ x.after.managers,
      m.phase.isPending ∧ ¬ x.after.CanComplete (past ++ [x])) ∧
    ∃ past x rest, told = past ++ x :: rest ∧ ∃ m ∈ x.after.managers,
      ¬ m.phase.isPending ∧ x.after.CanComplete (past ++ [x]) := by
  constructor
  · refine ⟨[_, _, _, _], _, [_, _, _, _], rfl, _, .head _, by decide, ?_⟩
    rintro (⟨state, hstate⟩ | ⟨t, -, hunderway⟩)
    · cases hstate
    · rcases underway_concat.mp hunderway with ⟨callback, -, hanswer⟩ | ⟨-, hunderway⟩
      · cases hanswer
      · have hlogin : Underway ([_, _, _] ++ [_]) t := hunderway
        rcases underway_concat.mp hlogin with ⟨callback, hact, -⟩ | ⟨hrenews, -⟩
        · cases hact
        · exact hrenews (.inl (Option.some_ne_none _))
  · exact ⟨[_, _, _, _, _, _, _, _], _, [], rfl, _, .head _, by decide,
      .inr ⟨_, .head _, [_, _, _, _, _, _], _, [_, _], rfl, ⟨_, rfl, rfl⟩, by decide⟩⟩

end SignIn
