import Mathlib.Order.Nat
import SignIn.Proofs.Session.Story

/-!
# What lasts in a run

The epoch of a manager never goes back, and within one epoch a login can end but not begin, nor
change its handle. The number of a ticket is never given again. So an exchange that comes back in
the epoch in which it was sent, to a login that is still under way, meets the login as it left it.
-/

namespace SignIn

def Waiting.epoch : Waiting → Nat
  | .exchange p => p.epoch
  | .fetch p => p.epoch

@[simp] theorem Waiting.epoch_exchange (q : PendingExchange) :
    (Waiting.exchange q).epoch = q.epoch := rfl

@[simp] theorem Waiting.epoch_fetch (q : PendingFetch) : (Waiting.fetch q).epoch = q.epoch := rfl

namespace Manager

/-- What a manager can come to. -/
structure Later (m m' : Manager) : Prop where
  epoch_le : m.epoch ≤ m'.epoch
  pending : m'.epoch = m.epoch → m'.phase.isPending →
    m.phase.isPending ∧ m'.handle = m.handle

variable {m m' m'' : Manager}

theorem Later.refl (m : Manager) : m.Later m := ⟨le_refl _, fun _ h => ⟨h, rfl⟩⟩

theorem Later.trans (h : m.Later m') (h' : m'.Later m'') : m.Later m'' := by
  refine ⟨h.epoch_le.trans h'.epoch_le, fun hepoch hpending => ?_⟩
  have hle := h.epoch_le
  have hle' := h'.epoch_le
  obtain ⟨hpending', hhandle'⟩ := h'.pending (by omega) hpending
  obtain ⟨hpending'', hhandle⟩ := h.pending (by omega) hpending'
  exact ⟨hpending'', hhandle'.trans hhandle⟩

theorem Later.of_epoch_lt (h : m.epoch < m'.epoch) : m.Later m' :=
  ⟨h.le, fun hepoch => absurd hepoch h.ne'⟩

theorem later_expecting (m : Manager) (handle : Option String) : m.Later (m.expecting handle) :=
  .of_epoch_lt (Nat.lt_succ_self m.epoch)

theorem later_tornDown (m : Manager) : m.Later m.tornDown :=
  .of_epoch_lt (Nat.lt_succ_self m.epoch)

theorem later_adopting (m : Manager) (st : Entries) : m.Later (m.adopting st) := by
  unfold adopting
  split
  · exact later_expecting m _
  · exact .refl m

theorem isPending_adopting (m : Manager) {st : Entries} (h : st.get? stateKey ≠ none) :
    (m.adopting st).phase.isPending := by
  unfold adopting
  split
  · rfl
  · next hnot =>
    by_contra hpending
    exact hnot ⟨hpending, Option.isSome_iff_ne_none.mpr h⟩

theorem adopting_cases (m : Manager) (st : Entries) :
    m.phase.isPending = false ∧ st.get? stateKey ≠ none ∧
        m.adopting st = m.expecting (st.get? handleKey) ∨
      ¬ (m.phase.isPending = false ∧ st.get? stateKey ≠ none) ∧ m.adopting st = m := by
  have hiff : (¬ m.phase.isPending ∧ (st.get? stateKey).isSome) ↔
      m.phase.isPending = false ∧ st.get? stateKey ≠ none := by
    rw [Bool.not_eq_true, Option.isSome_iff_ne_none]
  unfold adopting
  split
  · next h => exact .inl ⟨(hiff.mp h).1, (hiff.mp h).2, rfl⟩
  · next h => exact .inr ⟨fun h' => h (hiff.mpr h'), rfl⟩

theorem later_exchanging (m : Manager) (b : Bool) : m.Later { m with exchanging := b } :=
  ⟨le_refl _, fun _ h => ⟨h, rfl⟩⟩

@[simp] theorem epoch_failExchange (m : Manager) : m.failExchange.epoch = m.epoch := by
  unfold failExchange
  split <;> rfl

@[simp] theorem handle_failExchange (m : Manager) : m.failExchange.handle = m.handle := by
  unfold failExchange
  split <;> rfl

@[simp] theorem token_failExchange (m : Manager) : m.failExchange.token = m.token := by
  unfold failExchange
  split <;> rfl

@[simp] theorem isAuthenticated_failExchange (m : Manager) :
    m.failExchange.isAuthenticated = m.isAuthenticated := by
  obtain ⟨phase, _⟩ := m
  cases phase <;> rfl

@[simp] theorem isPending_failExchange (m : Manager) : m.failExchange.phase.isPending = false := by
  obtain ⟨phase, _⟩ := m
  cases phase <;> rfl

theorem later_failExchange (m : Manager) : m.Later m.failExchange := by
  refine ⟨(epoch_failExchange m).ge, fun _ h => ?_⟩
  rw [isPending_failExchange] at h
  cases h

@[simp] theorem epoch_refusing (m : Manager) : m.refusing.epoch = m.epoch := by
  unfold refusing
  split <;> simp

@[simp] theorem handle_refusing (m : Manager) : m.refusing.handle = m.handle := by
  unfold refusing
  split <;> simp

@[simp] theorem token_refusing (m : Manager) : m.refusing.token = m.token := by
  unfold refusing
  split <;> simp

@[simp] theorem isAuthenticated_refusing (m : Manager) :
    m.refusing.isAuthenticated = m.isAuthenticated := by
  unfold refusing
  split <;> simp

theorem later_refusing (m : Manager) : m.Later m.refusing := by
  unfold refusing
  split
  · exact .refl m
  · exact later_failExchange m

@[simp] theorem isPending_recording (m : Manager) (handle token : String) :
    (m.recording handle token).phase.isPending = false := by
  obtain ⟨phase, _⟩ := m
  cases phase <;> rfl

theorem later_recording (m : Manager) (handle token : String) :
    m.Later (m.recording handle token) := by
  refine ⟨le_refl _, fun _ h => ?_⟩
  rw [isPending_recording] at h
  cases h

end Manager

namespace OpenManagers

variable {e : Endpoints} {o o' o'' : OpenManagers Entries} {a : Act} {answer : Answer}

theorem eq_of_get_alone {m m' : Manager} (h : o.managers = [m]) {n : Nat}
    (hm : o.managers[n]? = some m') : n = 0 ∧ m = m' := by
  rw [h] at hm
  cases n with
  | zero => exact ⟨rfl, by simpa using hm⟩
  | succ n => simp at hm

theorem Turn.managers_cases (h : o.Turn e a answer o') :
    o'.managers = o.managers ∨
    (∃ n m m', o.managers[n]? = some m ∧ m.Later m' ∧ o'.managers = o.managers.set n m') ∨
    ∃ m, o'.managers = o.managers ++ [m] := by
  cases h with
  | restored | orphaned | resumed => exact .inr (.inr ⟨_, rfl⟩)
  | login hm => exact .inr (.inl ⟨_, _, _, hm, Manager.later_expecting _ _, rfl⟩)
  | refused hm =>
    exact .inr (.inl ⟨_, _, _, hm,
      (Manager.later_adopting _ _).trans (Manager.later_refusing _), rfl⟩)
  | started hm =>
    exact .inr (.inl ⟨_, _, _, hm,
      (Manager.later_adopting _ _).trans (Manager.later_exchanging _ _), rfl⟩)
  | superseded ht hm => exact .inr (.inl ⟨_, _, _, hm, Manager.later_exchanging _ _, rfl⟩)
  | failed ht hm =>
    exact .inr (.inl ⟨_, _, _, hm,
      (Manager.later_exchanging _ _).trans (Manager.later_failExchange _), rfl⟩)
  | recorded ht hm => exact .inr (.inl ⟨_, _, _, hm, Manager.later_recording _ _ _, rfl⟩)
  | tokenless hm | loggedOut hm => exact .inr (.inl ⟨_, _, _, hm, Manager.later_tornDown _, rfl⟩)
  | rejected ht hm => exact .inr (.inl ⟨_, _, _, hm, Manager.later_tornDown _, rfl⟩)
  | unsent | sent | late | answered | dropped | absent | lost | unknown => exact .inl rfl

theorem Turn.waiting_cases (h : o.Turn e a answer o') :
    (o'.waiting = o.waiting ∧ o'.issued = o.issued) ∨
    (∃ number, o'.waiting = (o.without number).waiting ∧ o'.issued = o.issued) ∨
    ∃ n call, answer = .waits ⟨o.issued, n, call⟩ ∧
      o'.waiting = o.waiting ++ [⟨o.issued, n, call⟩] ∧ o'.issued = o.issued + 1 := by
  cases h with
  | restored | orphaned | resumed | login | refused | tokenless | unsent | loggedOut | absent
  | unknown => exact .inl ⟨rfl, rfl⟩
  | superseded | failed | recorded | rejected | late | answered | dropped | lost =>
    exact .inr (.inl ⟨_, rfl, rfl⟩)
  | started | sent => exact .inr (.inr ⟨_, _, rfl, rfl, rfl⟩)

/-- Waiting calls have numbers of their own, none of which will be given again. -/
structure Numbered (o : OpenManagers Entries) : Prop where
  lt_issued : ∀ t ∈ o.waiting, t.number < o.issued
  injective : ∀ t ∈ o.waiting, ∀ t' ∈ o.waiting, t.number = t'.number → t = t'

theorem numbered_closed (st : Entries) : (closed st).Numbered := by
  constructor <;> simp [closed]

theorem mem_without {number : Nat} {t : Ticket} :
    t ∈ (o.without number).waiting ↔ t ∈ o.waiting ∧ t.number ≠ number := by
  simp [without]

theorem Numbered.ticket?_eq (h : o.Numbered) {t : Ticket} (ht : t ∈ o.waiting) :
    o.ticket? t.number = some t := by
  cases hfind : o.ticket? t.number with
  | none =>
    have hnone := List.find?_eq_none.mp hfind t ht
    simp at hnone
  | some t' => rw [h.injective t' (mem_of_ticket? hfind) t ht (number_of_ticket? hfind)]

theorem Numbered.eq_of_ticket? (h : o.Numbered) {number n n' : Nat} {call call' : Waiting}
    (ht : ⟨number, n, call⟩ ∈ o.waiting) (ht' : o.ticket? number = some ⟨number, n', call'⟩) :
    n = n' ∧ call = call' := by
  have heq := (h.ticket?_eq ht).symm.trans ht'
  cases heq
  exact ⟨rfl, rfl⟩

theorem Turn.numbered (h : o.Turn e a answer o') (ho : o.Numbered) : o'.Numbered := by
  rcases h.waiting_cases with ⟨hw, hi⟩ | ⟨number, hw, hi⟩ | ⟨n, call, -, hw, hi⟩
  · exact ⟨by rw [hw, hi]; exact ho.lt_issued, by rw [hw]; exact ho.injective⟩
  · constructor
    · intro t ht
      rw [hi]
      exact ho.lt_issued t (mem_without.mp (hw ▸ ht)).1
    · intro t ht t' ht'
      exact ho.injective t (mem_without.mp (hw ▸ ht)).1 t' (mem_without.mp (hw ▸ ht')).1
  · constructor
    · intro t ht
      rw [hi]
      rcases List.mem_append.mp (hw ▸ ht) with ht | ht
      · exact Nat.lt_succ_of_lt (ho.lt_issued t ht)
      · rw [List.mem_singleton.mp ht]
        exact Nat.lt_succ_self o.issued
    · intro t ht t' ht' heq
      rcases List.mem_append.mp (hw ▸ ht) with ht | ht <;>
        rcases List.mem_append.mp (hw ▸ ht') with ht' | ht'
      · exact ho.injective t ht t' ht' heq
      · rw [List.mem_singleton.mp ht'] at heq
        exact absurd heq (ho.lt_issued t ht).ne
      · rw [List.mem_singleton.mp ht] at heq
        exact absurd heq (ho.lt_issued t' ht').ne'
      · rw [List.mem_singleton.mp ht, List.mem_singleton.mp ht']

structure Later (o o' : OpenManagers Entries) : Prop where
  issued_le : o.issued ≤ o'.issued
  waiting : ∀ t ∈ o'.waiting, t.number < o.issued → t ∈ o.waiting
  manager : ∀ (n : Nat) (m : Manager), o.managers[n]? = some m →
    ∃ m', o'.managers[n]? = some m' ∧ m.Later m'

theorem Later.refl (o : OpenManagers Entries) : o.Later o :=
  ⟨le_refl _, fun _ h _ => h, fun _ m h => ⟨m, h, .refl m⟩⟩

theorem Later.trans (h : o.Later o') (h' : o'.Later o'') : o.Later o'' := by
  refine ⟨h.issued_le.trans h'.issued_le, fun t ht hlt => ?_, fun n m hm => ?_⟩
  · exact h.waiting t (h'.waiting t ht (hlt.trans_le h.issued_le)) hlt
  · obtain ⟨m', hm', hlater⟩ := h.manager n m hm
    obtain ⟨m'', hm'', hlater'⟩ := h'.manager n m' hm'
    exact ⟨m'', hm'', hlater.trans hlater'⟩

theorem exists_later_of_set {n n' : Nat} {m m₁ m₁' : Manager} (hm₁ : o.managers[n']? = some m₁)
    (hlater : m₁.Later m₁') (hm : o.managers[n]? = some m) :
    ∃ m', (o.managers.set n' m₁')[n]? = some m' ∧ m.Later m' := by
  by_cases hn : n' = n
  · subst hn
    obtain ⟨hlt, -⟩ := List.getElem?_eq_some_iff.mp hm
    obtain rfl : m₁ = m := Option.some.inj (hm₁.symm.trans hm)
    exact ⟨m₁', List.getElem?_set_self hlt, hlater⟩
  · exact ⟨m, (List.getElem?_set_ne hn).trans hm, .refl m⟩

theorem Turn.later (h : o.Turn e a answer o') : o.Later o' := by
  have htickets : o.issued ≤ o'.issued ∧
      ∀ t ∈ o'.waiting, t.number < o.issued → t ∈ o.waiting := by
    rcases h.waiting_cases with ⟨hw, hi⟩ | ⟨number, hw, hi⟩ | ⟨n, call, -, hw, hi⟩
    · exact ⟨hi.ge, fun t ht _ => hw ▸ ht⟩
    · exact ⟨hi.ge, fun t ht _ => (mem_without.mp (hw ▸ ht)).1⟩
    · refine ⟨by omega, fun t ht hlt => ?_⟩
      rcases List.mem_append.mp (hw ▸ ht) with ht | ht
      · exact ht
      · rw [List.mem_singleton.mp ht] at hlt
        exact absurd hlt (lt_irrefl _)
  refine ⟨htickets.1, htickets.2, fun n m hm => ?_⟩
  rcases h.managers_cases with hms | ⟨n', m₁, m₁', hm₁, hlater, hms⟩ | ⟨m₁, hms⟩
  · exact ⟨m, hms ▸ hm, .refl m⟩
  · rw [hms]
    exact exists_later_of_set hm₁ hlater hm
  · obtain ⟨hlt, -⟩ := List.getElem?_eq_some_iff.mp hm
    refine ⟨m, ?_, .refl m⟩
    rw [hms, List.getElem?_append_left hlt]
    exact hm

/-- A call that now waits was sent by its manager in the epoch that this is in, and an exchange for
a callback. -/
theorem Turn.sent_by {t : Ticket} (h : o.Turn e a (.waits t) o') :
    ∃ m, o'.managers[t.manager]? = some m ∧ t.call.epoch = m.epoch ∧
      ∀ q, t.call = .exchange q → ∃ callback, a = .startExchange t.manager callback := by
  generalize hanswer : Answer.waits t = answer at h
  cases h with
  | started hm =>
    cases hanswer
    obtain ⟨hn, -⟩ := List.getElem?_eq_some_iff.mp hm
    exact ⟨_, List.getElem?_set_self hn, rfl, fun _ _ => ⟨_, rfl⟩⟩
  | sent hm =>
    cases hanswer
    refine ⟨_, hm, rfl, fun q hcall => ?_⟩
    cases hcall
  | @recorded number n m =>
    cases hpending : m.phase.isPending <;> simp [hpending] at hanswer
  | @answered number n m p received =>
    cases hr : Gateway.interpret received <;> simp [hr, Answer.ofFetch] at hanswer
  | restored | orphaned | resumed | login | refused | superseded | failed | tokenless | unsent
  | rejected | late | dropped | loggedOut | absent | lost | unknown => cases hanswer

/-- Waiting calls were sent by managers in epochs that these have come to. -/
def Dated (o : OpenManagers Entries) : Prop :=
  ∀ t ∈ o.waiting, ∃ m, o.managers[t.manager]? = some m ∧ t.call.epoch ≤ m.epoch

theorem dated_closed (st : Entries) : (closed st).Dated :=
  fun _ ht => absurd ht List.not_mem_nil

theorem Dated.later (ho : o.Dated) (h : o.Later o') {t : Ticket} (ht : t ∈ o.waiting) :
    ∃ m, o'.managers[t.manager]? = some m ∧ t.call.epoch ≤ m.epoch := by
  obtain ⟨m, hm, hle⟩ := ho t ht
  obtain ⟨m', hm', hlater⟩ := h.manager t.manager m hm
  exact ⟨m', hm', hle.trans hlater.epoch_le⟩

theorem Turn.dated (h : o.Turn e a answer o') (ho : o.Dated) : o'.Dated := by
  intro t ht
  rcases h.waiting_cases with ⟨hw, -⟩ | ⟨number, hw, -⟩ | ⟨n, call, hanswer, hw, -⟩
  · exact ho.later h.later (hw ▸ ht)
  · exact ho.later h.later (mem_without.mp (hw ▸ ht)).1
  · rcases List.mem_append.mp (hw ▸ ht) with ht | ht
    · exact ho.later h.later ht
    · rw [List.mem_singleton.mp ht]
      obtain ⟨m, hm, hepoch, -⟩ := (hanswer ▸ h).sent_by
      exact ⟨m, hm, hepoch.le⟩

theorem reach_of_turn {σ : Type} {P : OpenManagers Entries → Prop} (p : Platform σ)
    (hturn : ∀ {o o' a answer}, o.Turn p.endpoints a answer o' → P o → P o') (ho : P o)
    (acts : List Act) : P (reach (fun o a => o.step p.inMemory a) o acts) := by
  induction acts generalizing o with
  | nil => exact ho
  | cons a acts ih => exact ih (hturn (turn_step p a) ho)

theorem numbered_reach {σ : Type} (p : Platform σ) (ho : o.Numbered) (acts : List Act) :
    (reach (fun o a => o.step p.inMemory a) o acts).Numbered :=
  reach_of_turn p (fun h => h.numbered) ho acts

theorem dated_reach {σ : Type} (p : Platform σ) (ho : o.Dated) (acts : List Act) :
    (reach (fun o a => o.step p.inMemory a) o acts).Dated :=
  reach_of_turn p (fun h => h.dated) ho acts

theorem later_reach {σ : Type} (p : Platform σ) (o : OpenManagers Entries) (acts : List Act) :
    o.Later (reach (fun o a => o.step p.inMemory a) o acts) :=
  reach_of_turn p (fun h hlater => hlater.trans h.later) (.refl o) acts

end OpenManagers

end SignIn
