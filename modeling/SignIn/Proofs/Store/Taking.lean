import Mathlib.Data.List.Induction
import Mathlib.Tactic.ByContra
import SignIn.Proofs.Store.Faltering
import SignIn.Store.Rivals

/-!
# Taking a value in two steps among rivals

Callers that take the value of a key in two steps share the key with callers that set it. What a
taker reads may be gone, and another value there, when it removes; the removal only tells that it
found one. So a value goes to one taker at most, and every taker that is given a value has removed
that very one, exactly if no value is set between the two steps of a taker that is given one.
-/

namespace SignIn

variable {σ : Type}

/-! ## Stores whose calls go undivided -/

/-- Each call that sets, reads or removes a key goes undivided: it goes as on a map from keys to
values, or fails and changes nothing. -/
structure Storage.Atomic (s : Storage σ) (k : String) (Keeps : σ → Option String → Prop) :
    Prop where
  unique {st : σ} {a b : Option String} : Keeps st a → Keeps st b → a = b
  set (v : String) (a : Option String) :
    Ends Keeps (s.set k v) a (fun _ b => b = some v) fun _ b => b = a
  get (a : Option String) : Ends Keeps (s.get k) a (fun v b => v = a ∧ b = a) fun _ b => b = a
  remove (a : Option String) :
    Ends Keeps (s.remove k) a (fun found b => found = a.isSome ∧ b = none) fun _ b => b = a

def KeepsValue (Holds : σ → Entries → Prop) (k : String) (st : σ) (a : Option String) : Prop :=
  ∃ e, Holds st e ∧ e.get? k = a

theorem ends_keepsValue {α : Type} {Holds : σ → Entries → Prop} {k : String} {x : Access σ α}
    {y : Access Entries α} (hxy : Mirrors Holds x y) {a : Option String}
    {Q : α → Option String → Prop}
    (h : ∀ e : Entries, e.get? k = a → ∃ v e', y e = (.ok v, e') ∧ Q v (e'.get? k))
    {E : StoreFault → Option String → Prop} : Ends (KeepsValue Holds k) x a Q E := by
  rintro st ⟨e, hst, he⟩
  obtain ⟨v, e', hy, hQ⟩ := h e he
  obtain ⟨hanswer, hholds⟩ := hxy st e hst
  rw [hy] at hanswer hholds
  refine ⟨e'.get? k, ⟨e', hholds, rfl⟩, ?_⟩
  rw [hanswer]
  exact hQ

theorem Storage.Reliable.atomic {s : Storage σ} {Holds : σ → Entries → Prop}
    (hs : s.Reliable Holds) (k : String) : s.Atomic k (KeepsValue Holds k) where
  unique := by
    rintro st _ _ ⟨e, he, rfl⟩ ⟨e', he', rfl⟩
    obtain ⟨hget, -⟩ := hs.get k st e he
    obtain ⟨hget', -⟩ := hs.get k st e' he'
    exact Except.ok.inj (hget.symm.trans hget')
  set v a := ends_keepsValue (hs.set k v) fun e _ => ⟨(), e.set k v, rfl, by simp⟩
  get a := ends_keepsValue (hs.get k) fun e he => ⟨a, e, by rw [← he]; rfl, rfl, he⟩
  remove a := ends_keepsValue (hs.remove k) fun e he =>
    ⟨a.isSome, e.erase k, by rw [← he]; rfl, rfl, by simp⟩

theorem Storage.Atomic.guarded {τ : Type} {s : Storage σ} {k : String}
    {Keeps : σ → Option String → Prop} (hs : s.Atomic k Keeps)
    (plan : τ → Call → String → Bool × τ) :
    (s.guarded plan).Atomic k fun st a => Keeps st.1 a where
  unique := hs.unique
  set v a := ends_guardCall plan .set k (hs.set v a)
  get a := ends_guardCall plan .get k (hs.get a)
  remove a := ends_guardCall plan .remove k (hs.remove a)

/-! ## One call of one caller -/

namespace Calls

/-- What a taker has still to do that has read a value. -/
def holding (k v : String) : Calls (Option String) :=
  remove k fun found => if found then pure (some v) else pure none

def reading (k : String) (v : Option String) : Calls (Option String) :=
  v.elim (pure none) (holding k)

theorem calls_take (k : String) : KeyTask.take.calls k = get k (reading k) := by
  apply congrArg (get k)
  funext v
  cases v <;> rfl

/-- How far a caller has come with its task. -/
inductive Stage (k : String) : KeyTask → Calls (Option String) → Prop where
  | fresh (task : KeyTask) : Stage k task (task.calls k)
  | holding (v : String) : Stage k .take (holding k v)
  | ended (task : KeyTask) (answer : Except StoreFault (Option String)) :
      Stage k task (ended answer)

/-- All that one call of a caller can do with the value of the key. -/
inductive Moves (k : String) : KeyTask → Option String → Calls (Option String) →
    Option String → Calls (Option String) → Prop where
  | rests {task a answer} : Moves k task a (ended answer) a (ended answer)
  | fails {task a fault} : Moves k task a (task.calls k) a (ended (.error fault))
  | finds {v} : Moves k .take (some v) (KeyTask.take.calls k) (some v) (holding k v)
  | misses : Moves k .take none (KeyTask.take.calls k) none (ended (.ok none))
  | unremoved {a v fault} : Moves k .take a (holding k v) a (ended (.error fault))
  | removes {v w} : Moves k .take (some w) (holding k v) none (ended (.ok (some v)))
  | loses {v} : Moves k .take none (holding k v) none (ended (.ok none))
  | sets {a v} : Moves k (.set v) a ((KeyTask.set v).calls k) (some v) (ended (.ok none))

theorem Moves.stage {k : String} {task : KeyTask} {a b : Option String}
    {c c' : Calls (Option String)} (h : Moves k task a c b c') : Stage k task c' := by
  cases h with
  | finds => exact .holding _
  | _ => exact .ended _ _

theorem calls_ne_ended {k : String} {task : KeyTask} {answer : Except StoreFault (Option String)} :
    task.calls k ≠ ended answer := by
  intro h
  cases task <;> cases h

theorem calls_ne_holding {k v : String} {task : KeyTask} : task.calls k ≠ holding k v := by
  intro h
  cases task <;> cases h

theorem holding_injective {k v w : String} (h : holding k v = holding k w) : v = w := by
  have hfound := congrFun (Calls.remove.inj h).2 true
  exact Option.some.inj (Except.ok.inj (Calls.ended.inj hfound))

theorem Moves.of_calls {k : String} {task : KeyTask} {a b : Option String}
    {c' : Calls (Option String)} (h : Moves k task a (task.calls k) b c') :
    (∃ v, a = some v ∧ c' = holding k v) ∨
      ∃ answer, c' = ended answer ∧ ∀ v, answer ≠ .ok (some v) := by
  generalize hcalls : task.calls k = c at h
  cases h with
  | rests => exact absurd hcalls calls_ne_ended
  | finds => exact .inl ⟨_, rfl, rfl⟩
  | unremoved => exact absurd hcalls calls_ne_holding
  | removes => exact absurd hcalls calls_ne_holding
  | loses => exact absurd hcalls calls_ne_holding
  | fails => exact .inr ⟨_, rfl, fun v hv => by cases hv⟩
  | misses => exact .inr ⟨_, rfl, fun v hv => by cases hv⟩
  | sets => exact .inr ⟨_, rfl, fun v hv => by cases hv⟩

theorem Moves.of_ended {k : String} {task : KeyTask} {a b : Option String}
    {answer : Except StoreFault (Option String)} {c' : Calls (Option String)}
    (h : Moves k task a (ended answer) b c') : c' = ended answer := by
  generalize hcalls : ended answer = c at h
  cases h with
  | rests => rfl
  | fails => exact absurd hcalls.symm calls_ne_ended
  | _ => cases hcalls

theorem Moves.of_holding {k v : String} {task : KeyTask} {a b : Option String}
    {c' : Calls (Option String)} (h : Moves k task a (holding k v) b c') :
    ∃ answer, c' = ended answer := by
  generalize hcalls : holding k v = c at h
  cases h with
  | finds => exact absurd hcalls.symm calls_ne_holding
  | _ => exact ⟨_, rfl⟩

/-- Who is given a value by a call has read it, and the call removed one. -/
theorem Moves.of_given {k v : String} {task : KeyTask} {a b : Option String}
    {c : Calls (Option String)} (h : Moves k task a c b (ended (.ok (some v)))) :
    c = ended (.ok (some v)) ∨ (c = holding k v ∧ b = none ∧ ∃ w, a = some w) := by
  cases h with
  | rests => exact .inl rfl
  | removes => exact .inr ⟨rfl, rfl, _, rfl⟩

variable {s : Storage σ} {k : String} {Keeps : σ → Option String → Prop}

theorem exists_after {α β : Type} {x : Access σ β} {a : Option String}
    {Q : β → Option String → Prop} (hx : Ends Keeps x a Q fun _ b => b = a) {st : σ}
    (hst : Keeps st a) (next : β → Calls α) :
    (∃ v b, Q v b ∧ (after next (x st)).1 = next v ∧ Keeps (after next (x st)).2 b) ∨
    ∃ fault, (after next (x st)).1 = ended (.error fault) ∧ Keeps (after next (x st)).2 a := by
  obtain ⟨b, hb, hend⟩ := hx st hst
  generalize x st = r at hb hend
  obtain ⟨answer, st'⟩ := r
  cases answer with
  | ok v => exact .inl ⟨v, b, hend, rfl, hb⟩
  | error fault =>
    have hend : b = a := hend
    subst hend
    exact .inr ⟨fault, rfl, hb⟩

theorem exists_moves (hs : s.Atomic k Keeps) {task : KeyTask} {c : Calls (Option String)}
    (hc : Stage k task c) {st : σ} {a : Option String} (ha : Keeps st a) :
    ∃ b, Moves k task a c b (c.step s st).1 ∧ Keeps (c.step s st).2 b := by
  cases hc with
  | fresh =>
    cases task with
    | take =>
      have hstep : (KeyTask.take.calls k).step s st = after (reading k) (s.get k st) := by
        rw [calls_take, step]
      rw [hstep]
      obtain ⟨v, b, ⟨rfl, rfl⟩, hcall, hb⟩ | ⟨fault, hcall, hb⟩ :=
        exists_after (hs.get a) ha (reading k)
      · refine ⟨b, ?_, hb⟩
        cases b with
        | none => exact hcall ▸ .misses
        | some v => exact hcall ▸ .finds
      · exact ⟨a, hcall ▸ .fails, hb⟩
    | set v =>
      obtain ⟨_, b, rfl, hcall, hb⟩ | ⟨fault, hcall, hb⟩ := exists_after (hs.set v a) ha
        fun _ : Unit => (pure none : Calls (Option String))
      · exact ⟨some v, hcall ▸ .sets, hb⟩
      · exact ⟨a, hcall ▸ .fails, hb⟩
  | holding v =>
    obtain ⟨found, b, ⟨hfound, rfl⟩, hcall, hb⟩ | ⟨fault, hcall, hb⟩ :=
      exists_after (hs.remove a) ha
      fun found => if found then (pure (some v) : Calls (Option String)) else pure none
    · refine ⟨none, ?_, hb⟩
      subst hfound
      cases a with
      | none => exact hcall ▸ .loses
      | some w => exact hcall ▸ .removes
    · exact ⟨a, hcall ▸ .unremoved, hb⟩
  | ended answer => exact ⟨a, .rests, ha⟩

end Calls

/-! ## Runs -/

namespace Rivals

section Turns

variable (s : Storage σ) (r : Rivals σ)

@[simp] theorem run_nil : r.run s [] = r := rfl

theorem run_cons (i : Nat) (turns : List Nat) :
    r.run s (i :: turns) = (r.turn s i).run s turns := rfl

theorem run_append (turns turns' : List Nat) :
    r.run s (turns ++ turns') = (r.run s turns).run s turns' :=
  List.foldl_append

theorem run_concat (turns : List Nat) (i : Nat) :
    r.run s (turns ++ [i]) = (r.run s turns).turn s i := by
  rw [run_append]
  rfl

theorem turn_of_none {i : Nat} (h : r.callers[i]? = none) : r.turn s i = r := by
  unfold turn
  rw [h]

theorem store_turn {i : Nat} {c : Calls (Option String)} (h : r.callers[i]? = some c) :
    (r.turn s i).store = (c.step s r.store).2 := by
  unfold turn
  rw [h]

theorem callers_turn {i : Nat} {c : Calls (Option String)} (h : r.callers[i]? = some c) :
    (r.turn s i).callers = r.callers.set i (c.step s r.store).1 := by
  unfold turn
  rw [h]

theorem callers_turn_self {i : Nat} {c : Calls (Option String)} (h : r.callers[i]? = some c) :
    (r.turn s i).callers[i]? = some (c.step s r.store).1 := by
  rw [callers_turn s r h, List.getElem?_set_self (List.getElem?_eq_some_iff.mp h).1]

theorem callers_turn_of_ne {i j : Nat} (h : i ≠ j) :
    (r.turn s i).callers[j]? = r.callers[j]? := by
  cases hc : r.callers[i]? with
  | none => rw [turn_of_none s r hc]
  | some c => rw [callers_turn s r hc, List.getElem?_set_ne h]

theorem callers_run_of_notMem {j : Nat} {turns : List Nat} (h : j ∉ turns) :
    (r.run s turns).callers[j]? = r.callers[j]? := by
  induction turns using List.reverseRecOn with
  | nil => rfl
  | append_singleton turns i ih =>
    rw [List.mem_append, List.mem_singleton, not_or] at h
    rw [run_concat, callers_turn_of_ne s _ (Ne.symm h.2), ih h.1]

theorem callers_run_of_none {j : Nat} (turns : List Nat) (h : r.callers[j]? = none) :
    (r.run s turns).callers[j]? = none := by
  induction turns using List.reverseRecOn with
  | nil => exact h
  | append_singleton turns i ih =>
    rw [run_concat]
    rcases eq_or_ne i j with rfl | hij
    · rw [turn_of_none s _ ih]
      exact ih
    · rw [callers_turn_of_ne s _ hij]
      exact ih

variable {s r}

theorem answer?_eq_some_iff {i : Nat} {answer : Except StoreFault (Option String)} :
    r.answer? i = some answer ↔ r.callers[i]? = some (.ended answer) := by
  unfold answer?
  split
  · rename_i answer' h
    rw [h]
    simp
  · rename_i h
    constructor
    · intro hnone
      cases hnone
    · intro hended
      exact absurd hended (h answer)

theorem given?_eq_some_iff {i : Nat} {v : String} :
    r.given? i = some v ↔ r.answer? i = some (.ok (some v)) := by
  unfold given?
  cases h : r.answer? i with
  | none => simp
  | some answer => cases answer <;> simp

theorem answer?_turn {i j : Nat} {answer : Except StoreFault (Option String)}
    (h : r.answer? j = some answer) : (r.turn s i).answer? j = some answer := by
  rw [answer?_eq_some_iff] at h ⊢
  by_cases hij : i = j
  · subst hij
    exact callers_turn_self s r h
  · rw [callers_turn_of_ne s r hij]
    exact h

theorem answer?_run {j : Nat} {answer : Except StoreFault (Option String)}
    (h : r.answer? j = some answer) (turns : List Nat) :
    (r.run s turns).answer? j = some answer := by
  induction turns using List.reverseRecOn with
  | nil => exact h
  | append_singleton turns i ih =>
    rw [run_concat]
    exact answer?_turn ih

theorem answer?_eq_none_of_run {j : Nat} {turns : List Nat}
    (h : (r.run s turns).answer? j = none) : r.answer? j = none := by
  cases hr : r.answer? j with
  | none => rfl
  | some answer =>
    rw [answer?_run hr] at h
    cases h

theorem exists_turn_of_answer? {j : Nat} {answer : Except StoreFault (Option String)}
    {turns : List Nat} (hbefore : r.answer? j = none)
    (hafter : (r.run s turns).answer? j = some answer) :
    ∃ before after, turns = before ++ j :: after ∧ (r.run s before).answer? j = none ∧
      (r.run s (before ++ [j])).answer? j = some answer := by
  induction turns using List.reverseRecOn with
  | nil =>
    rw [run_nil, hbefore] at hafter
    cases hafter
  | append_singleton turns i ih =>
    cases hturns : (r.run s turns).answer? j with
    | none =>
      have hij : i = j := by
        by_contra hij
        rw [run_concat, answer?_eq_some_iff, callers_turn_of_ne s _ hij,
          ← answer?_eq_some_iff, hturns] at hafter
        cases hafter
      subst hij
      exact ⟨turns, [], rfl, hturns, hafter⟩
    | some answer' =>
      have hsame : (r.run s (turns ++ [i])).answer? j = some answer' := by
        rw [run_concat]
        exact answer?_turn hturns
      rw [hafter] at hsame
      cases hsame
      obtain ⟨before, after, rfl, hnone, hsome⟩ := ih hturns
      exact ⟨before, after ++ [i], by simp, hnone, hsome⟩

end Turns

/-! ## What the key comes to -/

/-- Each value is brought once, by the store or by one task. -/
def Distinct (tasks : List KeyTask) (a : Option String) : Prop :=
  (a.toList ++ tasks.filterMap KeyTask.value?).Nodup

instance (tasks : List KeyTask) (a : Option String) : Decidable (Distinct tasks a) :=
  inferInstanceAs (Decidable (List.Nodup _))

section Key

variable {s : Storage σ} {k : String} {Keeps : σ → Option String → Prop} {tasks : List KeyTask}
  {st : σ} {a : Option String}

theorem Distinct.index_unique (h : Distinct tasks a) {i j : Nat} {v : String}
    (hi : tasks[i]? = some (.set v)) (hj : tasks[j]? = some (.set v)) : i = j := by
  have hpairwise := List.pairwise_filterMap.mp (List.nodup_append.mp h).2.1
  rw [List.pairwise_iff_getElem] at hpairwise
  obtain ⟨hli, hi⟩ := List.getElem?_eq_some_iff.mp hi
  obtain ⟨hlj, hj⟩ := List.getElem?_eq_some_iff.mp hj
  rcases Nat.lt_trichotomy i j with hij | hij | hij
  · exact absurd rfl (hpairwise i j hli hlj hij v (by rw [hi]; rfl) v (by rw [hj]; rfl))
  · exact hij
  · exact absurd rfl (hpairwise j i hlj hli hij v (by rw [hj]; rfl) v (by rw [hi]; rfl))

theorem Distinct.ne_kept (h : Distinct tasks a) {j : Nat} {v : String}
    (hj : tasks[j]? = some (.set v)) : a ≠ some v := by
  rintro rfl
  have hmem : v ∈ tasks.filterMap KeyTask.value? :=
    List.mem_filterMap.mpr ⟨.set v, List.mem_of_getElem? hj, rfl⟩
  exact (List.nodup_append.mp h).2.2 v (List.mem_singleton_self v) v hmem rfl

end Key

section Start

variable (k : String) (tasks : List KeyTask) (st : σ) (i : Nat)

/-- A taker whom nobody disturbs takes the value as a storage of the same calls does. -/
theorem run_take_alone (s : Storage σ) :
    (start k [.take] st).run s [0, 0] =
      ⟨((Storage.takeInSteps s.get s.remove k : Access σ (Option String)) st).2,
        [.ended ((Storage.takeInSteps s.get s.remove k : Access σ (Option String)) st).1]⟩ := by
  have hturn : ∀ (c : Calls (Option String)) (st : σ),
      turn s ⟨st, [c]⟩ 0 = ⟨(c.step s st).2, [(c.step s st).1]⟩ := fun _ _ => rfl
  have hfirst : (KeyTask.take.calls k).step s st =
      Calls.after (Calls.reading k) (s.get k st) := by
    rw [Calls.calls_take, Calls.step]
  rw [run_cons, run_cons, run_nil]
  change ((⟨st, [KeyTask.take.calls k]⟩ : Rivals σ).turn s 0).turn s 0 = _
  rw [hturn, hturn, hfirst]
  unfold Storage.takeInSteps
  rw [bind_apply]
  rcases s.get k st with ⟨fault | _ | v, st'⟩
  · rfl
  · rfl
  · dsimp only
    rw [bind_apply]
    change (⟨(Calls.after _ (s.remove k st')).2,
      [(Calls.after _ (s.remove k st')).1]⟩ : Rivals σ) = _
    rcases s.remove k st' with ⟨fault | _ | _, st''⟩ <;> rfl

theorem callers_start : (start k tasks st).callers[i]? = tasks[i]?.map (·.calls k) :=
  List.getElem?_map

theorem answer?_start : (start k tasks st).answer? i = none := by
  unfold answer?
  rw [callers_start]
  rcases tasks[i]? with _ | _ | v <;> rfl

end Start

/-- Every caller is somewhere in its task, and the key has a value or none. -/
structure Staged (k : String) (Keeps : σ → Option String → Prop) (tasks : List KeyTask)
    (r : Rivals σ) : Prop where
  keeps : ∃ a, Keeps r.store a
  stage {i : Nat} {c : Calls (Option String)} (h : r.callers[i]? = some c) :
    ∃ task, tasks[i]? = some task ∧ Calls.Stage k task c

def Sets (tasks : List KeyTask) (r r' : Rivals σ) (v : String) : Prop :=
  ∃ j : Nat, tasks[j]? = some (.set v) ∧ r.answer? j = none ∧ r'.answer? j = some (.ok none)

section Staged

variable {s : Storage σ} {k : String} {Keeps : σ → Option String → Prop} {tasks : List KeyTask}
  {st : σ} {a : Option String} {r : Rivals σ}

theorem staged_start (ha : Keeps st a) : Staged k Keeps tasks (start k tasks st) where
  keeps := ⟨a, ha⟩
  stage {i c} h := by
    rw [callers_start] at h
    obtain ⟨task, htask, rfl⟩ := Option.map_eq_some_iff.mp h
    exact ⟨task, htask, .fresh task⟩

namespace Staged

variable (hs : s.Atomic k Keeps) (h : Staged k Keeps tasks r)
include hs h

theorem moves {i : Nat} {c : Calls (Option String)} (hc : r.callers[i]? = some c)
    {b : Option String} (hb : Keeps r.store b) :
    ∃ task b', tasks[i]? = some task ∧ Calls.Moves k task b c b' (c.step s r.store).1 ∧
      Keeps (r.turn s i).store b' := by
  obtain ⟨task, htask, hstage⟩ := h.stage hc
  obtain ⟨b', hmoves, hb'⟩ := Calls.exists_moves hs hstage hb
  rw [← store_turn s r hc] at hb'
  exact ⟨task, b', htask, hmoves, hb'⟩

theorem turn (i : Nat) : Staged k Keeps tasks (r.turn s i) := by
  cases hc : r.callers[i]? with
  | none =>
    rw [turn_of_none s r hc]
    exact h
  | some c =>
    obtain ⟨b, hb⟩ := h.keeps
    obtain ⟨task, b', htask, hmoves, hb'⟩ := h.moves hs hc hb
    refine ⟨⟨b', hb'⟩, fun {j c'} hc' => ?_⟩
    by_cases hij : i = j
    · subst hij
      rw [callers_turn_self s r hc] at hc'
      cases hc'
      exact ⟨task, htask, hmoves.stage⟩
    · rw [callers_turn_of_ne s r hij] at hc'
      exact h.stage hc'

theorem run (turns : List Nat) : Staged k Keeps tasks (r.run s turns) := by
  induction turns using List.reverseRecOn with
  | nil => exact h
  | append_singleton turns i ih =>
    rw [run_concat]
    exact ih.turn hs i

/-- After a turn the key has the value that it had, or none, or the one that the turn sets. -/
theorem keeps_turn {i : Nat} {w : String} (hw : Keeps (r.turn s i).store (some w)) :
    Keeps r.store (some w) ∨ Sets tasks r (r.turn s i) w := by
  cases hc : r.callers[i]? with
  | none =>
    rw [turn_of_none s r hc] at hw
    exact .inl hw
  | some c =>
    obtain ⟨b, hb⟩ := h.keeps
    obtain ⟨task, b', htask, hmoves, hb'⟩ := h.moves hs hc hb
    cases hs.unique hw hb'
    have hc' := callers_turn_self s r hc
    generalize (c.step s r.store).1 = c' at hmoves hc'
    cases hmoves with
    | sets =>
      refine .inr ⟨i, htask, ?_, answer?_eq_some_iff.mpr hc'⟩
      unfold answer?
      rw [hc]
      rfl
    | _ => exact .inl hb

theorem keeps_run {turns : List Nat} {w : String} (hw : Keeps (r.run s turns).store (some w)) :
    Keeps r.store (some w) ∨ Sets tasks r (r.run s turns) w := by
  induction turns using List.reverseRecOn generalizing w with
  | nil => exact .inl hw
  | append_singleton turns i ih =>
    rw [run_concat] at hw ⊢
    obtain hkept | ⟨j, hj, hnone, hsome⟩ := (h.run hs turns).keeps_turn hs hw
    · obtain hkept | ⟨j, hj, hnone, hsome⟩ := ih hkept
      · exact .inl hkept
      · exact .inr ⟨j, hj, hnone, answer?_turn hsome⟩
    · exact .inr ⟨j, hj, answer?_eq_none_of_run hnone, hsome⟩

theorem keeps_of_set {j : Nat} {u : String} (hj : tasks[j]? = some (.set u))
    (hnone : r.answer? j = none) (hsome : (r.turn s j).answer? j = some (.ok none)) :
    Keeps (r.turn s j).store (some u) := by
  cases hc : r.callers[j]? with
  | none =>
    rw [turn_of_none s r hc, hnone] at hsome
    cases hsome
  | some c =>
    obtain ⟨b, hb⟩ := h.keeps
    obtain ⟨task, b', htask, hmoves, hb'⟩ := h.moves hs hc hb
    rw [hj] at htask
    cases htask
    rw [answer?_eq_some_iff, callers_turn_self s r hc] at hsome
    rw [Option.some.inj hsome] at hmoves
    cases hmoves with
    | rests =>
      rw [answer?_eq_some_iff.mpr hc] at hnone
      cases hnone
    | sets => exact hb'

theorem sets_of_sets {turns : List Nat} {u w : String} (hu : Sets tasks r (r.run s turns) u)
    (hw : Keeps (r.run s turns).store (some w)) : Sets tasks r (r.run s turns) w := by
  obtain ⟨j, hj, hbefore, hafter⟩ := hu
  obtain ⟨before, after, rfl, hnone, hsome⟩ := exists_turn_of_answer? hbefore hafter
  have hstaged := h.run hs before
  have hset := hstaged.keeps_of_set hs hj hnone (run_concat s r before j ▸ hsome)
  rw [run_append, run_cons] at hw hafter ⊢
  obtain hkept | ⟨j', hj', hnone', hsome'⟩ := (hstaged.turn hs j).keeps_run hs hw
  · cases hs.unique hset hkept
    exact ⟨j, hj, hbefore, hafter⟩
  · rw [← run_concat] at hnone'
    exact ⟨j', hj', answer?_eq_none_of_run hnone', hsome'⟩

theorem two_turns {between : List Nat} {i : Nat} {task : KeyTask} (htask : tasks[i]? = some task)
    (hc : r.callers[i]? = some (task.calls k)) (hbetween : i ∉ between) :
    ∃ a a' b b' c c', Keeps r.store a ∧ Calls.Moves k task a (task.calls k) a' c ∧
      (r.run s (i :: between)).callers[i]? = some c ∧ Keeps (r.run s (i :: between)).store b ∧
      Calls.Moves k task b c b' c' ∧
      (r.run s (i :: (between ++ [i]))).callers[i]? = some c' ∧
      Keeps (r.run s (i :: (between ++ [i]))).store b' := by
  have hlast : r.run s (i :: (between ++ [i])) = (r.run s (i :: between)).turn s i :=
    run_concat s r (i :: between) i
  rw [hlast]
  obtain ⟨a, ha⟩ := h.keeps
  obtain ⟨task', a', htask', hfirst, -⟩ := h.moves hs hc ha
  cases htask.symm.trans htask'
  have hmiddle : (r.run s (i :: between)).callers[i]? = some ((task.calls k).step s r.store).1 := by
    rw [run_cons, callers_run_of_notMem _ _ hbetween]
    exact callers_turn_self s r hc
  have hstaged := h.run hs (i :: between)
  obtain ⟨b, hb⟩ := hstaged.keeps
  obtain ⟨task', b', htask', hsecond, hb'⟩ := hstaged.moves hs hmiddle hb
  cases htask.symm.trans htask'
  exact ⟨a, a', b, b', _, _, ha, hfirst, hmiddle, hb, hsecond, callers_turn_self s _ hmiddle, hb'⟩

/-- Who is given a value at its second turn has read it at its first one, and removed one. -/
theorem keeps_of_given {between : List Nat} {i : Nat} {v : String}
    (hfresh : r.callers[i]? = tasks[i]?.map (·.calls k)) (hbetween : i ∉ between)
    (hgiven : (r.run s (i :: (between ++ [i]))).given? i = some v) :
    Keeps r.store (some v) ∧ (r.run s (i :: between)).answer? i = none ∧
      (∃ w, Keeps (r.run s (i :: between)).store (some w)) ∧
      Keeps (r.run s (i :: (between ++ [i]))).store none := by
  rw [given?_eq_some_iff, answer?_eq_some_iff] at hgiven
  cases htask : tasks[i]? with
  | none =>
    rw [htask] at hfresh
    rw [callers_run_of_none s r _ hfresh] at hgiven
    cases hgiven
  | some task =>
    rw [htask] at hfresh
    obtain ⟨a, a', b, b', c, c', ha, hfirst, hmiddle, hb, hsecond, hlast, hb'⟩ :=
      h.two_turns hs htask hfresh hbetween
    rw [Option.some.inj (hlast.symm.trans hgiven)] at hsecond
    obtain rfl | ⟨rfl, rfl, w, rfl⟩ := hsecond.of_given
    · obtain ⟨_, -, hcall⟩ | ⟨answer, hcall, hanswer⟩ := hfirst.of_calls
      · cases hcall
      · cases hcall
        exact absurd rfl (hanswer v)
    · obtain ⟨v', rfl, hcall⟩ | ⟨answer, hcall, -⟩ := hfirst.of_calls
      · cases Calls.holding_injective hcall
        refine ⟨ha, ?_, ⟨w, hb⟩, hb'⟩
        unfold answer?
        rw [hmiddle]
        rfl
      · cases hcall

theorem answer?_ne_none_of_two_turns {between : List Nat} {i : Nat} {task : KeyTask}
    (htask : tasks[i]? = some task) (hc : r.callers[i]? = some (task.calls k))
    (hbetween : i ∉ between) : (r.run s (i :: (between ++ [i]))).answer? i ≠ none := by
  obtain ⟨a, a', b, b', c, c', -, hfirst, -, -, hsecond, hlast, -⟩ :=
    h.two_turns hs htask hc hbetween
  intro hnone
  obtain ⟨answer, rfl⟩ : ∃ answer, c' = .ended answer := by
    obtain ⟨v, -, rfl⟩ | ⟨answer, rfl, -⟩ := hfirst.of_calls
    · exact hsecond.of_holding
    · exact ⟨answer, hsecond.of_ended⟩
  rw [answer?_eq_some_iff.mpr hlast] at hnone
  cases hnone

end Staged

variable (hs : s.Atomic k Keeps) (ha : Keeps st a)
include hs ha

theorem exists_two_turns {turns : List Nat} {i : Nat} {v : String}
    (hnone : ((start k tasks st).run s turns).answer? i = none)
    (hgiven : ((start k tasks st).run s (turns ++ [i])).given? i = some v) :
    ∃ before between, turns = before ++ i :: between ∧ i ∉ before ∧ i ∉ between := by
  have hstart : Staged k Keeps tasks (start k tasks st) := staged_start ha
  have hfresh : ∀ {turns : List Nat}, i ∉ turns →
      ((start k tasks st).run s turns).callers[i]? = tasks[i]?.map (·.calls k) := by
    intro turns hi
    rw [callers_run_of_notMem _ _ hi, callers_start]
  cases htask : tasks[i]? with
  | none =>
    have hcall := callers_start k tasks st i
    rw [htask] at hcall
    rw [given?_eq_some_iff, answer?_eq_some_iff, callers_run_of_none s _ _ hcall] at hgiven
    cases hgiven
  | some task =>
    rw [htask] at hfresh
    have hturn : i ∈ turns := by
      by_contra hi
      have hstaged := hstart.run hs turns
      obtain ⟨b, hb⟩ := hstaged.keeps
      obtain ⟨task', b', -, hmoves, -⟩ := hstaged.moves hs (hfresh hi) hb
      rw [given?_eq_some_iff, answer?_eq_some_iff, run_concat,
        callers_turn_self s _ (hfresh hi)] at hgiven
      rw [Option.some.inj hgiven] at hmoves
      obtain hended | ⟨hholding, -⟩ := hmoves.of_given
      · exact Calls.calls_ne_ended hended
      · exact Calls.calls_ne_holding hholding
    obtain ⟨before, between, rfl, hbefore⟩ := List.eq_append_cons_of_mem hturn
    refine ⟨before, between, rfl, hbefore, fun hi => ?_⟩
    obtain ⟨mid, rest, rfl, hmid⟩ := List.eq_append_cons_of_mem hi
    have hturns : before ++ i :: (mid ++ i :: rest) = before ++ i :: (mid ++ [i]) ++ rest := by simp
    rw [hturns, run_append, run_append] at hnone
    exact (hstart.run hs before).answer?_ne_none_of_two_turns hs htask (hfresh hbefore) hmid
      (answer?_eq_none_of_run hnone)

theorem ne_of_keeps (hdistinct : Distinct tasks a) {turns : List Nat} {j : Nat} {v : String}
    (hv : Keeps ((start k tasks st).run s turns).store (some v)) (hj : tasks[j]? = some (.set v)) :
    ((start k tasks st).run s turns).answer? j ≠ none := by
  intro hnone
  obtain hkept | ⟨i, hi, -, hsome⟩ := (staged_start ha).keeps_run hs hv
  · exact hdistinct.ne_kept hj (hs.unique ha hkept)
  · rw [hdistinct.index_unique hj hi, hsome] at hnone
    cases hnone

omit hs ha

/-! ## Fairness -/

/-- A value goes to one caller at most, and a caller that is given a value removes that very one:
the key has it before the turn at which it is given, and none after it. -/
structure TakesFairly (s : Storage σ) (Keeps : σ → Option String → Prop) (r : Rivals σ)
    (turns : List Nat) : Prop where
  once {i j : Nat} {v : String} (hi : (r.run s turns).given? i = some v)
    (hj : (r.run s turns).given? j = some v) : i = j
  own {before after : List Nat} {i : Nat} {v : String} (hturns : turns = before ++ i :: after)
    (hbefore : (r.run s before).answer? i = none)
    (hgiven : (r.run s (before ++ [i])).given? i = some v) :
    Keeps (r.run s before).store (some v) ∧ Keeps (r.run s (before ++ [i])).store none

/-- A value is set between the two turns of a caller that is given one. -/
def Overtaken (s : Storage σ) (tasks : List KeyTask) (r : Rivals σ) (turns : List Nat) : Prop :=
  ∃ (before between after : List Nat) (i : Nat) (u v : String),
    turns = before ++ i :: (between ++ i :: after) ∧ i ∉ before ∧ i ∉ between ∧
    (r.run s (before ++ i :: (between ++ [i]))).given? i = some v ∧
    Sets tasks (r.run s before) (r.run s (before ++ i :: between)) u

section Fairness

variable (hs : s.Atomic k Keeps) (ha : Keeps st a)
include hs ha

/-- A caller that was overtaken removes another value than it is given. -/
theorem TakesFairly.not_overtaken (hdistinct : Distinct tasks a) {turns : List Nat}
    (h : (start k tasks st).TakesFairly s Keeps turns) :
    ¬ (start k tasks st).Overtaken s tasks turns := by
  rintro ⟨before, between, after, i, u, v, rfl, hbefore, hbetween, hgiven, hsets⟩
  have hstaged : Staged k Keeps tasks ((start k tasks st).run s before) :=
    (staged_start ha).run hs before
  have hfresh := (callers_run_of_notMem s (start k tasks st) hbefore).trans
    (callers_start k tasks st i)
  have hgiven' := hgiven
  rw [run_append] at hgiven' hsets
  obtain ⟨hread, hnone, ⟨w, hw⟩, -⟩ := hstaged.keeps_of_given hs hfresh hbetween hgiven'
  rw [← run_append] at hnone
  have hturns : before ++ i :: (between ++ i :: after) = before ++ i :: between ++ i :: after := by
    simp
  have hlast : before ++ i :: (between ++ [i]) = before ++ i :: between ++ [i] := by simp
  obtain ⟨hremoved, -⟩ := h.own hturns hnone (hlast ▸ hgiven)
  rw [run_append] at hremoved
  obtain ⟨j, hj, hpending, -⟩ := hstaged.sets_of_sets hs hsets hremoved
  exact ne_of_keeps hs ha hdistinct hread hj hpending

/-- Where no caller is overtaken, who is given a value removes that very one. -/
theorem own_of_not_overtaken {before after : List Nat} {i : Nat} {v : String}
    (h : ¬ (start k tasks st).Overtaken s tasks (before ++ i :: after))
    (hbefore : ((start k tasks st).run s before).answer? i = none)
    (hgiven : ((start k tasks st).run s (before ++ [i])).given? i = some v) :
    Keeps ((start k tasks st).run s before).store (some v) ∧
      Keeps ((start k tasks st).run s (before ++ [i])).store none := by
  obtain ⟨first, between, rfl, hfirst, hbetween⟩ := exists_two_turns hs ha hbefore hgiven
  have hstaged : Staged k Keeps tasks ((start k tasks st).run s first) :=
    (staged_start ha).run hs first
  have hfresh := (callers_run_of_notMem s (start k tasks st) hfirst).trans
    (callers_start k tasks st i)
  rw [List.append_assoc, List.cons_append] at hgiven h ⊢
  have hgiven' := hgiven
  rw [run_append] at hgiven'
  obtain ⟨hread, -, ⟨w, hw⟩, hnone⟩ := hstaged.keeps_of_given hs hfresh hbetween hgiven'
  rw [← run_append] at hnone
  refine ⟨?_, hnone⟩
  obtain hkept | hsets := hstaged.keeps_run hs hw
  · cases hs.unique hread hkept
    rw [run_append]
    exact hw
  · rw [← run_append] at hsets
    exact absurd ⟨first, between, after, i, w, v, rfl, hfirst, hbetween, hgiven, hsets⟩ h

variable (hdistinct : Distinct tasks a)
include hdistinct

/-- Of two callers, the later one is not given what the earlier one was. -/
theorem not_given_twice {before between after : List Nat} {i j : Nat} {v : String}
    (h : ¬ (start k tasks st).Overtaken s tasks (before ++ i :: (between ++ j :: after)))
    (hi : ((start k tasks st).run s before).answer? i = none)
    (hgiven : ((start k tasks st).run s (before ++ [i])).given? i = some v)
    (hj : ((start k tasks st).run s (before ++ i :: between)).answer? j = none)
    (hgiven' : ((start k tasks st).run s (before ++ i :: between ++ [j])).given? j = some v) :
    False := by
  obtain ⟨hread, hremoved⟩ := own_of_not_overtaken hs ha h hi hgiven
  have hturns : before ++ i :: (between ++ j :: after) = before ++ i :: between ++ j :: after := by
    simp
  rw [hturns] at h
  obtain ⟨hagain, -⟩ := own_of_not_overtaken hs ha h hj hgiven'
  have hbetween : before ++ i :: between = before ++ [i] ++ between := by simp
  rw [hbetween, run_append] at hagain
  obtain hkept | ⟨l, hl, hpending, -⟩ :=
    ((staged_start ha).run hs (before ++ [i])).keeps_run hs hagain
  · cases hs.unique hremoved hkept
  · rw [run_append] at hpending
    exact ne_of_keeps hs ha hdistinct hread hl (answer?_eq_none_of_run hpending)

/-- Whatever the callers are, and in whatever order their calls fall, a value goes to one caller at
most, and who is given one has removed that very one, exactly if no value is set between the two
turns of a caller that is given one. -/
theorem takes_fairly_iff (turns : List Nat) :
    (start k tasks st).TakesFairly s Keeps turns ↔
      ¬ (start k tasks st).Overtaken s tasks turns := by
  constructor
  · exact TakesFairly.not_overtaken hs ha hdistinct
  · intro h
    constructor
    · intro i j v hi hj
      have hend : ∀ {i : Nat}, ((start k tasks st).run s turns).given? i = some v →
          ∃ before after, turns = before ++ i :: after ∧
            ((start k tasks st).run s before).answer? i = none ∧
            ((start k tasks st).run s (before ++ [i])).given? i = some v := by
        intro i hi
        obtain ⟨before, after, hturns, hnone, hsome⟩ :=
          exists_turn_of_answer? (answer?_start k tasks st i) (given?_eq_some_iff.mp hi)
        exact ⟨before, after, hturns, hnone, given?_eq_some_iff.mpr hsome⟩
      obtain ⟨before, after, rfl, hnone, hgiven⟩ := hend hi
      obtain ⟨before', after', hturns, hnone', hgiven'⟩ := hend hj
      rcases List.append_eq_append_iff.mp hturns with ⟨between, rfl, hrest⟩ | ⟨between, rfl, hrest⟩
      · cases between with
        | nil => exact (List.cons.inj hrest).1
        | cons l between =>
          obtain ⟨rfl, rfl⟩ := List.cons.inj hrest
          exact (not_given_twice hs ha hdistinct h hnone hgiven hnone' hgiven').elim
      · cases between with
        | nil => exact (List.cons.inj hrest).1.symm
        | cons l between =>
          obtain ⟨rfl, rfl⟩ := List.cons.inj hrest
          rw [hturns] at h
          exact (not_given_twice hs ha hdistinct h hnone' hgiven' hnone hgiven).elim
    · rintro before after i v rfl hnone hgiven
      exact own_of_not_overtaken hs ha h hnone hgiven

end Fairness

end Staged

/-- A value is set, and two takers read it before one of them removes it: the other one goes
without. -/
theorem takes_fairly_of_set_before :
    let r := start "state" [.set "new", .take, .take] Entries.empty
    let turns := [0, 1, 2, 1, 2]
    r.TakesFairly Storage.plain (KeepsValue Eq "state") turns ∧
      (r.run Storage.plain turns).given? 1 = some "new" ∧
      (r.run Storage.plain turns).given? 2 = none := by
  intro r turns
  have hs := Storage.plain_reliable.atomic "state"
  have ha : KeepsValue Eq "state" Entries.empty none := ⟨_, rfl, rfl⟩
  refine ⟨(takes_fairly_iff hs ha (by decide) turns).mpr ?_, by decide, by decide⟩
  rintro ⟨before, between, after, i, u, v, hturns, -, -, -, j, hj, hnone, -⟩
  have hzero : j = 0 := by
    rcases j with _ | _ | _ | j
    · rfl
    all_goals cases hj
  subst hzero
  -- The value is set at the first turn of all, and its caller has no other one.
  cases before with
  | nil =>
    obtain ⟨rfl, hrest⟩ := List.cons.inj hturns
    have hmem : 0 ∈ between ++ 0 :: after := by simp
    rw [← hrest] at hmem
    revert hmem
    decide
  | cons l before =>
    obtain ⟨rfl, -⟩ := List.cons.inj hturns
    have hset : (r.run Storage.plain [0]).answer? 0 = some (.ok none) := by rfl
    have hlater : (r.run Storage.plain (0 :: before)).answer? 0 = some (.ok none) :=
      answer?_run hset before
    cases hlater.symm.trans hnone

/-- A taker reads a value, a second one takes it, and another value is set before the first one
removes: both are given the old value, and the new one is gone. -/
theorem not_takes_fairly_of_set_between :
    let r := start "state" [.take, .take, .set "new"] (Entries.empty.set "state" "old")
    let turns := [0, 1, 1, 2, 0]
    Distinct [.take, .take, .set "new"] (some "old") ∧
      (r.run Storage.plain turns).given? 0 = some "old" ∧
      (r.run Storage.plain turns).given? 1 = some "old" ∧
      (r.run Storage.plain turns).store.get? "state" = none ∧
      ¬ r.TakesFairly Storage.plain (KeepsValue Eq "state") turns := by
  intro r turns
  have hzero : (r.run Storage.plain turns).given? 0 = some "old" := by decide
  have hone : (r.run Storage.plain turns).given? 1 = some "old" := by decide
  refine ⟨by decide, hzero, hone, by decide, fun h => ?_⟩
  cases h.once hzero hone

end Rivals

end SignIn
