/-!
# Sorted key-value lists

A finite map from texts is kept as a list of pairs in the order of their keys, each key once.
Looking a key up after an insertion or a removal is described by `find?_insert` and
`find?_erase`, and two sorted lists that answer every look-up alike are equal.
-/

namespace SignIn.KeyValue

variable {α : Type}

def find? (k : String) : List (String × α) → Option α
  | [] => none
  | (k', v) :: rest => if k = k' then some v else find? k rest

/-- The list with a value put beside a key, in place of an earlier one. -/
def insert (k : String) (v : α) : List (String × α) → List (String × α)
  | [] => [(k, v)]
  | (k', v') :: rest =>
    if k < k' then (k, v) :: (k', v') :: rest
    else if k = k' then (k, v) :: rest
    else (k', v') :: insert k v rest

def erase (k : String) : List (String × α) → List (String × α)
  | [] => []
  | (k', v) :: rest => if k = k' then rest else (k', v) :: erase k rest

/-- The keys stand in increasing order. -/
def Sorted (l : List (String × α)) : Prop := l.Pairwise fun a b => a.1 < b.1

theorem find?_eq_none_of_forall_ne {k : String} {l : List (String × α)}
    (h : ∀ p ∈ l, k ≠ p.1) : find? k l = none := by
  induction l with
  | nil => rfl
  | cons p l ih =>
    obtain ⟨k', v⟩ := p
    have h1 : k ≠ k' := h (k', v) (by simp)
    simp only [find?, h1, if_false]
    exact ih fun q hq => h q (by simp [hq])

theorem find?_insert (k k' : String) (v : α) (l : List (String × α)) :
    find? k' (insert k v l) = if k' = k then some v else find? k' l := by
  induction l with
  | nil => simp [insert, find?]
  | cons p l ih =>
    obtain ⟨j, w⟩ := p
    simp only [insert]
    split
    · simp [find?]
    · split
      · rename_i h
        subst h
        by_cases hk : k' = k <;> simp [find?, hk]
      · rename_i h
        simp only [find?, ih]
        by_cases hj : k' = j
        · subst hj
          simp [Ne.symm h]
        · simp [hj]

theorem mem_insert {k : String} {v : α} {l : List (String × α)} {p : String × α}
    (h : p ∈ insert k v l) : p = (k, v) ∨ p ∈ l := by
  induction l with
  | nil => simpa [insert] using h
  | cons q l ih =>
    obtain ⟨j, w⟩ := q
    simp only [insert] at h
    split at h
    · simpa using h
    · split at h
      · rcases List.mem_cons.1 h with h | h
        · exact Or.inl h
        · exact Or.inr (by simp [h])
      · rcases List.mem_cons.1 h with h | h
        · exact Or.inr (by simp [h])
        · rcases ih h with h | h
          · exact Or.inl h
          · exact Or.inr (by simp [h])

theorem mem_of_mem_erase {k : String} {l : List (String × α)} {p : String × α}
    (h : p ∈ erase k l) : p ∈ l := by
  induction l with
  | nil => simp [erase] at h
  | cons q l ih =>
    obtain ⟨j, w⟩ := q
    simp only [erase] at h
    split at h
    · simp [h]
    · rcases List.mem_cons.1 h with h | h
      · simp [h]
      · simp [ih h]

theorem sorted_insert {k : String} {v : α} {l : List (String × α)} (h : Sorted l) :
    Sorted (insert k v l) := by
  induction l with
  | nil => simp [insert, Sorted]
  | cons q l ih =>
    obtain ⟨j, w⟩ := q
    obtain ⟨h1, h2⟩ := List.pairwise_cons.1 h
    simp only [insert]
    split
    · rename_i hk
      refine List.pairwise_cons.2 ⟨?_, h⟩
      intro p hp
      rcases List.mem_cons.1 hp with hp | hp
      · subst hp
        exact hk
      · exact String.lt_trans hk (h1 p hp)
    · split
      · rename_i hk
        subst hk
        exact List.pairwise_cons.2 ⟨h1, h2⟩
      · rename_i hk hne
        refine List.pairwise_cons.2 ⟨?_, ih h2⟩
        intro p hp
        rcases mem_insert hp with hp | hp
        · subst hp
          exact Std.lt_of_le_of_ne (String.not_lt.1 hk) (Ne.symm hne)
        · exact h1 p hp

theorem sorted_erase {k : String} {l : List (String × α)} (h : Sorted l) :
    Sorted (erase k l) := by
  induction l with
  | nil => exact h
  | cons q l ih =>
    obtain ⟨j, w⟩ := q
    obtain ⟨h1, h2⟩ := List.pairwise_cons.1 h
    simp only [erase]
    split
    · exact h2
    · exact List.pairwise_cons.2 ⟨fun p hp => h1 p (mem_of_mem_erase hp), ih h2⟩

theorem find?_erase {k k' : String} {l : List (String × α)} (h : Sorted l) :
    find? k' (erase k l) = if k' = k then none else find? k' l := by
  induction l with
  | nil => simp [erase, find?]
  | cons q l ih =>
    obtain ⟨j, w⟩ := q
    obtain ⟨h1, h2⟩ := List.pairwise_cons.1 h
    simp only [erase]
    split
    · rename_i hk
      subst hk
      by_cases hk' : k' = k
      · subst hk'
        simp only [if_true]
        refine find?_eq_none_of_forall_ne fun p hp e => ?_
        exact String.lt_irrefl k' (by simpa [← e] using h1 p hp)
      · simp [find?, hk']
    · rename_i hk
      simp only [find?, ih h2]
      by_cases hj : k' = j
      · subst hj
        simp [Ne.symm hk]
      · simp [hj]

/-- A key above all others is put at the end. -/
theorem insert_eq_append {k : String} {v : α} {l : List (String × α)}
    (h : ∀ p ∈ l, p.1 < k) : insert k v l = l ++ [(k, v)] := by
  induction l with
  | nil => rfl
  | cons p l ih =>
    have hp : p.1 < k := h p (by simp)
    have hlt : ¬ k < p.1 := fun hk => String.lt_irrefl k (String.lt_trans hk hp)
    have hne : k ≠ p.1 := by
      intro hk
      rw [← hk] at hp
      exact String.lt_irrefl k hp
    rw [insert, if_neg hlt, if_neg hne, ih fun q hq => h q (by simp [hq])]
    rfl

/-- Putting pairs in one by one leaves them as they are if they come in order. -/
theorem foldl_insert {l m : List (String × α)} (h : Sorted (l ++ m)) :
    m.foldl (fun acc p => insert p.1 p.2 acc) l = l ++ m := by
  induction m generalizing l with
  | nil => simp
  | cons p m ih =>
    have hbelow : ∀ q ∈ l, q.1 < p.1 := fun q hq =>
      (List.pairwise_append.1 h).2.2 q hq p (by simp)
    rw [List.foldl_cons, insert_eq_append hbelow, ih (by simpa using h)]
    simp

/-- Sorted lists are determined by what they answer. -/
theorem eq_of_find?_eq {l m : List (String × α)} (hl : Sorted l) (hm : Sorted m)
    (h : ∀ k, find? k l = find? k m) : l = m := by
  induction l generalizing m with
  | nil =>
    cases m with
    | nil => rfl
    | cons q m =>
      have := h q.1
      simp [find?] at this
  | cons p l ih =>
    obtain ⟨j, v⟩ := p
    obtain ⟨hl1, hl2⟩ := List.pairwise_cons.1 hl
    cases m with
    | nil =>
      have := h j
      simp [find?] at this
    | cons q m =>
      obtain ⟨i, w⟩ := q
      obtain ⟨hm1, hm2⟩ := List.pairwise_cons.1 hm
      have above {k x : String} {n : List (String × α)} (hn : ∀ p ∈ n, x < p.1) (hk : ¬ x < k) :
          find? k n = none :=
        find?_eq_none_of_forall_ne fun p hp e => hk (e ▸ hn p hp)
      have hij : j = i := by
        apply Classical.byContradiction
        intro hne
        by_cases hlt : j < i
        · have := h j
          rw [find?, if_pos rfl, find?, if_neg hne,
            above hm1 fun hc => String.lt_irrefl j (String.lt_trans hlt hc)] at this
          cases this
        · have hgt : i < j := Std.lt_of_le_of_ne (String.not_lt.1 hlt) (Ne.symm hne)
          have := h i
          rw [find?, if_neg (Ne.symm hne), find?, if_pos rfl,
            above hl1 fun hc => String.lt_irrefl i (String.lt_trans hgt hc)] at this
          cases this
      subst hij
      have hv : v = w := by
        have := h j
        simpa [find?] using this
      subst hv
      congr 1
      refine ih hl2 hm2 fun k => ?_
      by_cases hk : k = j
      · subst hk
        rw [above hl1 (String.lt_irrefl k), above hm1 (String.lt_irrefl k)]
      · have := h k
        simpa [find?, hk] using this

end SignIn.KeyValue
