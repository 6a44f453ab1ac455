import SignIn.Text.Secret

/-!
# Comparing secrets compares them

What is gathered is zero only if every place was gathered from equal bytes, so that no difference
is lost behind another.
-/

namespace SignIn.Text

theorem gather_eq_zero_iff (pairs : List (UInt8 × UInt8)) (acc : UInt8) :
    pairs.foldl (fun acc p => acc ||| (p.1 ^^^ p.2)) acc = 0 ↔
      acc = 0 ∧ ∀ p ∈ pairs, p.1 = p.2 := by
  induction pairs generalizing acc with
  | nil => simp
  | cons p pairs ih =>
    rw [List.foldl_cons, ih, UInt8.or_eq_zero_iff, UInt8.xor_eq_zero_iff, List.forall_mem_cons]
    exact and_assoc

theorem getLsbD_gather (pairs : List (UInt8 × UInt8)) (acc : UInt8) (bit : Nat) :
    (pairs.foldl (fun acc p => acc ||| (p.1 ^^^ p.2)) acc).toBitVec.getLsbD bit = true ↔
      acc.toBitVec.getLsbD bit = true ∨
        ∃ p ∈ pairs, p.1.toBitVec.getLsbD bit ≠ p.2.toBitVec.getLsbD bit := by
  induction pairs generalizing acc with
  | nil => simp
  | cons p pairs ih =>
    have hstep : (acc ||| (p.1 ^^^ p.2)).toBitVec.getLsbD bit = true ↔
        acc.toBitVec.getLsbD bit = true ∨
          p.1.toBitVec.getLsbD bit ≠ p.2.toBitVec.getLsbD bit := by
      simp
    rw [List.foldl_cons, ih, hstep]
    simp only [List.mem_cons, exists_eq_or_imp]
    exact or_assoc

/-- What is gathered are the bits in which some byte differs from the one at its place: none is
taken back by a later one. -/
theorem getLsbD_gatherDifferences (a b : Bytes) (bit : Nat) :
    (gatherDifferences a b).toBitVec.getLsbD bit = true ↔
      ∃ (i : Nat) (x y : UInt8), a[i]? = some x ∧ b[i]? = some y ∧
        x.toBitVec.getLsbD bit ≠ y.toBitVec.getLsbD bit := by
  have hzero : (0 : UInt8).toBitVec.getLsbD bit ≠ true := by simp
  rw [gatherDifferences, getLsbD_gather, or_iff_right hzero]
  constructor
  · rintro ⟨⟨x, y⟩, hmem, hbit⟩
    obtain ⟨i, hi⟩ := List.mem_iff_getElem?.mp hmem
    obtain ⟨hx, hy⟩ := List.getElem?_zip_eq_some.mp hi
    exact ⟨i, x, y, hx, hy, hbit⟩
  · rintro ⟨i, x, y, hx, hy, hbit⟩
    have hi : (a.zip b)[i]? = some (x, y) := List.getElem?_zip_eq_some.mpr ⟨hx, hy⟩
    exact ⟨(x, y), List.mem_of_getElem? hi, hbit⟩

theorem eq_of_zip {a b : Bytes} (hlen : a.length = b.length) (h : ∀ p ∈ a.zip b, p.1 = p.2) :
    a = b := by
  induction a generalizing b with
  | nil => exact (List.length_eq_zero_iff.mp hlen.symm).symm
  | cons x a ih =>
    cases b with
    | nil => cases hlen
    | cons y b =>
      rw [List.zip_cons_cons, List.forall_mem_cons] at h
      obtain ⟨hhead, htail⟩ := h
      obtain rfl : x = y := hhead
      rw [ih (Nat.succ.inj hlen) htail]

theorem eq_of_sameSecret {a b : String} (h : sameSecret a b) : a = b := by
  unfold sameSecret at h
  dsimp only at h
  split at h
  · next hlen =>
    have hzero : gatherDifferences (Bytes.ofText a) (Bytes.ofText b) = 0 := by simpa using h
    exact Bytes.ofText_injective (eq_of_zip hlen ((gather_eq_zero_iff _ _).mp hzero).2)
  · cases h

@[simp] theorem sameSecret_self (a : String) : sameSecret a a = true := by
  have hzero : gatherDifferences (Bytes.ofText a) (Bytes.ofText a) = 0 := by
    refine (gather_eq_zero_iff _ _).mpr ⟨rfl, fun p hp => ?_⟩
    obtain ⟨i, hi, rfl⟩ := List.getElem_of_mem hp
    simp
  simp [sameSecret, hzero]

/-- Two texts are the same secret exactly if they are the same text. They are told apart exactly if
at some place one has a byte that the other has not, be it behind the end of the other; and whatever
their lengths, each bit in which two bytes at one place differ is gathered. -/
theorem sameSecret_iff_eq (a b : String) :
    (sameSecret a b = true ↔ a = b) ∧
    (sameSecret a b = false ↔ ∃ i : Nat, (Bytes.ofText a)[i]? ≠ (Bytes.ofText b)[i]?) ∧
    ∀ bit, (gatherDifferences (Bytes.ofText a) (Bytes.ofText b)).toBitVec.getLsbD bit = true ↔
      ∃ (i : Nat) (x y : UInt8), (Bytes.ofText a)[i]? = some x ∧ (Bytes.ofText b)[i]? = some y ∧
        x.toBitVec.getLsbD bit ≠ y.toBitVec.getLsbD bit := by
  have hsame : sameSecret a b = true ↔ a = b := by
    constructor
    · exact eq_of_sameSecret
    · rintro rfl
      exact sameSecret_self a
  refine ⟨hsame, ?_, getLsbD_gatherDifferences _ _⟩
  rw [← Bool.not_eq_true, hsame, ← Classical.not_forall]
  apply not_congr
  constructor
  · rintro rfl _
    rfl
  · intro h
    exact Bytes.ofText_injective (List.ext_getElem? h)

end SignIn.Text
