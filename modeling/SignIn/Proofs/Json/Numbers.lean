import SignIn.Json.Record
import SignIn.Proofs.Text.Split

/-!
# Whole numbers are read back as they were written

The digits of a number are read up to the first byte that is not part of a number. As long as the
number fits 64 bits, nothing of it is rounded, so that every signed number of 64 bits is read as
itself.
-/

namespace SignIn.Json

def EndsNumber (rest : Bytes) : Prop :=
  ∀ b ∈ rest.head?, isDigit b = false ∧ b ≠ 46 ∧ b ≠ 101 ∧ b ≠ 69

theorem isDigit_digit {n : Nat} (h : n < 10) : isDigit (UInt8.ofNat (48 + n)) = true := by
  have table : ∀ n < 10, isDigit (UInt8.ofNat (48 + n)) = true := by decide
  exact table n h

theorem toNat_digit {n : Nat} (h : n < 10) : (UInt8.ofNat (48 + n)).toNat - 48 = n := by
  rw [UInt8.toNat_ofNat']
  omega

theorem decimal_of_lt {n : Nat} (h : n < 10) : Bytes.decimal n = [UInt8.ofNat (48 + n)] := by
  rw [Bytes.decimal, if_pos h]

theorem decimal_of_le {n : Nat} (h : 10 ≤ n) :
    Bytes.decimal n = Bytes.decimal (n / 10) ++ [UInt8.ofNat (48 + n % 10)] := by
  rw [Bytes.decimal, if_neg (by omega)]

theorem isDigit_of_mem_decimal (n : Nat) : ∀ b ∈ Bytes.decimal n, isDigit b = true := by
  induction n using Nat.strongRecOn with
  | ind n ih =>
    intro b hb
    by_cases hn : n < 10
    · rw [decimal_of_lt hn, List.mem_singleton] at hb
      rw [hb, isDigit_digit hn]
    · rw [decimal_of_le (by omega), List.mem_append, List.mem_singleton] at hb
      rcases hb with hb | rfl
      · exact ih (n / 10) (by omega) b hb
      · exact isDigit_digit (by omega)

theorem exists_decimal_eq_cons (n : Nat) :
    ∃ b bs, Bytes.decimal n = b :: bs ∧ isDigit b = true ∧ (b = 48 → n = 0) := by
  induction n using Nat.strongRecOn with
  | ind n ih =>
    by_cases hn : n < 10
    · have table : ∀ n < 10, UInt8.ofNat (48 + n) = 48 → n = 0 := by decide
      exact ⟨_, [], decimal_of_lt hn, isDigit_digit hn, table n hn⟩
    · obtain ⟨b, bs, hdigits, hdigit, hb⟩ := ih (n / 10) (by omega)
      refine ⟨b, bs ++ [UInt8.ofNat (48 + n % 10)], ?_, hdigit, fun hzero => ?_⟩
      · rw [decimal_of_le (by omega), hdigits, List.cons_append]
      · have := hb hzero
        omega

theorem foldl_whole_decimal {n : Nat} (h : n ≤ significandLimit) :
    (Bytes.decimal n).foldl Digits.whole ⟨0, 0, true⟩ = ⟨n, 0, true⟩ := by
  have hpush : ∀ m d : Nat, d < 10 → m * 10 + d ≤ significandLimit →
      (⟨m, 0, true⟩ : Digits).whole (UInt8.ofNat (48 + d)) = ⟨m * 10 + d, 0, true⟩ := by
    intro m d hd hlimit
    unfold Digits.whole Digits.push?
    simp only [toNat_digit hd, if_pos hlimit]
  induction n using Nat.strongRecOn with
  | ind n ih =>
    by_cases hn : n < 10
    · rw [decimal_of_lt hn, List.foldl_cons, List.foldl_nil, hpush 0 n hn (by omega), Nat.zero_mul,
        Nat.zero_add]
    · have hsplit : n / 10 * 10 + n % 10 = n := by omega
      rw [decimal_of_le (by omega), List.foldl_append, ih (n / 10) (by omega) (by omega),
        List.foldl_cons, List.foldl_nil, hpush _ _ (by omega) (by omega), hsplit]

theorem numberTail_of_ends {rest : Bytes} (h : EndsNumber rest) (positive : Bool) (n : Nat) :
    numberTail positive ⟨n, 0, true⟩ rest = wholeNumber positive n rest := by
  unfold numberTail
  split
  case h_1 => exact absurd rfl (h 46 rfl).2.1
  case h_2 => exact absurd rfl (h 101 rfl).2.2.1
  case h_3 => exact absurd rfl (h 69 rfl).2.2.2
  case h_4 => rfl

theorem readNumber_decimal {n : Nat} (hn : n ≤ significandLimit) {rest : Bytes}
    (h : EndsNumber rest) (positive : Bool) :
    readNumber positive (Bytes.decimal n ++ rest) = wholeNumber positive n rest := by
  by_cases hzero : n = 0
  · subst hzero
    have hnext : rest.head?.any isDigit = false := by
      cases rest with
      | nil => rfl
      | cons b rest => exact (h b rfl).1
    rw [decimal_of_lt (by decide), List.singleton_append, readNumber]
    change (if (48 : UInt8) = 48 then _ else _) = _
    rw [if_pos rfl, hnext]
    exact numberTail_of_ends h positive 0
  · obtain ⟨b, bs, hdigits, hfirst, hb⟩ := exists_decimal_eq_cons n
    have hall : ∀ c ∈ Bytes.decimal n, isDigit c = true := isDigit_of_mem_decimal n
    have hend : ∀ c, rest.head? = some c → isDigit c = false := fun c hc => (h c hc).1
    have htake : (Bytes.decimal n ++ rest).takeWhile isDigit = Bytes.decimal n := by
      apply Text.takeWhile_append_of_head hall
      cases rest with
      | nil => rfl
      | cons c rest => simp [hend c rfl]
    have hdrop : (Bytes.decimal n ++ rest).dropWhile isDigit = rest := by
      rw [List.dropWhile_append_of_pos hall, Text.dropWhile_of_head hend]
    have hcons : Bytes.decimal n ++ rest = b :: (bs ++ rest) := by rw [hdigits]; rfl
    rw [hcons, readNumber, if_neg fun h => hzero (hb h), if_pos hfirst, ← hcons, htake, hdrop,
      foldl_whole_decimal hn, numberTail_of_ends h]

theorem skipSpace_of_first {b : UInt8} (h : isSpace b = false) (bs : Bytes) :
    skipSpace (b :: bs) = b :: bs := by
  rw [skipSpace, List.dropWhile_cons, h]
  rfl

theorem isSpace_of_isDigit {b : UInt8} (h : isDigit b = true) : isSpace b = false ∧ b ≠ 45 := by
  have table : ∀ n < 256, isDigit (UInt8.ofNat n) = true →
      isSpace (UInt8.ofNat n) = false ∧ UInt8.ofNat n ≠ 45 := by decide +kernel
  have := table b.toNat b.toNat_lt
  rw [UInt8.ofNat_toNat] at this
  exact this h

/-- Every signed number of 64 bits is read back. -/
theorem integerValue_integer (n : Int64) {rest : Bytes} (h : EndsNumber rest) :
    integerValue (Bytes.integer n.toInt ++ rest) = .ok (n, rest) := by
  have hle := n.toInt_le
  have hge := n.le_toInt
  cases hn : n.toInt with
  | ofNat m =>
    have hm : m ≤ significandLimit := by
      have hmax : Int64.maxValue.toInt = 9223372036854775807 := by decide
      rw [hn, hmax, Int.ofNat_eq_natCast] at hle
      simp only [significandLimit]
      omega
    obtain ⟨b, bs, hdigits, hdigit, -⟩ := exists_decimal_eq_cons m
    have hcons : Bytes.integer (.ofNat m) ++ rest = b :: (bs ++ rest) := by
      rw [Bytes.integer, hdigits]
      rfl
    have hread : readNumber true (b :: (bs ++ rest)) = .ok (.whole m, rest) := by
      rw [← hcons]
      exact readNumber_decimal hm h true
    rw [integerValue, hcons, skipSpace_of_first (isSpace_of_isDigit hdigit).1]
    simp only [if_neg (isSpace_of_isDigit hdigit).2, hdigit, if_true, hread]
    rw [if_pos (by rw [← Int.ofNat_eq_natCast, ← hn]; exact hle), ← Int.ofNat_eq_natCast, ← hn,
      Int64.ofInt_toInt]
  | negSucc m =>
    have hm : m + 1 ≤ 0x8000000000000000 := by
      rw [hn, Int.negSucc_eq] at hge
      omega
    have hread : readNumber false (Bytes.decimal (m + 1) ++ rest) =
        .ok (.whole (-((m + 1 : Nat) : Int)), rest) := by
      rw [readNumber_decimal (by simp only [significandLimit]; omega) h, wholeNumber,
        if_neg (by simp), if_pos ⟨by omega, hm⟩]
    have hvalue : -((m + 1 : Nat) : Int) = n.toInt := by rw [hn, Int.negSucc_eq]; rfl
    rw [integerValue, Bytes.integer, List.cons_append, skipSpace_of_first (by decide)]
    simp only [if_true, hread, hvalue]
    rw [if_pos hle, Int64.ofInt_toInt]

end SignIn.Json
