import Mathlib.Data.List.Induction
import Mathlib.Data.Nat.Digits.Defs
import Mathlib.Tactic.SplitIfs
import SignIn.Proofs.Text.Split
import SignIn.Url.Address

/-!
# Addresses are read back as they were written

An IPv4 address is written as four decimal numbers, an IPv6 address as hexadecimal pieces with a
double colon for a longest run of zeros. Each is read back from its text, for all addresses, and
every IPv6 address that is read has eight pieces of sixteen bits, so it can be written again.
-/

namespace SignIn.Url

open SignIn.Text

/-! ## Digits -/

theorem radixNumber?_append (radix : Nat) (cs : List Char) (c : Char) :
    radixNumber? radix (cs ++ [c]) = (radixNumber? radix cs).bind fun n =>
      (radixDigit? radix c).map fun d => n * radix + d := by
  simp [radixNumber?]

theorem hexNumber_of_lt {n : Nat} (h : n < 16) :
    hexNumber n = [Char.ofNat (Bytes.lowerHexDigit (UInt8.ofNat n)).toNat] := by
  rw [hexNumber, if_pos h, Nat.mod_eq_of_lt h]

theorem hexNumber_of_le {n : Nat} (h : 16 ≤ n) :
    hexNumber n = hexNumber (n / 16) ++ hexNumber (n % 16) := by
  rw [hexNumber_of_lt (n := n % 16) (by omega), hexNumber, if_neg (by omega)]

def hexDigitChars : List Char :=
  ['0', '1', '2', '3', '4', '5', '6', '7', '8', '9', 'a', 'b', 'c', 'd', 'e', 'f']

theorem mem_hexNumber {n : Nat} : ∀ c ∈ hexNumber n, c ∈ hexDigitChars := by
  have hdigit : ∀ d < 16, Char.ofNat (Bytes.lowerHexDigit (UInt8.ofNat d)).toNat ∈
      hexDigitChars := by decide
  induction n using Nat.strongRecOn with
  | ind n ih =>
    intro c hc
    rcases Nat.lt_or_ge n 16 with hn | hn
    · rw [hexNumber_of_lt hn, List.mem_singleton] at hc
      exact hc ▸ hdigit n hn
    · rw [hexNumber_of_le hn, List.mem_append] at hc
      rcases hc with hc | hc
      · exact ih (n / 16) (by omega) c hc
      · exact ih (n % 16) (by omega) c hc

theorem hexNumber_ne_nil (n : Nat) : hexNumber n ≠ [] := by
  rcases Nat.lt_or_ge n 16 with hn | hn
  · simp [hexNumber_of_lt hn]
  · simp [hexNumber_of_le hn, hexNumber_of_lt (n := n % 16) (by omega)]

theorem length_hexNumber_le {n k : Nat} (hk : 0 < k) (h : n < 16 ^ k) :
    (hexNumber n).length ≤ k := by
  induction k generalizing n with
  | zero => omega
  | succ k ih =>
    rcases Nat.lt_or_ge n 16 with hn | hn
    · simp [hexNumber_of_lt hn]
    · have hk : 0 < k := by
        rcases Nat.eq_zero_or_pos k with rfl | hk
        · simp at h
          omega
        · exact hk
      have hhigh := ih (n := n / 16) hk (by rw [Nat.pow_succ] at h; omega)
      rw [hexNumber_of_le hn, hexNumber_of_lt (n := n % 16) (by omega), List.length_append,
        List.length_singleton]
      omega

theorem radixNumber?_hexNumber (n : Nat) : radixNumber? 16 (hexNumber n) = some n := by
  have hdigit : ∀ d < 16, radixDigit? 16 (Char.ofNat (Bytes.lowerHexDigit (UInt8.ofNat d)).toNat) =
      some d := by decide
  induction n using Nat.strongRecOn with
  | ind n ih =>
    rcases Nat.lt_or_ge n 16 with hn | hn
    · simp [hexNumber_of_lt hn, radixNumber?, hdigit n hn]
    · rw [hexNumber_of_le hn, hexNumber_of_lt (n := n % 16) (by omega), radixNumber?_append,
        ih (n / 16) (by omega), hdigit (n % 16) (by omega)]
      simp only [Option.map_some, Option.bind_some, Option.some.injEq]
      omega

theorem radixDigit?_lt {radix d : Nat} {c : Char} (h : radixDigit? radix c = some d) :
    d < radix := by
  simp only [radixDigit?, Option.filter_eq_some_iff, decide_eq_true_eq] at h
  exact h.2

theorem radixNumber?_lt {cs : List Char} {n : Nat} (h : radixNumber? 16 cs = some n) :
    n < 16 ^ cs.length := by
  induction cs using List.reverseRecOn generalizing n with
  | nil =>
    cases h
    decide
  | append_singleton cs c ih =>
    rw [radixNumber?_append] at h
    obtain ⟨high, hhigh, h⟩ := Option.bind_eq_some_iff.1 h
    obtain ⟨d, hd, rfl⟩ := Option.map_eq_some_iff.1 h
    have hlow := radixDigit?_lt hd
    have hrest := ih hhigh
    rw [List.length_append, List.length_singleton, Nat.pow_succ]
    omega

/-! ## IPv4 -/

/-- The four bytes of an address, the highest first. -/
def v4Bytes (a : UInt32) : List Nat := [3, 2, 1, 0].map fun k => a.toNat / Nat.pow 256 k % 256

theorem toList_v4Text (a : UInt32) :
    (v4Text a).toList = ['.'].intercalate ((v4Bytes a).map (Nat.toDigits 10)) := by
  simp [v4Text, v4Bytes, List.intercalate_cons_cons]

theorem v4Part?_digits {n : Nat} (h : n < 256) : v4Part? (Nat.toDigits 10 n) = some n := by
  have table : ∀ n < 256, v4Part? (Nat.toDigits 10 n) = some n := by decide +kernel
  exact table n h

theorem digits_ne_dot (n : Nat) : ∀ c ∈ Nat.toDigits 10 n, (c == '.') = false := by
  intro c hc
  have hdigit := Nat.isDigit_of_mem_toDigits (by decide) (by decide) hc
  rw [beq_eq_false_iff_ne]
  rintro rfl
  cases hdigit

theorem dottedParts_v4Text (a : UInt32) :
    dottedParts (v4Text a).toList = (v4Bytes a).map (Nat.toDigits 10) := by
  have hsplit : splitWhere (· == '.') (v4Text a).toList = (v4Bytes a).map (Nat.toDigits 10) := by
    rw [toList_v4Text]
    apply splitWhere_intercalate rfl (by simp [v4Bytes])
    intro part hpart
    obtain ⟨n, -, rfl⟩ := List.mem_map.1 hpart
    exact digits_ne_dot n
  unfold dottedParts
  rw [hsplit]
  exact if_neg (by simp [v4Bytes, Nat.toDigits_ne_nil])

theorem mem_v4Text {a : UInt32} : ∀ c ∈ (v4Text a).toList, c.isDigit ∨ c = '.' := by
  intro c hc
  rw [toList_v4Text] at hc
  rcases mem_of_mem_intercalate hc with rfl | ⟨part, hpart, hc⟩
  · exact .inr rfl
  · obtain ⟨n, -, rfl⟩ := List.mem_map.1 hpart
    exact .inl (Nat.isDigit_of_mem_toDigits (by decide) (by decide) hc)

theorem v4Text_ne_nil (a : UInt32) : (v4Text a).toList ≠ [] := by
  simp [toList_v4Text, v4Bytes, List.intercalate_cons_cons]

theorem endsInNumber_v4Text (a : UInt32) : endsInNumber (v4Text a).toList := by
  unfold endsInNumber
  rw [dottedParts_v4Text]
  simp [v4Bytes, Nat.toDigits_ne_nil]
  left
  intro c hc
  exact Nat.isDigit_of_mem_toDigits (by decide) (by decide) hc

theorem v4Address?_v4Text (a : UInt32) : v4Address? (v4Text a).toList = some a := by
  have hlt := a.toNat_lt
  have hparts : ((v4Bytes a).map (Nat.toDigits 10)).mapM v4Part? = some (v4Bytes a) := by
    simp [v4Bytes, v4Part?_digits (Nat.mod_lt _ (by decide : 256 > 0))]
  have hhigh : ((v4Bytes a).dropLast.any fun n => decide (255 < n)) = false := by
    simp [v4Bytes]
    omega
  have hlow : ¬Nat.pow 256 (4 - (v4Bytes a).dropLast.length) ≤ a.toNat % 256 := by
    simp [v4Bytes]
    omega
  have hlast : (v4Bytes a).getLast? = some (a.toNat % 256) := by simp [v4Bytes]
  have hsum : (v4Bytes a).dropLast.foldl (fun acc n => acc * 256 + n) 0 *
      Nat.pow 256 (4 - (v4Bytes a).dropLast.length) + a.toNat % 256 = a.toNat := by
    simp [v4Bytes]
    omega
  unfold v4Address?
  simp only [dottedParts_v4Text, hparts, Option.bind_eq_bind, Option.bind_some, hlast, hhigh,
    hlow, hsum, if_false, Bool.false_eq_true]
  simp [v4Bytes]

/-! ## IPv6 -/

theorem toList_piecesText (ps : List Nat) :
    piecesText ps = [':'].intercalate (ps.map hexNumber) := by
  simp [piecesText, Function.comp_def]

theorem hexNumber_ne_colon (n : Nat) : ∀ c ∈ hexNumber n, (c == ':') = false := by
  have hdigit : ∀ c ∈ hexDigitChars, (c == ':') = false := forall_of_all (by decide)
  intro c hc
  exact hdigit c (mem_hexNumber c hc)

theorem splitGap_append {part : List Char} (h : ∀ c ∈ part, (c == ':') = false)
    (rest : List Char) :
    splitGap (part ++ rest) = (part ++ (splitGap rest).1, (splitGap rest).2) := by
  induction part with
  | nil => rfl
  | cons c part ih =>
    have hc : c ≠ ':' := by simpa using h c (by simp)
    rw [List.cons_append, splitGap, ih fun d hd => h d (by simp [hd])]
    · rfl
    · intro cs heq
      cases heq
      exact absurd rfl hc

theorem splitGap_colon {c : Char} (h : (c == ':') = false) (cs : List Char) :
    splitGap (':' :: c :: cs) = (':' :: (splitGap (c :: cs)).1, (splitGap (c :: cs)).2) := by
  have hc : c ≠ ':' := by simpa using h
  rw [splitGap]
  intro cs' _ heq
  cases heq
  exact hc rfl

/-- Pieces hold no double colon, so one that follows them is the first. -/
theorem splitGap_piecesText (ps : List Nat) (rest : List Char)
    (hrest : (splitGap rest).1 = []) :
    splitGap (piecesText ps ++ rest) = (piecesText ps, (splitGap rest).2) := by
  rw [toList_piecesText]
  induction ps with
  | nil => exact Prod.ext hrest rfl
  | cons p ps ih =>
    cases ps with
    | nil =>
      rw [List.map_singleton, List.intercalate_singleton, splitGap_append (hexNumber_ne_colon p),
        hrest, List.append_nil]
    | cons q ps =>
      obtain ⟨c, cs, hq⟩ := List.exists_cons_of_ne_nil (hexNumber_ne_nil q)
      obtain ⟨ds, hds⟩ : ∃ ds, [':'].intercalate ((q :: ps).map hexNumber) = c :: ds := by
        cases ps with
        | nil => exact ⟨cs, by rw [List.map_singleton, List.intercalate_singleton, hq]⟩
        | cons r ps =>
          refine ⟨cs ++ [':'] ++ [':'].intercalate ((r :: ps).map hexNumber), ?_⟩
          rw [List.map_cons, List.map_cons, List.intercalate_cons_cons, hq]
          simp
      have hc : (c == ':') = false := hexNumber_ne_colon q c (by simp [hq])
      have hwhole : [':'].intercalate ((p :: q :: ps).map hexNumber) =
          hexNumber p ++ ':' :: c :: ds := by
        rw [← hds, List.map_cons, List.map_cons, List.intercalate_cons_cons, ← List.map_cons]
        simp
      rw [hds] at ih
      rw [hwhole, List.append_assoc, splitGap_append (hexNumber_ne_colon p), List.cons_append,
        List.cons_append, splitGap_colon hc, ← List.cons_append, ih]

def PiecesFit (ps : List Nat) : Prop := ∀ p ∈ ps, p < 65536

theorem piece?_hexNumber {p : Nat} (h : p < 65536) : piece? (hexNumber p) = some p := by
  have hlen : (hexNumber p).length ≤ 4 := length_hexNumber_le (by decide) h
  unfold piece?
  rw [if_neg, radixNumber?_hexNumber]
  simp [hexNumber_ne_nil, hlen]

theorem sidePieces?_hexNumbers {dotted : Bool} {ps : List Nat} (h : PiecesFit ps) :
    sidePieces? dotted (ps.map hexNumber) = some ps := by
  induction ps with
  | nil => rfl
  | cons p ps ih =>
    have hp := piece?_hexNumber (h p (by simp))
    have hrest := ih fun q hq => h q (by simp [hq])
    cases ps with
    | nil =>
      have hdot : '.' ∉ hexNumber p := by
        intro hmem
        have hdigit : '.' ∉ hexDigitChars := by decide
        exact hdigit (mem_hexNumber _ hmem)
      simp [sidePieces?, hdot, hp]
    | cons q ps =>
      rw [List.map_cons] at hrest ⊢
      simp [sidePieces?, hp, hrest]

theorem side?_piecesText {dotted : Bool} {ps : List Nat} (h : PiecesFit ps) :
    side? dotted (piecesText ps) = some ps := by
  cases ps with
  | nil => rfl
  | cons p ps =>
    have hsplit : splitWhere (· == ':') (piecesText (p :: ps)) = (p :: ps).map hexNumber := by
      rw [toList_piecesText]
      apply splitWhere_intercalate rfl (by simp)
      intro part hpart
      obtain ⟨n, -, rfl⟩ := List.mem_map.1 hpart
      exact hexNumber_ne_colon n
    have hne : (piecesText (p :: ps)).isEmpty = false := by
      rw [List.isEmpty_eq_false_iff]
      intro hnil
      rw [hnil] at hsplit
      have hlast := congrArg List.head? hsplit
      simp only [splitWhere, List.head?_cons, List.map_cons, Option.some.injEq] at hlast
      exact hexNumber_ne_nil p hlast.symm
    unfold side?
    rw [hne, hsplit]
    exact sidePieces?_hexNumbers h

theorem foldl_longer_mem (runs : List (Nat × Nat)) (best : Nat × Nat) :
    runs.foldl (fun b r => if b.2 < r.2 then r else b) best ∈ best :: runs := by
  induction runs generalizing best with
  | nil => simp
  | cons run runs ih =>
    have hstep := ih (if best.2 < run.2 then run else best)
    rw [List.foldl_cons]
    split_ifs at hstep ⊢ with hlt
    · exact List.mem_cons_of_mem _ hstep
    · rcases List.mem_cons.1 hstep with h | h
      · rw [h]
        simp
      · simp [h]

theorem eq_of_longestRun {ps : List Nat} {start size : Nat}
    (h : longestRun ps = some (start, size)) :
    2 ≤ size ∧ ps = ps.take start ++ List.replicate size 0 ++ ps.drop (start + size) := by
  unfold longestRun at h
  dsimp only at h
  split_ifs at h with hsize
  have hmem :=
    foldl_longer_mem ((List.range ps.length).map fun i => (i, zeroRun (ps.drop i))) (0, 0)
  rw [Option.some.inj h] at hmem hsize
  refine ⟨hsize, ?_⟩
  rcases List.mem_cons.1 hmem with h | hmem
  · cases h
    simp at hsize
  · obtain ⟨i, -, hi⟩ := List.mem_map.1 hmem
    cases hi
    have hzeros : (ps.drop start).takeWhile (· == 0) =
        List.replicate (zeroRun (ps.drop start)) 0 := by
      refine List.eq_replicate_iff.2 ⟨rfl, fun p hp => ?_⟩
      simpa using List.all_eq_true.1 (List.all_takeWhile (p := (· == 0))) p hp
    have hrest : (ps.drop start).dropWhile (· == 0) =
        ps.drop (start + zeroRun (ps.drop start)) := by
      rw [← List.drop_drop, zeroRun, drop_length_takeWhile]
    rw [← hzeros, ← hrest, List.append_assoc, List.takeWhile_append_dropWhile,
      List.take_append_drop]

/-- An IPv6 address is read back. -/
theorem v6Pieces?_v6Text {ps : List Nat} (hlen : ps.length = 8) (h : PiecesFit ps) :
    v6Pieces? (v6Text ps).toList = some ps := by
  cases hrun : longestRun ps with
  | none =>
    have hgap := splitGap_piecesText ps [] rfl
    rw [List.append_nil] at hgap
    simp only [v6Text, hrun, v6Pieces?, String.toList_ofList, hgap, splitGap, side?_piecesText h]
    exact Option.filter_some_pos (by simpa using hlen)
  | some run =>
    obtain ⟨start, size⟩ := run
    obtain ⟨hsize, hps⟩ := eq_of_longestRun hrun
    have hleft : PiecesFit (ps.take start) := fun p hp => h p (List.mem_of_mem_take hp)
    have hright : PiecesFit (ps.drop (start + size)) := fun p hp => h p (List.mem_of_mem_drop hp)
    have hsum : (ps.take start).length + size + (ps.drop (start + size)).length = 8 := by
      have hlength := congrArg List.length hps
      rw [List.length_append, List.length_append, List.length_replicate, hlen] at hlength
      exact hlength.symm
    have hgap := splitGap_piecesText (ps.take start)
      (':' :: ':' :: piecesText (ps.drop (start + size))) rfl
    simp only [v6Text, hrun, v6Pieces?, String.toList_ofList, List.append_assoc, List.cons_append,
      List.nil_append, hgap, splitGap, side?_piecesText hleft, side?_piecesText hright,
      Option.bind_eq_bind, Option.bind_some]
    rw [if_pos (by omega),
      show 8 - ((ps.take start).length + (ps.drop (start + size)).length) = size by omega,
      ← List.append_assoc, ← hps]
    rfl

theorem mem_piecesText {ps : List Nat} : ∀ c ∈ piecesText ps, c ∈ ':' :: hexDigitChars := by
  intro c hc
  rw [toList_piecesText] at hc
  rcases mem_of_mem_intercalate hc with rfl | ⟨part, hpart, hc⟩
  · simp
  · obtain ⟨n, -, rfl⟩ := List.mem_map.1 hpart
    exact List.mem_cons_of_mem _ (mem_hexNumber c hc)

theorem mem_v6Text {ps : List Nat} : ∀ c ∈ (v6Text ps).toList, c ∈ ':' :: hexDigitChars := by
  intro c hc
  unfold v6Text at hc
  split at hc
  · rw [String.toList_ofList] at hc
    exact mem_piecesText c hc
  · rw [String.toList_ofList, List.mem_append, List.mem_append] at hc
    rcases hc with (hc | hc) | hc
    · exact mem_piecesText c hc
    · obtain rfl : c = ':' := by simpa using hc
      simp
    · exact mem_piecesText c hc

/-! ### What is read -/

theorem piece?_lt {cs : List Char} {n : Nat} (h : piece? cs = some n) : n < 65536 := by
  unfold piece? at h
  split_ifs at h with hlen
  have hlt := radixNumber?_lt h
  have hpow : 16 ^ cs.length ≤ 16 ^ 4 := by
    apply Nat.pow_le_pow_right (by decide)
    simp at hlen
    omega
  omega

theorem plainByte?_le {cs : List Char} {n : Nat} (h : plainByte? cs = some n) : n ≤ 255 := by
  unfold plainByte? at h
  simp only [Option.bind_eq_bind] at h
  split_ifs at h
  · cases h
  · obtain ⟨m, -, h⟩ := Option.bind_eq_some_iff.1 h
    split_ifs at h with hm
    cases h
    exact hm

theorem piecesFit_of_dottedPieces? {cs : List Char} {ps : List Nat}
    (h : dottedPieces? cs = some ps) : PiecesFit ps := by
  unfold dottedPieces? at h
  obtain ⟨bytes, hbytes, h⟩ := Option.bind_eq_some_iff.1 h
  have hsmall : ∀ b ∈ bytes, b ≤ 255 := by
    clear h
    generalize splitWhere _ _ = parts at hbytes
    induction mapM_eq_some_iff.1 hbytes with
    | nil => simp
    | cons hpart hparts ih => simpa using ⟨plainByte?_le hpart, ih (mapM_eq_some_iff.2 hparts)⟩
  split at h
  · next a b c d =>
    cases h
    have hall : a ≤ 255 ∧ b ≤ 255 ∧ c ≤ 255 ∧ d ≤ 255 := by simpa using hsmall
    intro p hp
    simp only [List.mem_cons, List.not_mem_nil, or_false] at hp
    omega
  · cases h

theorem piecesFit_of_sidePieces? {dotted : Bool} {parts : List (List Char)} {ps : List Nat}
    (h : sidePieces? dotted parts = some ps) : PiecesFit ps := by
  induction parts generalizing ps with
  | nil =>
    cases h
    intro p hp
    cases hp
  | cons part parts ih =>
    cases parts with
    | nil =>
      unfold sidePieces? at h
      split_ifs at h
      · exact piecesFit_of_dottedPieces? h
      · obtain ⟨n, hn, rfl⟩ := Option.map_eq_some_iff.1 h
        intro p hp
        obtain rfl := List.mem_singleton.1 hp
        exact piece?_lt hn
    | cons next parts =>
      unfold sidePieces? at h
      obtain ⟨n, hn, h⟩ := Option.bind_eq_some_iff.1 h
      obtain ⟨ns, hns, h⟩ := Option.bind_eq_some_iff.1 h
      cases h
      intro p hp
      rcases List.mem_cons.1 hp with rfl | hp
      · exact piece?_lt hn
      · exact ih hns p hp

theorem piecesFit_of_side? {dotted : Bool} {cs : List Char} {ps : List Nat}
    (h : side? dotted cs = some ps) : PiecesFit ps := by
  unfold side? at h
  split_ifs at h
  · cases h
    intro p hp
    cases hp
  · exact piecesFit_of_sidePieces? h

theorem eight_of_v6Pieces? {cs : List Char} {ps : List Nat} (h : v6Pieces? cs = some ps) :
    ps.length = 8 ∧ PiecesFit ps := by
  unfold v6Pieces? at h
  split at h
  · obtain ⟨h, hlen⟩ := Option.filter_eq_some_iff.1 h
    exact ⟨by simpa using hlen, piecesFit_of_side? h⟩
  · obtain ⟨left, hleft, h⟩ := Option.bind_eq_some_iff.1 h
    obtain ⟨right, hright, h⟩ := Option.bind_eq_some_iff.1 h
    dsimp only at h
    split_ifs at h with hsize
    · cases h
      constructor
      · simp
        omega
      · intro p hp
        simp only [List.mem_append, List.mem_replicate] at hp
        rcases hp with (hp | ⟨-, rfl⟩) | hp
        · exact piecesFit_of_side? hleft p hp
        · decide
        · exact piecesFit_of_side? hright p hp

end SignIn.Url
