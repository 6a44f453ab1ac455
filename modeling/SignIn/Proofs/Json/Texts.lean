import Mathlib.Tactic.SplitIfs
import SignIn.Json.Record

/-!
# Texts are read back as they were written

What is written of a text is UTF-8 and reads back as that text, whatever follows it. Writing
escapes byte by byte, and reading undoes it byte by byte; that the bytes are UTF-8 is seen character
by character, since the bytes of a character are either one ASCII byte or none of them is escaped.
-/

namespace SignIn

namespace Bytes

/-- The bytes are the UTF-8 form of a text. -/
def IsText (bs : Bytes) : Prop := ∃ s, bs = ofText s

theorem isText_ofText (s : String) : IsText (ofText s) := ⟨s, rfl⟩

theorem IsText.append {bs cs : Bytes} (hb : IsText bs) (hc : IsText cs) : IsText (bs ++ cs) := by
  obtain ⟨s, rfl⟩ := hb
  obtain ⟨t, rfl⟩ := hc
  exact ⟨s ++ t, (ofText_append s t).symm⟩

theorem isText_of_ascii {bs : Bytes} (h : ∀ b ∈ bs, b < 128) : IsText bs := by
  refine ⟨String.ofList (bs.map fun b => Char.ofNat b.toNat), ?_⟩
  rw [ofText_ofList, List.flatMap_map]
  induction bs with
  | nil => rfl
  | cons b bs ih =>
    have hb : b.toNat < 128 := by simpa [UInt8.lt_iff_toNat_lt] using h b (by simp)
    have hval : (Char.ofNat b.toNat).val.toNat = b.toNat := by
      rw [Char.ofNat, dif_pos (Or.inl (by omega))]
      rfl
    rw [List.flatMap_cons, ← ih fun x hx => h x (by simp [hx]), String.utf8EncodeChar]
    simp only [hval, show b.toNat ≤ 127 by omega, if_true, UInt8.ofNat_toNat, List.cons_append,
      List.nil_append]

theorem IsText.cons {b : UInt8} {bs : Bytes} (hb : b < 128) (h : IsText bs) : IsText (b :: bs) := by
  have hfirst : IsText [b] := isText_of_ascii (by simpa using hb)
  exact hfirst.append h

end Bytes

namespace Json

theorem escapeByte_ascii {b : UInt8} (h : b < 128) : ∀ x ∈ escapeByte b, x < 128 := by
  have table : ∀ n < 128, (escapeByte (UInt8.ofNat n)).all (· < 128) := by decide
  simpa using table b.toNat (by simpa [UInt8.lt_iff_toNat_lt] using h)

theorem escapeByte_of_le {b : UInt8} (h : 128 ≤ b) : escapeByte b = [b] := by
  have hb : 128 ≤ b.toNat := by simpa [UInt8.le_iff_toNat_le] using h
  have hne : ∀ n : UInt8, n.toNat < 128 → b ≠ n := by
    rintro n hn rfl
    omega
  simp [escapeByte, hne, UInt8.lt_iff_toNat_lt]
  omega

theorem flatMap_escapeByte_of_le {bs : Bytes} (h : ∀ b ∈ bs, 128 ≤ b) :
    bs.flatMap escapeByte = bs := by
  induction bs with
  | nil => rfl
  | cons b bs ih =>
    rw [List.flatMap_cons, escapeByte_of_le (h b (by simp)), ih fun x hx => h x (by simp [hx])]
    rfl

theorem isText_escaped (s : String) : Bytes.IsText ((Bytes.ofText s).flatMap escapeByte) := by
  obtain ⟨cs, rfl⟩ : ∃ cs, s = String.ofList cs := ⟨s.toList, String.ofList_toList.symm⟩
  rw [Bytes.ofText_ofList]
  induction cs with
  | nil => exact ⟨"", rfl⟩
  | cons c cs ih =>
    rw [List.flatMap_cons, List.flatMap_append]
    refine Bytes.IsText.append ?_ ih
    rcases Bytes.utf8EncodeChar_cases c with ⟨hascii, hbyte⟩ | hhigh
    · refine Bytes.isText_of_ascii fun x hx => ?_
      rw [hbyte, List.flatMap_singleton] at hx
      refine escapeByte_ascii ?_ x hx
      rw [UInt8.lt_iff_toNat_lt, UInt8.toNat_ofNat']
      change c.toNat % 256 < 128
      omega
    · have hself : (String.utf8EncodeChar c).flatMap escapeByte = String.utf8EncodeChar c :=
        flatMap_escapeByte_of_le hhigh
      rw [hself]
      exact ⟨String.ofList [c], by rw [Bytes.ofText_ofList]; simp⟩

theorem isText_writeText (s : String) : Bytes.IsText (writeText s) :=
  ((isText_escaped s).append (Bytes.isText_of_ascii (by simp))).cons (by decide)

/-! ## Reading a text -/

theorem hexValue?_lowerHexDigit {n : UInt8} (h : n < 16) :
    Bytes.hexValue? (Bytes.lowerHexDigit n) = some n := by
  have table : ∀ n < 16, Bytes.hexValue? (Bytes.lowerHexDigit (UInt8.ofNat n)) =
      some (UInt8.ofNat n) := by decide
  simpa using table n.toNat (by simpa [UInt8.lt_iff_toNat_lt] using h)

theorem encodePoint_of_lt {n : Nat} (h : n < 32) : encodePoint n = [UInt8.ofNat n] := by
  have table : ∀ n < 32, encodePoint n = [UInt8.ofNat n] := by decide
  exact table n h

theorem textBytes_backslash {bs x rest : Bytes} (h : escape bs = .ok (x, rest)) :
    textBytes (92 :: bs) = (textBytes rest).map fun (read, rest) => (x ++ read, rest) := by
  rw [textBytes, if_neg (by decide), if_pos rfl]
  split
  case h_1 f hf => rw [h] at hf; cases hf
  case h_2 y rest' hy =>
    rw [h] at hy
    cases hy
    cases textBytes rest <;> rfl

theorem escape_numbered {b : UInt8} (h : b < 32) (bs : Bytes) :
    escape (117 :: 48 :: 48 :: Bytes.lowerHexDigit (b / 16) :: Bytes.lowerHexDigit (b % 16) :: bs) =
      .ok ([b], bs) := by
  have hb : b.toNat < 32 := by simpa [UInt8.lt_iff_toNat_lt] using h
  have hhigh : b / 16 < 16 := by
    rw [UInt8.lt_iff_toNat_lt, UInt8.toNat_div]
    change b.toNat / 16 < 16
    omega
  have hlow : b % 16 < 16 := by
    rw [UInt8.lt_iff_toNat_lt, UInt8.toNat_mod]
    change b.toNat % 16 < 16
    omega
  have hnumber : (b / 16).toNat * 16 + (b % 16).toNat = b.toNat := by
    rw [UInt8.toNat_div, UInt8.toNat_mod]
    change b.toNat / 16 * 16 + b.toNat % 16 = b.toNat
    omega
  have hfour : hexFour
      (48 :: 48 :: Bytes.lowerHexDigit (b / 16) :: Bytes.lowerHexDigit (b % 16) :: bs) =
        .ok (b.toNat, bs) := by
    rw [hexFour, hexValue?_lowerHexDigit hhigh, hexValue?_lowerHexDigit hlow,
      show Bytes.hexValue? 48 = some 0 by decide]
    simp only [UInt8.toNat_zero, Nat.zero_mul, Nat.zero_add, hnumber]
  rw [escape, show shortEscape? 117 = none by decide]
  simp only [if_true, numberedEscape, hfour]
  rw [if_neg (by omega), if_neg (by omega), encodePoint_of_lt hb, UInt8.ofNat_toNat]

theorem textBytes_escapeByte (b : UInt8) (bs : Bytes) :
    textBytes (escapeByte b ++ bs) =
      (textBytes bs).map fun (read, rest) => (b :: read, rest) := by
  have short (e x : UInt8) (he : shortEscape? e = some x) :
      textBytes (92 :: e :: bs) = (textBytes bs).map fun (read, rest) => (x :: read, rest) :=
    textBytes_backslash (x := [x]) (by rw [escape, he])
  unfold escapeByte
  split_ifs with h1 h2 h3 h4 h5 h6 h7 h8
  · exact short 34 b (by rw [h1]; rfl)
  · exact short 92 b (by rw [h2]; rfl)
  · exact short 98 b (by rw [h3]; rfl)
  · exact short 116 b (by rw [h4]; rfl)
  · exact short 110 b (by rw [h5]; rfl)
  · exact short 102 b (by rw [h6]; rfl)
  · exact short 114 b (by rw [h7]; rfl)
  · exact textBytes_backslash (escape_numbered h8 bs)
  · rw [List.singleton_append, textBytes, if_neg h1, if_neg h2, if_neg h8]
    cases textBytes bs <;> rfl

/-- Reading undoes the writing of bytes, up to the closing quote. -/
theorem textBytes_escaped (bs rest : Bytes) :
    textBytes (bs.flatMap escapeByte ++ 34 :: rest) = .ok (bs, rest) := by
  induction bs with
  | nil => simp [textBytes]
  | cons b bs ih => rw [List.flatMap_cons, List.append_assoc, textBytes_escapeByte, ih]; rfl

theorem readText_escaped (s : String) (rest : Bytes) :
    readText ((Bytes.ofText s).flatMap escapeByte ++ 34 :: rest) = .ok (s, rest) := by
  rw [readText, textBytes_escaped]
  simp

theorem skipSpace_quote (bs : Bytes) : skipSpace (34 :: bs) = 34 :: bs := rfl

theorem skipSpace_writeText (s : String) (rest : Bytes) :
    skipSpace (writeText s ++ rest) =
      34 :: ((Bytes.ofText s).flatMap escapeByte ++ 34 :: rest) := by
  rw [writeText, List.cons_append, skipSpace_quote, List.append_assoc, List.singleton_append]

theorem textValue_writeText (s : String) (rest : Bytes) :
    textValue (writeText s ++ rest) = .ok (s, rest) := by
  rw [textValue, skipSpace_writeText]
  exact readText_escaped s rest

end Json

end SignIn
