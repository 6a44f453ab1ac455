import SignIn.Proofs.Domain.Blanks
import SignIn.Proofs.Url.Site

/-!
# A host has no blanks at its ends

A character that stands in a text as itself is found again in the text that its bytes spell, so a
name with a blank or a control is none, even where other characters are percent-encoded. With the
brackets of an address and the digits of a port this keeps blanks away from both ends of a host with
its port.
-/

namespace SignIn

open Text Domain

/-! ## Characters among bytes -/

theorem Bytes.length_ofText (s : String) : (ofText s).length = s.utf8ByteSize := by
  simp [ofText]

theorem Bytes.exists_of_text? {first second : Bytes} {c : Char} {s : String}
    (h : text? (first ++ String.utf8EncodeChar c ++ second) = some s) :
    ∃ before after, s = before ++ after ∧ ofText before = first ∧
      ofText after = String.utf8EncodeChar c ++ second := by
  have hbytes := ofText_of_text? h
  rw [List.append_assoc] at hbytes
  have hlength : s.utf8ByteSize = first.length + (String.utf8EncodeChar c ++ second).length := by
    rw [← length_ofText, hbytes, List.length_append]
  have hpos : 0 < (String.utf8EncodeChar c).length :=
    List.length_pos_of_ne_nil String.utf8EncodeChar_ne_nil
  rw [List.length_append] at hlength
  have hvalid : (⟨first.length⟩ : String.Pos.Raw).IsValid s := by
    rw [String.Pos.Raw.isValid_iff_isUTF8FirstByte]
    right
    have hlt : (⟨first.length⟩ : String.Pos.Raw) < s.rawEndPos := by
      rw [String.Pos.Raw.lt_iff]
      change first.length < s.utf8ByteSize
      omega
    refine ⟨hlt, ?_⟩
    have hbyte : s.getUTF8Byte ⟨first.length⟩ hlt = (String.utf8EncodeChar c)[0] := by
      have hget : (ofText s)[first.length]? = some (String.utf8EncodeChar c)[0] := by
        rw [hbytes, List.getElem?_append_right (Nat.le_refl _), Nat.sub_self,
          List.getElem?_append_left hpos, List.getElem?_eq_getElem hpos]
      obtain ⟨_, hget⟩ := List.getElem?_eq_some_iff.mp hget
      rw [← hget]
      rfl
    rw [hbyte]
    exact UInt8.isUTF8FirstByte_getElem_zero_utf8EncodeChar
  obtain ⟨before, after, rfl, hbefore⟩ := String.Pos.Raw.isValid_iff_exists_append.mp hvalid
  rw [ofText_append] at hbytes
  have hsize : (ofText before).length = first.length := by
    rw [length_ofText]
    exact (congrArg String.Pos.Raw.byteIdx hbefore).symm
  obtain ⟨hfirst, hrest⟩ := List.append_inj hbytes hsize
  exact ⟨before, after, rfl, hfirst, hrest⟩

theorem Bytes.eq_of_utf8EncodeChar_append {c d : Char} {first second : Bytes}
    (h : String.utf8EncodeChar c ++ first = String.utf8EncodeChar d ++ second) : c = d := by
  have hdecode := congrArg (fun bs : List UInt8 => bs.toByteArray.utf8DecodeChar? 0) h
  simp only [List.toByteArray_append, ByteArray.utf8DecodeChar?_utf8EncodeChar_append] at hdecode
  exact Option.some.inj hdecode

/-- A character whose bytes stand among those of a text stands in the text. -/
theorem Bytes.mem_of_text? {first second : Bytes} {c : Char} {s : String}
    (h : text? (first ++ String.utf8EncodeChar c ++ second) = some s) : c ∈ s.toList := by
  obtain ⟨before, after, rfl, -, hafter⟩ := exists_of_text? h
  rw [String.toList_append]
  apply List.mem_append_right
  rw [← String.ofList_toList (s := after), ofText_ofList] at hafter
  cases hchars : after.toList with
  | nil =>
    rw [hchars] at hafter
    exact absurd (List.append_eq_nil_iff.mp hafter.symm).1 String.utf8EncodeChar_ne_nil
  | cons d ds =>
    rw [hchars, List.flatMap_cons] at hafter
    rw [eq_of_utf8EncodeChar_append hafter]
    exact List.mem_cons_self

namespace Url

theorem percentDecode_percent {cs : List Char}
    (h : ∀ a b rest, cs = a :: b :: rest → hexChar? a = none ∨ hexChar? b = none) :
    percentDecode ('%' :: cs) = 37 :: percentDecode cs := by
  rcases cs with _ | ⟨a, _ | ⟨b, rest⟩⟩
  · rfl
  · rfl
  · rw [percentDecode]
    rcases h a b rest rfl with ha | hb
    · rw [ha]
    · rw [hb]
      cases hexChar? a <;> rfl

/-- A character that is no part of a percent-encoded byte is decoded to its own bytes. -/
theorem percentDecode_append_cons {c : Char} (hpercent : c ≠ '%') (hdigit : hexChar? c = none)
    (before after : List Char) :
    percentDecode (before ++ c :: after) =
      percentDecode before ++ charBytes c ++ percentDecode after := by
  fun_induction percentDecode before with
  | case1 => simp [percentDecode_cons_of_ne hpercent]
  | case2 a b cs hi lo hb ha ih => simp [percentDecode, ha, hb, ih]
  | case3 a b cs hnot ih =>
    rw [List.cons_append, List.cons_append, List.cons_append, percentDecode_percent]
    · rw [← List.cons_append, ← List.cons_append, ih]
      rfl
    · intro a' b' rest hrest
      cases hrest
      cases ha : hexChar? a with
      | none => exact .inl rfl
      | some hi =>
        cases hb : hexChar? b with
        | none => exact .inr rfl
        | some lo => exact (hnot hi lo ha hb).elim
  | case4 d cs hnot ih =>
    by_cases hd : d = '%'
    · subst hd
      rw [List.cons_append, percentDecode_percent, ih]
      · rfl
      · intro a b rest hrest
        rcases cs with _ | ⟨a', _ | ⟨b', cs⟩⟩
        · cases hrest
          exact .inl hdigit
        · cases hrest
          exact .inr hdigit
        · exact (hnot a' b' cs rfl rfl).elim
    · rw [List.cons_append, percentDecode_cons_of_ne hd, ih]
      simp

/-! ## Hosts -/

theorem ne_of_isStray {c d : Char} (h : isStray c) (hd : isStray d = false) : c ≠ d := by
  rintro rfl
  simp [hd] at h

theorem isStray_of_isDigit {c : Char} (h : c.isDigit) : isStray c = false :=
  forall_below (P := fun c => c.isDigit → isStray c = false) (by decide +kernel)
    (digit_range h).2 h

theorem hexChar?_of_isStray {c : Char} (h : isStray c) : hexChar? c = none := by
  by_cases hc : c.toNat < 128
  · exact forall_below (P := fun c => isStray c → hexChar? c = none) (by decide +kernel) hc h
  · exact if_neg hc

theorem not_isStray_of_special {before after : List Char} {c : Char} {host : Host}
    (hbracket : (before ++ c :: after).head? ≠ some '[')
    (h : Host.special (before ++ c :: after) = .ok host) : isStray c = false := by
  by_contra hfails
  rw [Bool.not_eq_false] at hfails
  have hpercent : c ≠ '%' := ne_of_isStray hfails (by decide)
  unfold Host.special at h
  rw [if_neg hbracket,
    percentDecode_append_cons hpercent (hexChar?_of_isStray hfails)] at h
  cases hname : (Bytes.text? (percentDecode before ++ charBytes c ++ percentDecode after)).bind
      fun s => Domain.toAscii? s.toList with
  | none =>
    rw [hname] at h
    cases h
  | some ascii =>
    obtain ⟨name, htext, hascii⟩ := Option.bind_eq_some_iff.mp hname
    have hnone := Domain.not_isStray_of_toAscii? hascii (Bytes.mem_of_text? htext)
    simp [hfails] at hnone

theorem head_of_special {cs : List Char} {c : Char} {host : Host}
    (h : Host.special (c :: cs) = .ok host) : isStray c = false := by
  by_cases hc : c = '['
  · subst hc
    decide
  · have hplain : ([] ++ c :: cs).head? ≠ some '[' := by simpa using hc
    exact not_isStray_of_special hplain h

theorem getLast_of_special {cs : List Char} {c : Char} {host : Host}
    (h : Host.special (cs ++ [c]) = .ok host) : isStray c = false := by
  by_cases hbracket : (cs ++ [c]).head? = some '['
  · unfold Host.special Host.bracketed at h
    rw [if_pos hbracket, List.getLast?_concat] at h
    split at h
    · next hclose =>
      obtain rfl := Option.some.inj hclose
      decide
    · cases h
  · exact not_isStray_of_special hbracket h

/-! ## Hosts with a port -/

/-- A host with its port has a character at either end that is neither a blank nor a control. -/
theorem ends_of_readSite {site : List Char} {host : Host} {port : Option UInt16}
    (hback : ∀ c ∈ site, c ≠ '\\') (h : readSite site = .ok (host, port)) :
    (∀ c, site.head? = some c → isStray c = false) ∧
      ∀ c, site.getLast? = some c → isStray c = false := by
  obtain ⟨first, cs, portChars, hsplit, hhost, hport⟩ := exists_of_readSite h
  cases portChars with
  | none =>
    obtain rfl := splitPort_none hsplit
    constructor
    · rintro c hc
      cases hc
      exact head_of_special hhost
    · intro c hc
      obtain ⟨before, hbefore⟩ := List.getLast?_eq_some_iff.mp hc
      rw [hbefore] at hhost
      exact getLast_of_special hhost
  | some text =>
    obtain ⟨rest, hport⟩ := hport text rfl
    obtain rfl := splitPort_some hsplit
    constructor
    · intro c hc
      cases hc
      exact head_of_special hhost
    · intro c hc
      rw [List.getLast?_append_of_ne_nil _ (List.cons_ne_nil _ _), List.getLast?_cons] at hc
      cases hlast : text.getLast? with
      | none =>
        rw [hlast] at hc
        cases hc
        decide
      | some d =>
        rw [hlast] at hc
        cases hc
        have hplain : ∀ d ∈ text, d ≠ '\\' := by
          intro d hd
          apply hback
          simp [hd]
        exact isStray_of_isDigit
          ((isDigit_of_readPort hplain hport).1 d (List.mem_of_getLast? hlast))

end Url

end SignIn
