import Mathlib.Tactic.SplitIfs
import SignIn.Proofs.Text.Split
import SignIn.Url.Form

/-!
# What encoding leaves and what decoding brings back

Percent encoding leaves a text alone whose characters are all outside the set, and every text that
it writes is of this kind, since neither the percent sign nor a digit is in any of the sets. Pairs
in form encoding are read back as they were, behind whatever pairs stand before them.
-/

namespace SignIn.Url

open SignIn.Text

/-! ## Percent encoding -/

def percentDigits : List Char :=
  ['%', '0', '1', '2', '3', '4', '5', '6', '7', '8', '9', 'A', 'B', 'C', 'D', 'E', 'F']

/-- A text that encoding with a set leaves alone. -/
def Clean (inSet : Char → Bool) (cs : List Char) : Prop :=
  ∀ c ∈ cs, c.toNat < 128 ∧ inSet c = false

variable {inSet : Char → Bool}

theorem upperHexDigit_mem_percentDigits {n : UInt8} (h : n < 16) :
    Char.ofNat (Bytes.upperHexDigit n).toNat ∈ percentDigits := by
  have table : ∀ n < 16, Char.ofNat (Bytes.upperHexDigit (UInt8.ofNat n)).toNat ∈
      percentDigits := by decide
  simpa using table n.toNat (by simpa [UInt8.lt_iff_toNat_lt] using h)

theorem div_sixteen_lt (b : UInt8) : b / 16 < 16 := by
  have hb := b.toNat_lt
  rw [UInt8.lt_iff_toNat_lt, UInt8.toNat_div]
  change b.toNat / 16 < 16
  omega

theorem mod_sixteen_lt (b : UInt8) : b % 16 < 16 := by
  rw [UInt8.lt_iff_toNat_lt, UInt8.toNat_mod]
  change b.toNat % 16 < 16
  omega

theorem mem_percentDigits {b : UInt8} {c : Char} (h : c ∈ percentByte b) : c ∈ percentDigits := by
  simp only [percentByte, List.mem_cons, List.not_mem_nil, or_false] at h
  rcases h with rfl | rfl | rfl
  · decide
  · exact upperHexDigit_mem_percentDigits (div_sixteen_lt b)
  · exact upperHexDigit_mem_percentDigits (mod_sixteen_lt b)

theorem percentEncode_cons (c : Char) (cs : List Char) :
    percentEncode inSet (c :: cs) =
      (if c.toNat ≥ 128 || inSet c then (charBytes c).flatMap percentByte else [c]) ++
        percentEncode inSet cs := List.flatMap_cons

theorem percentEncode_of_clean {cs : List Char} (h : Clean inSet cs) :
    percentEncode inSet cs = cs := by
  induction cs with
  | nil => rfl
  | cons c cs ih =>
    have hc : ¬(c.toNat ≥ 128 || inSet c) = true := by
      obtain ⟨hascii, hset⟩ := h c (by simp)
      simp [hset, hascii]
    rw [percentEncode_cons, if_neg hc, ih fun d hd => h d (by simp [hd]), List.singleton_append]

theorem charBytes_ne_nil (c : Char) : charBytes c ≠ [] := by
  unfold charBytes String.utf8EncodeChar
  dsimp only
  split_ifs <;> simp

theorem percentEncode_ne_nil {cs : List Char} (h : cs ≠ []) : percentEncode inSet cs ≠ [] := by
  obtain ⟨c, cs, rfl⟩ := List.exists_cons_of_ne_nil h
  obtain ⟨b, bs, hbs⟩ := List.exists_cons_of_ne_nil (charBytes_ne_nil c)
  rw [percentEncode_cons, hbs]
  split_ifs <;> simp [percentByte]

/-- A property holds of all that is written if it holds of the digits and of what is left alone. -/
theorem forall_percentEncode {P : Char → Prop} {cs : List Char} (hdigits : ∀ c ∈ percentDigits, P c)
    (h : ∀ c ∈ cs, c.toNat < 128 → inSet c = false → P c) :
    ∀ c ∈ percentEncode inSet cs, P c := by
  intro c hc
  obtain ⟨d, hd, hc⟩ := List.mem_flatMap.1 hc
  split at hc
  · obtain ⟨b, -, hc⟩ := List.mem_flatMap.1 hc
    exact hdigits c (mem_percentDigits hc)
  · next hplain =>
    obtain rfl := List.mem_singleton.1 hc
    simp only [Bool.or_eq_true, decide_eq_true_eq, not_or, Bool.not_eq_true] at hplain
    exact h c hd (by omega) hplain.2

theorem clean_percentEncode (hdigits : ∀ c ∈ percentDigits, inSet c = false) (cs : List Char) :
    Clean inSet (percentEncode inSet cs) := by
  have hascii : ∀ c ∈ percentDigits, c.toNat < 128 := forall_of_all (by decide)
  exact forall_percentEncode (fun c hc => ⟨hascii c hc, hdigits c hc⟩) fun c _ hlow hset =>
    ⟨hlow, hset⟩

theorem Clean.append {cs ds : List Char} (hcs : Clean inSet cs) (hds : Clean inSet ds) :
    Clean inSet (cs ++ ds) := by
  intro c hc
  rcases List.mem_append.1 hc with hc | hc
  · exact hcs c hc
  · exact hds c hc

theorem Clean.ne {cs : List Char} (h : Clean inSet cs) {d : Char} (hd : inSet d = true) :
    ∀ c ∈ cs, c ≠ d := by
  rintro c hc rfl
  rw [(h c hc).2] at hd
  cases hd

theorem Clean.mono {wider : Char → Bool} {cs : List Char} (h : Clean wider cs)
    (hset : ∀ c, wider c = false → inSet c = false) : Clean inSet cs :=
  fun c hc => ⟨(h c hc).1, hset c (h c hc).2⟩

theorem controlSet_of_fragmentSet {c : Char} (h : fragmentSet c = false) :
    controlSet c = false := by
  rw [fragmentSet, Bool.or_eq_false_iff] at h
  exact h.1

theorem controlSet_of_pathSet {c : Char} (h : pathSet c = false) : controlSet c = false := by
  rw [pathSet, Bool.or_eq_false_iff] at h
  exact controlSet_of_fragmentSet h.1

theorem controlSet_of_querySet {c : Char} (h : querySet c = false) : controlSet c = false := by
  rw [querySet, Bool.or_eq_false_iff] at h
  exact h.1

theorem querySet_of_specialQuerySet {c : Char} (h : specialQuerySet c = false) :
    querySet c = false := by
  rw [specialQuerySet, Bool.or_eq_false_iff] at h
  exact h.1

/-! ## Percent decoding -/

theorem percentDecode_cons_of_ne {c : Char} (h : c ≠ '%') (cs : List Char) :
    percentDecode (c :: cs) = charBytes c ++ percentDecode cs := by
  rw [percentDecode]
  intro a b rest heq
  cases heq
  exact absurd rfl h

theorem percentDecode_of_forall_ne {cs : List Char} (h : ∀ c ∈ cs, c ≠ '%') :
    percentDecode cs = Bytes.ofText (String.ofList cs) := by
  rw [Bytes.ofText_ofList]
  induction cs with
  | nil => rfl
  | cons c cs ih =>
    rw [percentDecode_cons_of_ne (h c (by simp)), ih fun d hd => h d (by simp [hd])]
    rfl

theorem hexChar?_upperHexDigit {n : UInt8} (h : n < 16) :
    hexChar? (Char.ofNat (Bytes.upperHexDigit n).toNat) = some n := by
  have table : ∀ n < 16, hexChar? (Char.ofNat (Bytes.upperHexDigit (UInt8.ofNat n)).toNat) =
      some (UInt8.ofNat n) := by decide
  simpa using table n.toNat (by simpa [UInt8.lt_iff_toNat_lt] using h)

theorem percentDecode_percentByte (b : UInt8) (cs : List Char) :
    percentDecode (percentByte b ++ cs) = b :: percentDecode cs := by
  have hb : b / 16 * 16 + b % 16 = b := by
    apply UInt8.toNat_inj.1
    have hlt := b.toNat_lt
    rw [UInt8.toNat_add, UInt8.toNat_mul, UInt8.toNat_div, UInt8.toNat_mod]
    change (b.toNat / 16 * 16 % 256 + b.toNat % 16) % 256 = b.toNat
    omega
  simp only [percentByte, List.cons_append, List.nil_append, percentDecode,
    hexChar?_upperHexDigit (div_sixteen_lt b), hexChar?_upperHexDigit (mod_sixteen_lt b), hb]

end SignIn.Url

namespace SignIn.Form

open SignIn.Url SignIn.Text

/-! ## Names and values -/

/-- Whether a character can stand for bytes in a query: it needs no encoding and joins no pairs. -/
def isWritten (c : Char) : Bool :=
  c.toNat < 128 && !specialQuerySet c && c != '&' && c != '='

theorem isWritten_of_mem_encodeByte {b : UInt8} {c : Char} (h : c ∈ encodeByte b) :
    isWritten c := by
  have table : ∀ n < 256, (encodeByte (UInt8.ofNat n)).all isWritten := by decide +kernel
  have hall := table b.toNat b.toNat_lt
  rw [UInt8.ofNat_toNat] at hall
  exact List.all_eq_true.1 hall c h

theorem isWritten_of_mem_encode {bs : Bytes} {c : Char} (h : c ∈ encode bs) : isWritten c := by
  obtain ⟨b, -, hc⟩ := List.mem_flatMap.1 h
  exact isWritten_of_mem_encodeByte hc

theorem percentDecode_encodeByte (b : UInt8) (cs : List Char) :
    percentDecode (((encodeByte b).map fun c => if c = '+' then ' ' else c) ++ cs) =
      b :: percentDecode cs := by
  by_cases hb : plain b ∨ b = 32
  · have table : ∀ n < 256, plain (UInt8.ofNat n) ∨ UInt8.ofNat n = 32 →
        ∃ c, c ≠ '%' ∧ charBytes c = [UInt8.ofNat n] ∧
          ((encodeByte (UInt8.ofNat n)).map fun c => if c = '+' then ' ' else c) = [c] := by
      intro n hn _
      refine ⟨Char.ofNat n, ?_⟩
      revert n
      decide +kernel
    obtain ⟨c, hc, hbytes, hmap⟩ := table b.toNat b.toNat_lt (by simpa using hb)
    rw [UInt8.ofNat_toNat] at hbytes hmap
    rw [hmap, List.singleton_append, percentDecode_cons_of_ne hc, hbytes, List.singleton_append]
  · rw [not_or] at hb
    have hself : ((percentByte b).map fun c => if c = '+' then ' ' else c) = percentByte b := by
      have hne : ∀ c ∈ percentDigits, c ≠ '+' := forall_of_all (by decide)
      conv_rhs => rw [← List.map_id (percentByte b)]
      refine List.map_congr_left fun c hc => if_neg (hne c (mem_percentDigits hc))
    rw [encodeByte, if_neg hb.1, if_neg hb.2, hself, percentDecode_percentByte]

@[simp] theorem decode_encode (bs : Bytes) : decode (encode bs) = bs := by
  unfold decode
  induction bs with
  | nil => rfl
  | cons b bs ih =>
    have hcons : encode (b :: bs) = encodeByte b ++ encode bs := List.flatMap_cons
    rw [hcons, List.map_append, percentDecode_encodeByte, ih]

/-! ## Pairs -/

theorem encode_ne_sign {sign : Char} (hsign : isWritten sign = false) (bs : Bytes) :
    ∀ c ∈ encode bs, (c == sign) = false := by
  intro c hc
  have hwritten := isWritten_of_mem_encode hc
  rw [beq_eq_false_iff_ne]
  rintro rfl
  rw [hsign] at hwritten
  cases hwritten

theorem decodePair_encodePair (pair : String × String) : decodePair (encodePair pair) = pair := by
  unfold decodePair encodePair
  rw [cutAt_append_cons (encode_ne_sign rfl _) rfl]
  simp

theorem ampersand_notMem_encodePair (pair : String × String) :
    ∀ c ∈ encodePair pair, (c == '&') = false := by
  intro c hc
  rcases List.mem_append.1 hc with hc | hc
  · exact encode_ne_sign rfl _ c hc
  · rcases List.mem_cons.1 hc with rfl | hc
    · rfl
    · exact encode_ne_sign rfl _ c hc

theorem decodePairs_append (before after : List Char) :
    decodePairs (before ++ '&' :: after) = decodePairs before ++ decodePairs after := by
  unfold decodePairs
  rw [splitWhere_append_cons (p := (· == '&')) rfl, List.filter_append, List.map_append]

theorem decodePairs_encodePair (pair : String × String) :
    decodePairs (encodePair pair) = [pair] := by
  have hne : encodePair pair ≠ [] := by simp [encodePair]
  unfold decodePairs
  rw [splitWhere_of_forall (ampersand_notMem_encodePair pair),
    List.filter_cons_of_pos (by simp [hne]), List.filter_nil, List.map_singleton,
    decodePair_encodePair]

@[simp] theorem decodePairs_encodePairs (pairs : List (String × String)) :
    decodePairs (encodePairs pairs) = pairs := by
  induction pairs with
  | nil => rfl
  | cons pair pairs ih =>
    cases pairs with
    | nil => exact decodePairs_encodePair pair
    | cons next pairs =>
      rw [encodePairs, decodePairs_append, decodePairs_encodePair, ih, List.singleton_append]
      simp

/-- Pairs are written without a character of a query set. -/
theorem clean_encodePairs (pairs : List (String × String)) :
    Clean specialQuerySet (encodePairs pairs) := by
  have hencode : ∀ bs, Clean specialQuerySet (encode bs) := by
    intro bs c hc
    have hwritten := isWritten_of_mem_encode hc
    simp only [isWritten, Bool.and_eq_true, decide_eq_true_eq, Bool.not_eq_true'] at hwritten
    exact hwritten.1.1
  have hsign : ∀ sign, sign.toNat < 128 → specialQuerySet sign = false →
      Clean specialQuerySet [sign] := by
    intro sign hlow hset c hc
    obtain rfl := List.mem_singleton.1 hc
    exact ⟨hlow, hset⟩
  have hpair : ∀ pair, Clean specialQuerySet (encodePair pair) := fun pair =>
    (hencode _).append ((hsign '=' (by decide) rfl).append (hencode _))
  induction pairs with
  | nil =>
    intro c hc
    cases hc
  | cons pair pairs ih =>
    cases pairs with
    | nil => exact hpair pair
    | cons next pairs => exact (hpair pair).append ((hsign '&' (by decide) rfl).append ih)

end SignIn.Form
