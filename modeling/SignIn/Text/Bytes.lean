/-!
# Bytes and the texts they spell

A byte string is a list of bytes. A text has one byte form, its UTF-8 form, and a byte string
spells at most one text. Bytes that spell no text are still readable in a lossy way: every
longest part that could have begun a character is replaced by U+FFFD.
-/

namespace SignIn

abbrev Bytes := List UInt8

namespace Bytes

def ofText (s : String) : Bytes := s.toByteArray.data.toList

/-- The text that the bytes spell, if they are UTF-8. -/
def text? (bs : Bytes) : Option String := String.fromUTF8? ⟨bs.toArray⟩

@[simp] theorem text?_ofText (s : String) : text? (ofText s) = some s := by
  have h : (⟨(ofText s).toArray⟩ : ByteArray) = s.toByteArray := by simp [ofText]
  unfold text? String.fromUTF8?
  rw [h]
  simp [s.isValidUTF8, String.fromUTF8]

theorem ofText_injective {s t : String} (h : ofText s = ofText t) : s = t := by
  have := congrArg text? h
  simpa using this

theorem ofText_of_text? {bs : Bytes} {s : String} (h : text? bs = some s) : ofText s = bs := by
  unfold text? String.fromUTF8? at h
  split at h
  · cases h
    simp [ofText, String.fromUTF8]
  · cases h

theorem ofText_append (s t : String) : ofText (s ++ t) = ofText s ++ ofText t := by
  simp [ofText, String.toByteArray_append]

theorem ofText_ofList (cs : List Char) :
    ofText (String.ofList cs) = cs.flatMap String.utf8EncodeChar := by
  simp [ofText, String.toByteArray_ofList, List.utf8Encode]

/-- The bytes of a character are one ASCII byte, or none of them is ASCII. -/
theorem utf8EncodeChar_cases (c : Char) :
    c.toNat < 128 ∧ String.utf8EncodeChar c = [UInt8.ofNat c.toNat] ∨
      ∀ b ∈ String.utf8EncodeChar c, 128 ≤ b := by
  by_cases hc : c.val.toNat ≤ 127
  · left
    refine ⟨Nat.lt_succ_of_le hc, ?_⟩
    simp only [String.utf8EncodeChar, hc, if_true]
    rfl
  · right
    intro b hb
    simp only [String.utf8EncodeChar, hc, if_false] at hb
    split at hb
    all_goals try split at hb
    all_goals
      simp only [List.mem_cons, List.not_mem_nil, or_false] at hb
      rw [UInt8.le_iff_toNat_le]
      rcases hb with rfl | rfl | rfl | rfl <;> simp <;> omega
/-- The bytes that may follow a lead byte, as one range for each, and none where the byte
leads no character. -/
def followers (lead : UInt8) : Option (List (UInt8 × UInt8)) :=
  let any : UInt8 × UInt8 := (0x80, 0xBF)
  if lead < 0x80 then some []
  else if lead < 0xC2 then none
  else if lead < 0xE0 then some [any]
  else if lead = 0xE0 then some [(0xA0, 0xBF), any]
  else if lead = 0xED then some [(0x80, 0x9F), any]
  else if lead < 0xF0 then some [any, any]
  else if lead = 0xF0 then some [(0x90, 0xBF), any, any]
  else if lead < 0xF4 then some [any, any, any]
  else if lead = 0xF4 then some [(0x80, 0x8F), any, any]
  else none

/-- Takes one byte for each range while the bytes keep to them. Gives the bytes taken,
what is left, and whether every range was met. -/
def takeRanges : List (UInt8 × UInt8) → Bytes → Bytes × Bytes × Bool
  | [], bs => ([], bs, true)
  | _ :: _, [] => ([], [], false)
  | (lo, hi) :: rs, b :: bs =>
    if lo ≤ b ∧ b ≤ hi then
      let step := takeRanges rs bs
      (b :: step.1, step.2)
    else ([], b :: bs, false)

theorem length_takeRanges (rs : List (UInt8 × UInt8)) (bs : Bytes) :
    (takeRanges rs bs).2.1.length ≤ bs.length := by
  induction rs generalizing bs with
  | nil => simp [takeRanges]
  | cons r rs ih =>
    cases bs with
    | nil => simp [takeRanges]
    | cons b bs =>
      simp only [takeRanges]
      split
      · exact Nat.le_succ_of_le (ih bs)
      · simp

/-- The bytes with every part that spells no character replaced by the bytes of U+FFFD. -/
def repair (bs : Bytes) : Bytes :=
  match bs with
  | [] => []
  | b :: rest =>
    match followers b with
    | none => 0xEF :: 0xBF :: 0xBD :: repair rest
    | some rs =>
      have := length_takeRanges rs rest
      let step := takeRanges rs rest
      if step.2.2 then b :: step.1 ++ repair step.2.1
      else 0xEF :: 0xBF :: 0xBD :: repair step.2.1
termination_by bs.length
decreasing_by
  · simp
  · simp only [List.length_cons]
    omega
  · simp only [List.length_cons]
    omega

/-- The text of bytes that need not be UTF-8: the text they spell, or the text of their
repair. -/
def lossyText (bs : Bytes) : String :=
  match text? bs with
  | some s => s
  | none => (text? (repair bs)).getD ""

@[simp] theorem lossyText_ofText (s : String) : lossyText (ofText s) = s := by
  simp [lossyText]

def lowerHexDigit (n : UInt8) : UInt8 := if n < 10 then 48 + n else 87 + n

def upperHexDigit (n : UInt8) : UInt8 := if n < 10 then 48 + n else 55 + n

/-- The number below sixteen that a digit stands for, in either case. -/
def hexValue? (b : UInt8) : Option UInt8 :=
  if 48 ≤ b ∧ b ≤ 57 then some (b - 48)
  else if 65 ≤ b ∧ b ≤ 70 then some (b - 55)
  else if 97 ≤ b ∧ b ≤ 102 then some (b - 87)
  else none

def toHex (bs : Bytes) : Bytes :=
  bs.flatMap fun b => [lowerHexDigit (b / 16), lowerHexDigit (b % 16)]

def ofHex? : Bytes → Option Bytes
  | [] => some []
  | a :: b :: rest => do
    let hi ← hexValue? a
    let lo ← hexValue? b
    return (hi * 16 + lo) :: (← ofHex? rest)
  | [_] => none

def decimal (n : Nat) : Bytes :=
  if n < 10 then [UInt8.ofNat (48 + n)]
  else decimal (n / 10) ++ [UInt8.ofNat (48 + n % 10)]

/-- The decimal digits of an integer, after a minus sign if it is negative. -/
def integer : Int → Bytes
  | .ofNat n => decimal n
  | .negSucc n => 45 :: decimal (n + 1)

end Bytes

end SignIn
