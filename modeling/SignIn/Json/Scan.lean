import SignIn.Json.Fault
import SignIn.Json.Value

/-!
# Words, texts and numbers of a JSON text

Each reader takes the bytes that are left and gives what it read with the bytes after it, or a
fault with the bytes that were left when it was noticed.
-/

namespace SignIn.Json

/-- What a reader of `α` gives. -/
abbrev Outcome (α : Type) := Except Fault (α × Bytes)

def isSpace (b : UInt8) : Bool := b == 32 || b == 10 || b == 9 || b == 13

/-- The bytes from the next token on. -/
def skipSpace (bs : Bytes) : Bytes := bs.dropWhile isSpace

def isDigit (b : UInt8) : Bool := 48 ≤ b && b ≤ 57

def readWord : Bytes → Bytes → Except Fault Bytes
  | [], s => .ok s
  | _ :: _, [] => .error ⟨.endInValue, []⟩
  | e :: es, b :: s => if b = e then readWord es s else .error ⟨.wordExpected, s⟩

/-! ## Texts -/

/-- The UTF-8 form of a code point below U+110000 that is no surrogate. -/
def encodePoint (n : Nat) : Bytes := Bytes.ofText (String.singleton (Char.ofNat n))

def hexFour (bs : Bytes) : Except Fault (Nat × Bytes) :=
  match bs with
  | a :: b :: c :: d :: rest =>
    match Bytes.hexValue? a, Bytes.hexValue? b, Bytes.hexValue? c, Bytes.hexValue? d with
    | some a, some b, some c, some d =>
      .ok (a.toNat * 4096 + b.toNat * 256 + c.toNat * 16 + d.toNat, rest)
    | _, _, _, _ => .error ⟨.badEscape, rest⟩
  | _ => .error ⟨.endInText, []⟩

/-- The second half of a pair of surrogates, after the first. -/
def lowSurrogate (high : Nat) (bs : Bytes) : Except Fault (Bytes × Bytes) :=
  match bs with
  | [] => .error ⟨.endInText, []⟩
  | 92 :: [] => .error ⟨.endInText, []⟩
  | 92 :: 117 :: rest =>
    match hexFour rest with
    | .error f => .error f
    | .ok (low, rest) =>
      if 0xDC00 ≤ low ∧ low ≤ 0xDFFF then
        .ok (encodePoint (0x10000 + (high - 0xD800) * 0x400 + (low - 0xDC00)), rest)
      else .error ⟨.loneSurrogate, rest⟩
  | 92 :: _ :: rest => .error ⟨.cutEscape, rest⟩
  | _ :: rest => .error ⟨.cutEscape, rest⟩

def shortEscape? (e : UInt8) : Option UInt8 :=
  if e = 34 ∨ e = 92 ∨ e = 47 then some e
  else if e = 98 then some 8
  else if e = 102 then some 12
  else if e = 110 then some 10
  else if e = 114 then some 13
  else if e = 116 then some 9
  else none

/-- The bytes of the code point whose number follows, alone or as the first of two halves. -/
def numberedEscape (bs : Bytes) : Except Fault (Bytes × Bytes) :=
  match hexFour bs with
  | .error f => .error f
  | .ok (n, rest) =>
    if 0xDC00 ≤ n ∧ n ≤ 0xDFFF then .error ⟨.loneSurrogate, rest⟩
    else if 0xD800 ≤ n ∧ n ≤ 0xDBFF then lowSurrogate n rest
    else .ok (encodePoint n, rest)

/-- What a backslash escapes, as bytes. -/
def escape (bs : Bytes) : Except Fault (Bytes × Bytes) :=
  match bs with
  | [] => .error ⟨.endInText, []⟩
  | e :: rest =>
    match shortEscape? e with
    | some b => .ok ([b], rest)
    | none => if e = 117 then numberedEscape rest else .error ⟨.badEscape, rest⟩

theorem hexFour_length {bs rest : Bytes} {n : Nat} (h : hexFour bs = .ok (n, rest)) :
    rest.length < bs.length := by
  unfold hexFour at h
  split at h
  · split at h
    · cases h
      simp only [List.length_cons]
      omega
    · cases h
  · cases h

theorem lowSurrogate_length {high : Nat} {bs x rest : Bytes}
    (h : lowSurrogate high bs = .ok (x, rest)) : rest.length < bs.length := by
  unfold lowSurrogate at h
  split at h
  case h_3 =>
    split at h
    · exact absurd h (by simp)
    · rename_i h2
      have h3 := hexFour_length h2
      split at h
      · simp only [Except.ok.injEq, Prod.mk.injEq] at h
        obtain ⟨_, rfl⟩ := h
        exact Nat.lt_trans h3 (Nat.lt_succ_of_lt (Nat.lt_succ_self _))
      · exact absurd h (by simp)
  all_goals exact absurd h (by simp)

theorem numberedEscape_length {bs x rest : Bytes} (h : numberedEscape bs = .ok (x, rest)) :
    rest.length < bs.length := by
  unfold numberedEscape at h
  split at h
  · cases h
  · rename_i h2
    have h3 := hexFour_length h2
    split at h
    · cases h
    · split at h
      · exact Nat.lt_trans (lowSurrogate_length h) h3
      · simp only [Except.ok.injEq, Prod.mk.injEq] at h
        obtain ⟨_, rfl⟩ := h
        exact h3

theorem escape_length {bs x rest : Bytes} (h : escape bs = .ok (x, rest)) :
    rest.length < bs.length := by
  cases bs with
  | nil => cases h
  | cons e bs =>
    unfold escape at h
    dsimp only at h
    split at h
    · cases h
      exact Nat.lt_succ_self _
    · split at h
      · exact Nat.lt_succ_of_lt (numberedEscape_length h)
      · cases h

/-- The bytes of a text up to its closing quote, with escapes resolved. -/
def textBytes (bs : Bytes) : Except Fault (Bytes × Bytes) :=
  match bs with
  | [] => .error ⟨.endInText, []⟩
  | b :: rest =>
    if b = 34 then .ok ([], rest)
    else if b = 92 then
      match h : escape rest with
      | .error f => .error f
      | .ok (x, rest') =>
        have := escape_length h
        match textBytes rest' with
        | .error f => .error f
        | .ok (more, rest'') => .ok (x ++ more, rest'')
    else if b < 32 then .error ⟨.controlCharacter, rest⟩
    else
      match textBytes rest with
      | .error f => .error f
      | .ok (more, rest') => .ok (b :: more, rest')
termination_by bs.length

def readText (bs : Bytes) : Outcome String :=
  match textBytes bs with
  | .error f => .error f
  | .ok (raw, rest) =>
    match Bytes.text? raw with
    | some s => .ok (s, rest)
    | none => .error ⟨.badCodePoint, 34 :: rest⟩

/-! ## Numbers -/

def significandLimit : Nat := 0xFFFFFFFFFFFFFFFF

/-- A number being read: its significand, its exponent of ten, and whether every digit so far
went into the significand. -/
structure Digits where
  significand : Nat
  exponent : Int
  complete : Bool

/-- The significand with a digit more, if it stays below the limit. -/
def Digits.push? (d : Digits) (digit : UInt8) : Option Nat :=
  let n := d.significand * 10 + (digit.toNat - 48)
  if n ≤ significandLimit then some n else none

/-- A digit before the point: the first that does not fit and all after it only count towards
the exponent. -/
def Digits.whole (d : Digits) (digit : UInt8) : Digits :=
  match d.complete, d.push? digit with
  | true, some n => { d with significand := n }
  | _, _ => { d with exponent := d.exponent + 1, complete := false }

/-- A digit after the point: the first that does not fit and all after it are dropped. -/
def Digits.fraction (d : Digits) (digit : UInt8) : Digits :=
  match d.complete, d.push? digit with
  | true, some n => { d with significand := n, exponent := d.exponent - 1 }
  | _, _ => { d with complete := false }

def powerOfTen? (k : Nat) : Option Binary64 := Binary64.ofNat? (Nat.pow 10 k)

/-- A significand times a power of ten, one rounding for each factor. Powers below
`10 ^ -308` are divided out in steps; `fuel` bounds their number. -/
def scale? : Nat → Binary64 → Int → Option Binary64
  | fuel, f, e =>
    if e.natAbs ≤ 308 then
      (powerOfTen? e.natAbs).bind fun p => if 0 ≤ e then f.mul? p else f.div? p
    else if f.significand = 0 then some f
    else if 0 ≤ e then none
    else
      match fuel with
      | 0 => some ⟨f.negative, 0, Binary64.leastExponent⟩
      | fuel + 1 => ((powerOfTen? 308).bind f.div?).bind fun g => scale? fuel g (e + 308)

/-- The value of a number that was written with a point or an exponent, or with more digits than
fit. -/
def realNumber (positive : Bool) (d : Digits) (rest : Bytes) : Outcome Number :=
  match (Binary64.ofNat? d.significand).bind (scale? 4 · d.exponent) with
  | none => .error ⟨.numberTooLarge, rest⟩
  | some f => .ok (.real (if positive then f else f.neg), rest)

/-- The value of a number that was written with digits alone. -/
def wholeNumber (positive : Bool) (n : Nat) (rest : Bytes) : Outcome Number :=
  if positive then .ok (.whole n, rest)
  else if 0 < n ∧ n ≤ 0x8000000000000000 then .ok (.whole (-n), rest)
  else realNumber false ⟨n, 0, true⟩ rest

def exponentLimit : Nat := 0x7FFFFFFF

/-- The digits of an exponent after the first. Gives the exponent, or none from the digit on that
takes it beyond the limit. -/
def exponentDigits (acc : Nat) : Bytes → Option Nat × Bytes
  | [] => (some acc, [])
  | b :: rest =>
    if isDigit b then
      let n := acc * 10 + (b.toNat - 48)
      if n ≤ exponentLimit then exponentDigits n rest else (none, rest)
    else (some acc, b :: rest)

def exponentPart (positive : Bool) (d : Digits) (bs : Bytes) : Outcome Number :=
  let (up, bs) : Bool × Bytes :=
    match bs with
    | 43 :: rest => (true, rest)
    | 45 :: rest => (false, rest)
    | _ => (true, bs)
  match bs with
  | [] => .error ⟨.endInValue, []⟩
  | b :: rest =>
    if isDigit b then
      match exponentDigits (b.toNat - 48) rest with
      | (some n, rest) =>
        realNumber positive { d with exponent := if up then d.exponent + n else d.exponent - n }
          rest
      | (none, rest) =>
        if d.significand ≠ 0 ∧ up then .error ⟨.numberTooLarge, rest⟩
        else realNumber positive ⟨0, 0, true⟩ (rest.dropWhile isDigit)
    else .error ⟨.badNumber, rest⟩

def numberTail (positive : Bool) (d : Digits) (bs : Bytes) : Outcome Number :=
  match bs with
  | 46 :: rest =>
    let digits := rest.takeWhile isDigit
    let rest := rest.dropWhile isDigit
    if digits.isEmpty then
      if rest.isEmpty then .error (.next .endInValue rest) else .error (.next .badNumber rest)
    else
      let d := digits.foldl Digits.fraction { d with complete := true }
      match rest with
      | 101 :: rest => exponentPart positive d rest
      | 69 :: rest => exponentPart positive d rest
      | _ => realNumber positive d rest
  | 101 :: rest => exponentPart positive d rest
  | 69 :: rest => exponentPart positive d rest
  | _ => if d.complete then wholeNumber positive d.significand bs else realNumber positive d bs

/-- A number after its sign. -/
def readNumber (positive : Bool) (bs : Bytes) : Outcome Number :=
  match bs with
  | [] => .error ⟨.endInValue, []⟩
  | b :: rest =>
    if b = 48 then
      if rest.head?.any isDigit then .error (.next .badNumber rest)
      else numberTail positive ⟨0, 0, true⟩ rest
    else if isDigit b then
      numberTail positive ((bs.takeWhile isDigit).foldl Digits.whole ⟨0, 0, true⟩)
        (bs.dropWhile isDigit)
    else .error ⟨.badNumber, rest⟩

/-! ## Values that are passed over -/

/-- The rest after a text that is passed over: its escapes are looked at, its characters are
not. -/
def passText (bs : Bytes) : Except Fault Bytes :=
  match bs with
  | [] => .error ⟨.endInText, []⟩
  | 34 :: rest => .ok rest
  | 92 :: [] => .error ⟨.endInText, []⟩
  | 92 :: e :: rest =>
    if e = 117 then
      match h : hexFour rest with
      | .error f => .error f
      | .ok (_, rest') =>
        have := hexFour_length h
        passText rest'
    else if (shortEscape? e).isSome then passText rest
    else .error ⟨.badEscape, rest⟩
  | b :: rest => if b < 32 then .error ⟨.controlCharacter, b :: rest⟩ else passText rest
termination_by bs.length

/-- The rest after the digits of an exponent, from the byte after its letter. -/
def passExponent (bs : Bytes) : Except Fault Bytes :=
  let bs : Bytes :=
    match bs with
    | 43 :: rest => rest
    | 45 :: rest => rest
    | _ => bs
  match bs with
  | [] => .error ⟨.badNumber, []⟩
  | b :: rest =>
    if isDigit b then .ok (rest.dropWhile isDigit) else .error ⟨.badNumber, rest⟩

def passNumberTail (bs : Bytes) : Except Fault Bytes :=
  match bs with
  | 46 :: rest =>
    if rest.head?.any isDigit then
      match rest.dropWhile isDigit with
      | 101 :: rest => passExponent rest
      | 69 :: rest => passExponent rest
      | rest => .ok rest
    else .error (.next .badNumber rest)
  | 101 :: rest => passExponent rest
  | 69 :: rest => passExponent rest
  | _ => .ok bs

def passNumber (bs : Bytes) : Except Fault Bytes :=
  match bs with
  | [] => .error ⟨.badNumber, []⟩
  | b :: rest =>
    if b = 48 then
      if rest.head?.any isDigit then .error (.next .badNumber rest) else passNumberTail rest
    else if isDigit b then passNumberTail (rest.dropWhile isDigit)
    else .error ⟨.badNumber, rest⟩

end SignIn.Json
