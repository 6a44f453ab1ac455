import SignIn.Text.CombiningClasses
import SignIn.Text.Composites
import SignIn.Text.Ranges

/-!
# Composed texts

A text is composed by taking its characters apart, putting the marks behind each character in the
order of their combining classes, and joining what makes up a composite. Texts that differ only
in how their marks are written are composed to the same text.
-/

namespace SignIn.Text

def combiningClasses : List (Nat × List (Nat × Nat)) :=
  combiningRanges.map fun (k, rows) => (k, readRanges rows)

def combiningClass (c : Char) : Nat :=
  if c.toNat < 0x300 then 0
  else ((combiningClasses.find? fun e => inRanges e.2 c).map (·.1)).getD 0

/-- A character, a mark, and the composite of both. -/
abbrev Composite := Char × Char × Char

def readComposite (token : List Char) : Composite :=
  let (first, rest) := cutAt (· == '+') token
  let (mark, whole) := cutAt (· == '=') (rest.getD [])
  (Char.ofNat (hexDigits first), Char.ofNat (hexDigits mark),
    Char.ofNat (hexDigits (whole.getD [])))

def composites : List Composite :=
  compositeSums.flatMap fun row => (tokens row).map readComposite

/-! ## Syllables of Hangul -/

/-- The parts of a syllable: the number of the leading consonant, of the vowel, and of the
trailing consonant, which is 0 where there is none. -/
def syllableParts? (c : Char) : Option (Nat × Nat × Nat) :=
  let n := c.toNat
  if 0xAC00 ≤ n ∧ n < 0xAC00 + 11172 then
    let k := n - 0xAC00
    some (k / 588, k % 588 / 28, k % 28)
  else none

def syllable? (a b : Char) : Option Char :=
  let (m, n) := (a.toNat, b.toNat)
  if 0x1100 ≤ m ∧ m < 0x1113 ∧ 0x1161 ≤ n ∧ n < 0x1176 then
    some (Char.ofNat (0xAC00 + (m - 0x1100) * 588 + (n - 0x1161) * 28))
  else
    match syllableParts? a with
    | some (_, _, 0) =>
      if 0x11A8 ≤ n ∧ n < 0x11C3 then some (Char.ofNat (m + (n - 0x11A7))) else none
    | _ => none

/-! ## Taking apart and joining -/

/-- A character in two parts, or whole. -/
def partsOf (c : Char) : List Char :=
  match syllableParts? c with
  | some (l, v, t) =>
    [Char.ofNat (0x1100 + l), Char.ofNat (0x1161 + v)] ++
      if t = 0 then [] else [Char.ofNat (0x11A7 + t)]
  | none =>
    match composites.find? fun e => e.2.2 == c with
    | some (a, b, _) => [a, b]
    | none => [c]

/-- A text taken apart; no character has a composite within a composite more than three deep. -/
def takenApart (cs : List Char) : List Char :=
  (((cs.flatMap partsOf).flatMap partsOf).flatMap partsOf).flatMap partsOf

/-- Puts a character before a text, behind the marks of lower classes. -/
def putMark (c : Char) : List Char → List Char
  | [] => [c]
  | d :: cs =>
    if 0 < combiningClass d ∧ combiningClass d < combiningClass c then d :: putMark c cs
    else c :: d :: cs

def orderMarks : List Char → List Char
  | [] => []
  | c :: cs => putMark c (orderMarks cs)

def join? (a b : Char) : Option Char :=
  (syllable? a b).or ((composites.find? fun e => e.1 == a && e.2.1 == b).map (·.2.2))

/-- Joins a character with marks behind it. The marks that stand between are given last first. A
mark is reached if none of them has its class or a higher one. -/
def joinFrom (c : Char) (between : List Char) : List Char → List Char
  | [] => c :: between.reverse
  | d :: cs =>
    let reached := between.all fun m => combiningClass m < combiningClass d
    match if reached then join? c d else none with
    | some whole => joinFrom whole between cs
    | none =>
      if combiningClass d = 0 then c :: between.reverse ++ joinFrom d [] cs
      else joinFrom c (d :: between) cs

def joinMarks : List Char → List Char
  | [] => []
  | c :: cs => if combiningClass c = 0 then joinFrom c [] cs else c :: joinMarks cs

/-- The composed form of a text. ASCII is composed. -/
def composed (cs : List Char) : List Char :=
  if cs.all fun c => c.toNat < 128 then cs else joinMarks (orderMarks (takenApart cs))

end SignIn.Text
