/-!
# Blank characters

The characters with the Unicode property `White_Space`, and texts without the blanks at their
ends.
-/

namespace SignIn.Text

def blankRanges : List (Nat × Nat) :=
  [(0x09, 0x0D), (0x20, 0x20), (0x85, 0x85), (0xA0, 0xA0), (0x1680, 0x1680), (0x2000, 0x200A),
   (0x2028, 0x2029), (0x202F, 0x202F), (0x205F, 0x205F), (0x3000, 0x3000)]

/-- Whether a character has the property `White_Space`. -/
def isBlank (c : Char) : Bool :=
  blankRanges.any fun (lo, hi) => decide (lo ≤ c.toNat ∧ c.toNat ≤ hi)

/-- The list without what satisfies `p` at either end. -/
def stripEnds (p : Char → Bool) (cs : List Char) : List Char :=
  ((cs.dropWhile p).reverse.dropWhile p).reverse

def trim (s : String) : String := String.ofList (stripEnds isBlank s.toList)

def isBlankText (s : String) : Bool := s.toList.all isBlank

def lowerAscii (s : String) : String := String.ofList (s.toList.map Char.toLower)

/-- The parts of a list between the elements that satisfy `p`; never empty. -/
def splitWhere {α : Type} (p : α → Bool) : List α → List (List α)
  | [] => [[]]
  | c :: cs =>
    match p c, splitWhere p cs with
    | true, parts => [] :: parts
    | false, part :: parts => (c :: part) :: parts
    | false, [] => [[c]]

/-- The list up to the first element that satisfies `p`, and what follows that element if
there is one. -/
def cutAt {α : Type} (p : α → Bool) : List α → List α × Option (List α)
  | [] => ([], none)
  | c :: cs =>
    if p c then ([], some cs)
    else
      let (before, after) := cutAt p cs
      (c :: before, after)

end SignIn.Text
