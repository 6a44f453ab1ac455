import SignIn.Text.Blank

/-!
# Ranges of characters

Sets of characters are written as rows of ranges: a range is a hexadecimal number or two of them
with a dash between.
-/

namespace SignIn.Text

def hexDigits (cs : List Char) : Nat :=
  cs.foldl
    (fun n c => n * 16 + if c.isDigit then c.toNat - '0'.toNat else c.toNat - 'A'.toNat + 10) 0

def tokens (row : String) : List (List Char) := splitWhere (· == ' ') row.toList

/-- The first and the last number of a range. -/
def readRange (token : List Char) : Nat × Nat :=
  match cutAt (· == '-') token with
  | (lo, none) => (hexDigits lo, hexDigits lo)
  | (lo, some hi) => (hexDigits lo, hexDigits hi)

def readRanges (rows : List String) : List (Nat × Nat) :=
  rows.flatMap fun row => (tokens row).map readRange

def inRanges (ranges : List (Nat × Nat)) (c : Char) : Bool :=
  ranges.any fun (lo, hi) => decide (lo ≤ c.toNat ∧ c.toNat ≤ hi)

end SignIn.Text
