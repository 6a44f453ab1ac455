import SignIn.Domain.MappingTable
import SignIn.Text.Composition

/-!
# Characters of domain names

Before a name is looked at, its characters are mapped: capitals are made small, wide forms narrow,
and what only guides the layout is left out. ASCII has small letters and nothing else to map. The
mapped name is composed.
-/

namespace SignIn.Domain

def excluded : List (Nat × Nat) := Text.readRanges excludedRanges

def omitted : List (Nat × Nat) := Text.readRanges omittedRanges

/-- The character that one in a run stands for. -/
def shifted? (c : Char) : Option Char :=
  (shiftedRuns.find? fun (lo, hi, step, _) =>
    decide (lo ≤ c.toNat ∧ c.toNat ≤ hi ∧ (c.toNat - lo) % step = 0)).map
    fun (_, _, _, distance) => Char.ofNat (c.toNat + distance).toNat

/-- The texts of consecutive characters, with the number of the first. -/
def mappedRows : List (Nat × List (List Char)) :=
  mappedTexts.map fun (first, texts) => (first, Text.splitWhere (· == '|') texts.toList)

/-- The text that a character of the table stands for. -/
def tabled? (c : Char) : Option (List Char) :=
  mappedRows.findSome? fun (first, texts) =>
    if c.toNat < first then none
    else texts[c.toNat - first]?.filter fun text => !text.isEmpty

/-- What a character of a name stands for; none where it may not stand in a name. -/
def mapChar (c : Char) : Option (List Char) :=
  if c.toNat < 128 then some [c.toLower]
  else if Text.inRanges excluded c then none
  else if Text.inRanges omitted c then some []
  else
    match shifted? c with
    | some d => some [d]
    | none => some ((tabled? c).getD [c])

def mapped? (name : List Char) : Option (List Char) := do
  return Text.composed (← name.mapM mapChar).flatten

end SignIn.Domain
