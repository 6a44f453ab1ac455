import SignIn.Domain.Label

/-!
# Domain names in ASCII

A name is mapped, split into labels at its dots, and every label is written in ASCII.
-/

namespace SignIn.Domain

/-- ASCII characters that may not stand in a name. -/
def forbidden (c : Char) : Bool :=
  c.toNat ≤ 32 || c.toNat == 127 ||
    ['%', '#', '/', ':', '<', '>', '?', '@', '[', '\\', ']', '^', '|'].contains c

def labels? (name : List Char) : Option (List Label) :=
  (Text.splitWhere (· == '.') name).mapM Label.ofPart?

/-- A name in ASCII, or none where it is no domain name. -/
def toAscii? (name : List Char) : Option (List Char) := do
  let labels ← labels? (← mapped? name)
  if !directionsFit (labels.map (·.text)) then failure
  let ascii := (String.intercalate "." (labels.map fun l => String.ofList l.written)).toList
  if ascii.any forbidden then failure
  return ascii

end SignIn.Domain
