import SignIn.Text.Bytes

/-!
# Comparing secrets

Two secrets are compared without stopping at the first difference: the differences of all bytes
are gathered, and the secrets are the same if nothing was gathered.
-/

namespace SignIn.Text

/-- The bits in which bytes at the same place differ, gathered over all places that both have. -/
def gatherDifferences (a b : Bytes) : UInt8 :=
  (a.zip b).foldl (fun acc p => acc ||| (p.1 ^^^ p.2)) 0

def sameSecret (a b : String) : Bool :=
  let a := Bytes.ofText a
  let b := Bytes.ofText b
  if a.length = b.length then gatherDifferences a b == 0 else false

end SignIn.Text
