import SignIn.Text.Blank
import SignIn.Url.Percent

/-!
# Form encoding

Pairs of a name and a value as one text: pairs are joined by `&`, a name and its value by `=`,
a space is written as `+`, and every byte but letters, digits and `* - . _` is percent-encoded.
Reading a text gives the pairs of its parts that are not empty.
-/

namespace SignIn.Form

open SignIn.Url

def plain (b : UInt8) : Bool :=
  (48 ≤ b && b ≤ 57) || (65 ≤ b && b ≤ 90) || (97 ≤ b && b ≤ 122) ||
    b == 42 || b == 45 || b == 46 || b == 95

def encodeByte (b : UInt8) : List Char :=
  if plain b then [Char.ofNat b.toNat] else if b = 32 then ['+'] else percentByte b

def encode (bs : Bytes) : List Char := bs.flatMap encodeByte

def decode (cs : List Char) : Bytes := percentDecode (cs.map fun c => if c = '+' then ' ' else c)

def encodePair (pair : String × String) : List Char :=
  encode (Bytes.ofText pair.1) ++ '=' :: encode (Bytes.ofText pair.2)

def encodePairs : List (String × String) → List Char
  | [] => []
  | [p] => encodePair p
  | p :: ps => encodePair p ++ '&' :: encodePairs ps

/-- The pair of a part: without `=` the value is empty. -/
def decodePair (part : List Char) : String × String :=
  let (name, value) := Text.cutAt (· == '=') part
  (Bytes.lossyText (decode name), Bytes.lossyText (decode (value.getD [])))

def decodePairs (cs : List Char) : List (String × String) :=
  ((Text.splitWhere (· == '&') cs).filter (!·.isEmpty)).map decodePair

def first? (name : String) (pairs : List (String × String)) : Option String :=
  pairs.lookup name

end SignIn.Form
