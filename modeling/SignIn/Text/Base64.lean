import SignIn.Text.Bytes

/-!
# Base64

Three bytes are written as four digits of six bits. The two last digits of the alphabet and the
padding differ between uses.
-/

namespace SignIn.Text

/-- The two last digits of an alphabet, and whether the digits are padded to a multiple of
four. -/
structure Base64 where
  digit62 : Char
  digit63 : Char
  padded : Bool

namespace Base64

/-- The common alphabet, padded. -/
def standard : Base64 := ⟨'+', '/', true⟩

/-- The alphabet whose digits stand for themselves in a URL, without padding. -/
def forUrls : Base64 := ⟨'-', '_', false⟩

def digit (b : Base64) (n : Nat) : Char :=
  if n < 26 then Char.ofNat (65 + n)
  else if n < 52 then Char.ofNat (71 + n)
  else if n < 62 then Char.ofNat (n - 4)
  else if n = 62 then b.digit62
  else b.digit63

def padding (b : Base64) (n : Nat) : List Char := if b.padded then List.replicate n '=' else []

/-- Three bytes as four digits; two digits for one byte left over, three for two. -/
def encode (b : Base64) : Bytes → List Char
  | [] => []
  | [x] => [b.digit (x.toNat / 4), b.digit (x.toNat % 4 * 16)] ++ b.padding 2
  | [x, y] =>
    [b.digit (x.toNat / 4), b.digit (x.toNat % 4 * 16 + y.toNat / 16),
      b.digit (y.toNat % 16 * 4)] ++ b.padding 1
  | x :: y :: z :: rest =>
    b.digit (x.toNat / 4) :: b.digit (x.toNat % 4 * 16 + y.toNat / 16) ::
      b.digit (y.toNat % 16 * 4 + z.toNat / 64) :: b.digit (z.toNat % 64) :: b.encode rest

end Base64

end SignIn.Text
