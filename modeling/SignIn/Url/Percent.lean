import SignIn.Text.Bytes

/-!
# Percent encoding

A byte is written as a percent sign and two digits. Each part of a URL has its own set of
characters that have to be written so; characters beyond ASCII always are, byte by byte of
their UTF-8 form.
-/

namespace SignIn.Url

def percentByte (b : UInt8) : List Char :=
  ['%', Char.ofNat (Bytes.upperHexDigit (b / 16)).toNat,
    Char.ofNat (Bytes.upperHexDigit (b % 16)).toNat]

def charBytes (c : Char) : Bytes := String.utf8EncodeChar c

/-- The characters with those of a set, and all beyond ASCII, percent-encoded. -/
def percentEncode (inSet : Char → Bool) (cs : List Char) : List Char :=
  cs.flatMap fun c =>
    if c.toNat ≥ 128 || inSet c then (charBytes c).flatMap percentByte else [c]

def hexChar? (c : Char) : Option UInt8 :=
  if c.toNat < 128 then Bytes.hexValue? (UInt8.ofNat c.toNat) else none

/-- The bytes of a text whose percent signs with two digits are resolved. -/
def percentDecode : List Char → Bytes
  | [] => []
  | '%' :: a :: b :: cs =>
    match hexChar? a, hexChar? b with
    | some hi, some lo => (hi * 16 + lo) :: percentDecode cs
    | _, _ => 37 :: percentDecode (a :: b :: cs)
  | c :: cs => charBytes c ++ percentDecode cs

def controlSet (c : Char) : Bool := c.toNat < 32 || c.toNat == 127

def fragmentSet (c : Char) : Bool :=
  controlSet c || [' ', '"', '<', '>', '\x60'].contains c

def querySet (c : Char) : Bool := controlSet c || [' ', '"', '#', '<', '>'].contains c

/-- Characters encoded in the query of a special scheme. -/
def specialQuerySet (c : Char) : Bool := querySet c || c == '\x27'

def pathSet (c : Char) : Bool := fragmentSet c || ['#', '?', '\x7b', '\x7d'].contains c

def userinfoSet (c : Char) : Bool :=
  pathSet c || ['/', ':', ';', '=', '@', '[', '\\', ']', '^', '|'].contains c

end SignIn.Url
