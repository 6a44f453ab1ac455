import SignIn.Text.Bytes
import SignIn.Text.Glyphless

/-!
# Quoted texts

A text between quotes as messages show it: quotes and backslashes are escaped, the common
controls have short names, and a character without a glyph of its own is shown by its number.
-/

namespace SignIn.Text

/-- The hexadecimal digits of a number, in lower case and without leading zeros. -/
def hexNumber (n : Nat) : List Char :=
  let digit : Char := Char.ofNat (Bytes.lowerHexDigit (UInt8.ofNat (n % 16))).toNat
  if n < 16 then [digit] else hexNumber (n / 16) ++ [digit]

def quotedChar (c : Char) : List Char :=
  if c = '\x00' then ['\\', '0']
  else if c = '\t' then ['\\', 't']
  else if c = '\r' then ['\\', 'r']
  else if c = '\n' then ['\\', 'n']
  else if c = '"' then ['\\', '"']
  else if c = '\\' then ['\\', '\\']
  else if isGlyphless c then ['\\', 'u', '\x7b'] ++ hexNumber c.toNat ++ ['\x7d']
  else [c]

def quoted (s : String) : String :=
  String.ofList ('"' :: (s.toList.flatMap quotedChar ++ ['"']))

end SignIn.Text
