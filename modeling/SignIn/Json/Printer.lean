import SignIn.Json.Value
import SignIn.Number.Shortest

/-!
# Writing JSON

Two layouts of one value: compact, without any space, and indented, two spaces a level with a
line for each item. In a text quotes, backslashes and controls are escaped and every other byte
stands for itself.
-/

namespace SignIn.Json

def escapeByte (b : UInt8) : Bytes :=
  if b = 34 then [92, 34]
  else if b = 92 then [92, 92]
  else if b = 8 then [92, 98]
  else if b = 9 then [92, 116]
  else if b = 10 then [92, 110]
  else if b = 12 then [92, 102]
  else if b = 13 then [92, 114]
  else if b < 32 then [92, 117, 48, 48, Bytes.lowerHexDigit (b / 16), Bytes.lowerHexDigit (b % 16)]
  else [b]

def writeText (s : String) : Bytes := 34 :: ((Bytes.ofText s).flatMap escapeByte ++ [34])

def writeNumber : Number → Bytes
  | .whole n => Bytes.integer n
  | .real x => x.text

def writeBool (b : Bool) : Bytes :=
  if b then [116, 114, 117, 101] else [102, 97, 108, 115, 101]

def writeNull : Bytes := [110, 117, 108, 108]

mutual

def compact : Json → Bytes
  | .null => writeNull
  | .bool b => writeBool b
  | .number n => writeNumber n
  | .text s => writeText s
  | .list [] => [91, 93]
  | .list (x :: xs) => 91 :: (compact x ++ compactItems xs)
  | .object [] => [123, 125]
  | .object ((k, x) :: ms) => 123 :: (writeText k ++ 58 :: (compact x ++ compactMembers ms))

/-- The items after the first and the bracket that closes the list. -/
def compactItems : List Json → Bytes
  | [] => [93]
  | x :: xs => 44 :: (compact x ++ compactItems xs)

/-- The members after the first and the brace that closes the object. -/
def compactMembers : List (String × Json) → Bytes
  | [] => [125]
  | (k, x) :: ms => 44 :: (writeText k ++ 58 :: (compact x ++ compactMembers ms))

end

/-- The start of a line at a level of nesting. -/
def newline (level : Nat) : Bytes := 10 :: List.replicate (2 * level) 32

mutual

/-- A value at a level of nesting, a line for each item. -/
def indented (level : Nat) : Json → Bytes
  | .null => writeNull
  | .bool b => writeBool b
  | .number n => writeNumber n
  | .text s => writeText s
  | .list [] => [91, 93]
  | .list (x :: xs) =>
    91 :: (newline (level + 1) ++ indented (level + 1) x ++ indentedItems level xs)
  | .object [] => [123, 125]
  | .object ((k, x) :: ms) =>
    123 :: (newline (level + 1) ++ writeText k ++ [58, 32] ++ indented (level + 1) x ++
      indentedMembers level ms)

/-- The items after the first of a list at a level, and the bracket that closes it. -/
def indentedItems (level : Nat) : List Json → Bytes
  | [] => newline level ++ [93]
  | x :: xs =>
    44 :: (newline (level + 1) ++ indented (level + 1) x ++ indentedItems level xs)

/-- The members after the first of an object at a level, and the brace that closes it. -/
def indentedMembers (level : Nat) : List (String × Json) → Bytes
  | [] => newline level ++ [125]
  | (k, x) :: ms =>
    44 :: (newline (level + 1) ++ writeText k ++ [58, 32] ++ indented (level + 1) x ++
      indentedMembers level ms)

end

def pretty (j : Json) : Bytes := indented 0 j

def compactText (j : Json) : String := Bytes.lossyText (compact j)

def prettyText (j : Json) : String := Bytes.lossyText (pretty j)

end SignIn.Json
