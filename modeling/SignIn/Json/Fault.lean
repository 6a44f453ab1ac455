import SignIn.Number.Shortest
import SignIn.Text.Quoted

/-!
# Why a JSON text is refused

A refusal has a cause and, where reading was at a known place, the part of the text that was
left. Its line and its column count the bytes before that part.
-/

namespace SignIn.Json

/-- What stood where something else was expected. -/
inductive Found where
  | null
  | bool (b : Bool)
  | whole (n : Int)
  | real (x : Binary64)
  | text (s : String)
  | list
  | object
  deriving DecidableEq

def Found.message : Found → String
  | .null => "null"
  | .bool b => "boolean `" ++ (if b then "true" else "false") ++ "`"
  | .whole n => "integer `" ++ toString n ++ "`"
  | .real x => "floating point `" ++ Bytes.lossyText (x.text) ++ "`"
  | .text s => "string " ++ Text.quoted s
  | .list => "sequence"
  | .object => "map"

inductive Cause where
  | endInValue
  | endInText
  | endInObject
  | endInList
  | colonExpected
  | listEndExpected
  | objectEndExpected
  | wordExpected
  | valueExpected
  | badEscape
  | badNumber
  | numberTooLarge
  | badCodePoint
  | controlCharacter
  | keyNotText
  | loneSurrogate
  | cutEscape
  | trailingComma
  | trailingText
  | tooDeep
  | wrongType (found : Found) (expected : String)
  | wrongValue (found : Found) (expected : String)
  | wrongLength (length : Nat) (expected : String)
  | missingField (name : String)
  | repeatedField (name : String)
  | unknownVariant (name : String) (known : List String)
  deriving DecidableEq

/-- Names in a message: one alone, two joined by "or", more after "one of". -/
def alternatives (names : List String) : String :=
  let quote (s : String) : String := "`" ++ s ++ "`"
  match names with
  | [] => "there are no variants"
  | [a] => "expected " ++ quote a
  | [a, b] => "expected " ++ quote a ++ " or " ++ quote b
  | _ => "expected one of " ++ String.intercalate ", " (names.map quote)

def Cause.message : Cause → String
  | .endInValue => "EOF while parsing a value"
  | .endInText => "EOF while parsing a string"
  | .endInObject => "EOF while parsing an object"
  | .endInList => "EOF while parsing a list"
  | .colonExpected => "expected `:`"
  | .listEndExpected => "expected `,` or `]`"
  | .objectEndExpected => "expected `,` or `\x7d`"
  | .wordExpected => "expected ident"
  | .valueExpected => "expected value"
  | .badEscape => "invalid escape"
  | .badNumber => "invalid number"
  | .numberTooLarge => "number out of range"
  | .badCodePoint => "invalid unicode code point"
  | .controlCharacter => "control character (\\u0000-\\u001F) found while parsing a string"
  | .keyNotText => "key must be a string"
  | .loneSurrogate => "lone leading surrogate in hex escape"
  | .cutEscape => "unexpected end of hex escape"
  | .trailingComma => "trailing comma"
  | .trailingText => "trailing characters"
  | .tooDeep => "recursion limit exceeded"
  | .wrongType found expected => "invalid type: " ++ found.message ++ ", expected " ++ expected
  | .wrongValue found expected => "invalid value: " ++ found.message ++ ", expected " ++ expected
  | .wrongLength n expected => "invalid length " ++ toString n ++ ", expected " ++ expected
  | .missingField name => "missing field `" ++ name ++ "`"
  | .repeatedField name => "duplicate field `" ++ name ++ "`"
  | .unknownVariant name known => "unknown variant `" ++ name ++ "`, " ++ alternatives known

/-- A cause and what was left of the text where it was noticed. -/
structure Fault where
  cause : Cause
  rest : Bytes
  deriving DecidableEq

/-- A fault noticed at the next byte, which counts as read if there is one. -/
def Fault.next (cause : Cause) (rest : Bytes) : Fault := ⟨cause, rest.tail⟩

/-- A refused text: a cause, and a line and a column if they are known. -/
structure Refusal where
  cause : Cause
  position : Option (Nat × Nat)
  deriving DecidableEq

/-- The line and the column after the given bytes, the column counted in bytes. -/
def position (before : Bytes) : Nat × Nat :=
  (before.count 10 + 1, (before.reverse.takeWhile (· != 10)).length)

def Fault.refusal (f : Fault) (text : Bytes) : Refusal :=
  ⟨f.cause, some (position (text.take (text.length - f.rest.length)))⟩

def Refusal.message (r : Refusal) : String :=
  match r.position with
  | none => r.cause.message
  | some (line, column) =>
    r.cause.message ++ " at line " ++ toString line ++ " column " ++ toString column

end SignIn.Json
