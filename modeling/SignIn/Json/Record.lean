import SignIn.Json.Printer
import SignIn.Json.Reader

/-!
# Records in JSON

A record is described by its fields: a name, the kind of the value, and a value for a missing
field. From one description come the type of the record, its reader and its writer. A record is
read from an object, whose unknown members are passed over, or from a list in the order of the
fields; it is written as an object in that order.
-/

namespace SignIn.Json

inductive Kind where
  | text
  | flag
  | texts
  | optionalText
  | optionalInteger
  deriving DecidableEq

/-- The values of a field. -/
@[reducible] def Kind.Carrier : Kind → Type
  | .text => String
  | .flag => Bool
  | .texts => List String
  | .optionalText => Option String
  | .optionalInteger => Option Int64

/-- A field of a record. `fallback` stands for a field that is missing. -/
structure Field where
  name : String
  kind : Kind
  fallback : Option kind.Carrier := none

def Field.required (name : String) (kind : Kind) : Field := ⟨name, kind, none⟩

@[reducible] def Values : List Field → Type
  | [] => Unit
  | f :: fs => f.kind.Carrier × Values fs

/-- The values met so far while a record is read. -/
@[reducible] def Gathered : List Field → Type
  | [] => Unit
  | f :: fs => Option f.kind.Carrier × Gathered fs

def Gathered.empty : (fs : List Field) → Gathered fs
  | [] => ()
  | _ :: fs => (none, Gathered.empty fs)

/-! ## Reading -/

/-- The fault of a value of another type. A scalar is read before it is refused; a list or an
object is refused where it begins. -/
def otherType (expected : String) (b : UInt8) (rest : Bytes) : Fault :=
  if b = 91 then ⟨.wrongType .list expected, b :: rest⟩
  else if b = 123 then ⟨.wrongType .object expected, b :: rest⟩
  else
    match scalar b rest with
    | .error f => f
    | .ok (.bool b, rest) => ⟨.wrongType (.bool b) expected, rest⟩
    | .ok (.number (.whole n), rest) => ⟨.wrongType (.whole n) expected, rest⟩
    | .ok (.number (.real x), rest) => ⟨.wrongType (.real x) expected, rest⟩
    | .ok (.text s, rest) => ⟨.wrongType (.text s) expected, rest⟩
    | .ok (_, rest) => ⟨.wrongType .null expected, rest⟩

def textValue (bs : Bytes) : Outcome String :=
  match skipSpace bs with
  | [] => .error (.next .endInValue [])
  | b :: rest => if b = 34 then readText rest else .error (otherType "a string" b rest)

def flagValue (bs : Bytes) : Outcome Bool :=
  match skipSpace bs with
  | [] => .error (.next .endInValue [])
  | b :: rest =>
    if b = 116 then (readWord [114, 117, 101] rest).map (true, ·)
    else if b = 102 then (readWord [97, 108, 115, 101] rest).map (false, ·)
    else .error (otherType "a boolean" b rest)

def textsValue (bs : Bytes) : Outcome (List String) :=
  match skipSpace bs with
  | [] => .error (.next .endInValue [])
  | b :: rest =>
    if b = 91 then listOf textValue rest else .error (otherType "a sequence" b rest)

/-- A whole number of 64 bits with a sign. -/
def integerValue (bs : Bytes) : Outcome Int64 :=
  let check (o : Outcome Number) : Outcome Int64 :=
    match o with
    | .error f => .error f
    | .ok (.real x, rest) => .error ⟨.wrongType (.real x) "i64", rest⟩
    | .ok (.whole n, rest) =>
      if n ≤ Int64.maxValue.toInt then .ok (Int64.ofInt n, rest)
      else .error ⟨.wrongValue (.whole n) "i64", rest⟩
  match skipSpace bs with
  | [] => .error (.next .endInValue [])
  | b :: rest =>
    if b = 45 then check (readNumber false rest)
    else if isDigit b then check (readNumber true (b :: rest))
    else .error (otherType "i64" b rest)

def optionalValue {α : Type} (value : Bytes → Outcome α) (bs : Bytes) : Outcome (Option α) :=
  match skipSpace bs with
  | 110 :: rest => (readWord [117, 108, 108] rest).map (none, ·)
  | rest => (value rest).map fun (a, rest) => (some a, rest)

def Kind.read : (k : Kind) → Bytes → Outcome k.Carrier
  | .text => textValue
  | .flag => flagValue
  | .texts => textsValue
  | .optionalText => optionalValue textValue
  | .optionalInteger => optionalValue integerValue

/-- What stands for a missing field of a kind that may be missing in any case. -/
def Kind.missing? : (k : Kind) → Option k.Carrier
  | .text => none
  | .flag => none
  | .texts => none
  | .optionalText => some none
  | .optionalInteger => some none

/-- Works a member into the values met so far. A field that was met before is refused at its key;
an unknown member is passed over. -/
def putMember : (fs : List Field) → String → Gathered fs → Bytes → Contents (Gathered fs)
  | [], _, _, bs =>
    match colon bs with
    | .error f => .error f
    | .ok rest => (passValue rest).map (.ok (), ·)
  | f :: fs, key, (value, values), bs =>
    if key = f.name then
      if value.isSome then .ok (.error (.repeatedField f.name), bs)
      else
        match colon bs with
        | .error e => .error e
        | .ok rest => (f.kind.read rest).map fun (v, rest) => (.ok (some v, values), rest)
    else
      (putMember fs key values bs).map fun (r, rest) => (r.map fun values => (value, values), rest)

/-- The record of the values met, the first field without a value being missed. -/
def complete : (fs : List Field) → Gathered fs → Except Cause (Values fs)
  | [], _ => .ok ()
  | f :: fs, (value, values) =>
    match (value.or f.fallback).or f.kind.missing? with
    | none => .error (.missingField f.name)
    | some v => (complete fs values).map fun vs => (v, vs)

/-- The values of a list in the order of the fields. -/
def inOrder (expected : String) :
    (fs : List Field) → Nat → Bytes → Contents (Values fs)
  | [], _, bs => .ok (.ok (), bs)
  | f :: fs, index, bs =>
    match nextItem (index == 0) bs with
    | .error e => .error e
    | .ok (true, rest) =>
      match f.kind.read rest with
      | .error e => .error e
      | .ok (v, rest) =>
        (inOrder expected fs (index + 1) rest).map fun (r, rest) =>
          (r.map fun vs => (v, vs), rest)
    | .ok (false, rest) =>
      match f.fallback with
      | none => .ok (.error (.wrongLength index expected), rest)
      | some v =>
        (inOrder expected fs (index + 1) rest).map fun (r, rest) =>
          (r.map fun vs => (v, vs), rest)

def elements (n : Nat) : String :=
  if n = 1 then "1 element" else toString n ++ " elements"

def readRecord (title : String) (fs : List Field) (bs : Bytes) : Outcome (Values fs) :=
  match skipSpace bs with
  | [] => .error (.next .endInValue [])
  | b :: rest =>
    if b = 91 then
      close listEnd (inOrder (title ++ " with " ++ elements fs.length) fs 0 rest)
    else if b = 123 then
      close objectEnd ((objectOf (putMember fs) (Gathered.empty fs) rest).map fun (r, rest) =>
        (r.bind (complete fs), rest))
    else .error (otherType title b rest)

def decodeRecord (title : String) (fs : List Field) (bs : Bytes) : Except Refusal (Values fs) :=
  whole (readRecord title fs) bs

/-! ## Writing -/

def Kind.write : (k : Kind) → k.Carrier → Json
  | .text, s => .text s
  | .flag, b => .bool b
  | .texts, ss => .list (ss.map .text)
  | .optionalText, s => s.elim .null .text
  | .optionalInteger, n => n.elim .null fun n => .int n.toInt

def writeMembers : (fs : List Field) → Values fs → List (String × Json)
  | [], _ => []
  | f :: fs, (v, vs) => (f.name, f.kind.write v) :: writeMembers fs vs

def writeRecord (fs : List Field) (vs : Values fs) : Json := .object (writeMembers fs vs)

/-! ## Words for the cases of an enumeration -/

/-- The case of an enumeration whose word is read: a text, or an object whose only key it is,
beside the word for none. -/
def readVariant {α : Type} (known : List (String × α)) (bs : Bytes) : Outcome α :=
  let choose (bs : Bytes) : Outcome α :=
    match skipSpace bs with
    | [] => .error (.next .endInValue [])
    | b :: rest =>
      if b = 34 then
        match readText rest with
        | .error f => .error f
        | .ok (name, rest) =>
          match known.lookup name with
          | some a => .ok (a, rest)
          | none => .error ⟨.unknownVariant name (known.map (·.1)), rest⟩
      else .error (otherType "variant identifier" b rest)
  match skipSpace bs with
  | [] => .error (.next .endInValue [])
  | b :: rest =>
    if b = 34 then choose (b :: rest)
    else if b = 123 then
      match choose rest with
      | .error f => .error f
      | .ok (a, rest) =>
        match colon rest with
        | .error f => .error f
        | .ok rest =>
          match skipSpace rest with
          | [] => .error (.next .endInValue [])
          | b :: rest =>
            if b = 110 then
              match readWord [117, 108, 108] rest with
              | .error f => .error f
              | .ok rest =>
                match skipSpace rest with
                | [] => .error ⟨.endInObject, []⟩
                | 125 :: rest => .ok (a, rest)
                | rest => .error ⟨.valueExpected, rest⟩
            else .error (otherType "unit" b rest)
    else .error (.next .valueExpected (b :: rest))

def decodeVariant {α : Type} (known : List (String × α)) (bs : Bytes) : Except Refusal α :=
  whole (readVariant known) bs

/-! ## Sorted members whose values are texts -/

/-- An object whose values are texts, as a sorted key-value list. -/
def readTexts (bs : Bytes) : Outcome (List (String × String)) :=
  match skipSpace bs with
  | [] => .error (.next .endInValue [])
  | b :: rest =>
    if b = 123 then
      (close objectEnd (objectOf (keepMember textValue) [] rest)).map fun (ms, rest) =>
        (ms.foldl (fun acc m => KeyValue.insert m.1 m.2 acc) [], rest)
    else .error (otherType "a map" b rest)

def decodeTexts (bs : Bytes) : Except Refusal (List (String × String)) := whole readTexts bs

def writeTexts (l : List (String × String)) : Json := .object (l.map fun (k, v) => (k, .text v))

end SignIn.Json
