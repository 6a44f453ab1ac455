import SignIn.Json.Scan

/-!
# Reading JSON values

`Json.parse` reads one value and nothing after it. Values may be nested to a depth of 127. The
loops over items and members are written once, for any reader of an item and any use of a member.
-/

namespace SignIn.Json

def depthLimit : Nat := 127

/-! ## Lists and objects -/

/-- Whether a list goes on with an item, and the bytes of that item or of the closing bracket. -/
def nextItem (first : Bool) (bs : Bytes) : Except Fault (Bool × Bytes) :=
  match skipSpace bs with
  | [] => .error (.next .endInList [])
  | b :: rest =>
    if b = 93 then .ok (false, b :: rest)
    else if first then .ok (true, b :: rest)
    else if b = 44 then
      match skipSpace rest with
      | [] => .error (.next .endInValue [])
      | b :: rest =>
        if b = 93 then .error (.next .trailingComma (b :: rest)) else .ok (true, b :: rest)
    else .error (.next .listEndExpected (b :: rest))

/-- Whether an object goes on with a key, and the bytes of that key after its quote or of the
closing brace. -/
def nextKey (first : Bool) (bs : Bytes) : Except Fault (Bool × Bytes) :=
  match skipSpace bs with
  | [] => .error (.next .endInObject [])
  | b :: rest =>
    if b = 125 then .ok (false, b :: rest)
    else if first then
      if b = 34 then .ok (true, rest) else .error (.next .keyNotText (b :: rest))
    else if b = 44 then
      match skipSpace rest with
      | [] => .error (.next .endInValue [])
      | b :: rest =>
        if b = 34 then .ok (true, rest)
        else if b = 125 then .error (.next .trailingComma (b :: rest))
        else .error (.next .keyNotText (b :: rest))
    else .error (.next .objectEndExpected (b :: rest))

def colon (bs : Bytes) : Except Fault Bytes :=
  match skipSpace bs with
  | [] => .error (.next .endInObject [])
  | b :: rest => if b = 58 then .ok rest else .error (.next .colonExpected (b :: rest))

/-- The end of a list: the fault found instead of it, if any, and the bytes after what was
passed. -/
def listEnd (bs : Bytes) : Option Cause × Bytes :=
  match skipSpace bs with
  | [] => (some .endInList, [])
  | b :: rest =>
    if b = 93 then (none, rest)
    else if b = 44 then
      match skipSpace rest with
      | b :: rest => (some (if b = 93 then .trailingComma else .trailingText), b :: rest)
      | [] => (some .trailingText, [])
    else (some .trailingText, b :: rest)

/-- The end of an object, as `listEnd`. -/
def objectEnd (bs : Bytes) : Option Cause × Bytes :=
  match skipSpace bs with
  | [] => (some .endInObject, [])
  | b :: rest =>
    if b = 125 then (none, rest)
    else if b = 44 then (some .trailingComma, b :: rest)
    else (some .trailingText, b :: rest)

/-- What the reader of a container's inside gives: a value, or a refusal of the contents which is
placed where the container ends. -/
abbrev Contents (α : Type) := Outcome (Except Cause α)

/-- Closes a container. A refusal of its contents wins over a fault at its end. -/
def close {α : Type} (ending : Bytes → Option Cause × Bytes) (inside : Contents α) : Outcome α :=
  match inside with
  | .error f => .error f
  | .ok (contents, rest) =>
    match contents, ending rest with
    | .error c, (_, rest) => .error ⟨c, rest⟩
    | .ok _, (some c, rest) => .error (.next c rest)
    | .ok a, (none, rest) => .ok (a, rest)

/-- The items of a list up to its closing bracket. `fuel` bounds their number. -/
def items {α : Type} (item : Bytes → Outcome α) : Nat → Bool → Bytes → Outcome (List α)
  | 0, _, bs => .error ⟨.endInList, bs⟩
  | fuel + 1, first, bs =>
    match nextItem first bs with
    | .error f => .error f
    | .ok (false, rest) => .ok ([], rest)
    | .ok (true, rest) =>
      match item rest with
      | .error f => .error f
      | .ok (a, rest) =>
        match items item fuel false rest with
        | .error f => .error f
        | .ok (as, rest) => .ok (a :: as, rest)

/-- The members of an object up to its closing brace, each worked into what was gathered so
far. -/
def members {β : Type} (member : String → β → Bytes → Contents β) :
    Nat → Bool → β → Bytes → Contents β
  | 0, _, _, bs => .error ⟨.endInObject, bs⟩
  | fuel + 1, first, acc, bs =>
    match nextKey first bs with
    | .error f => .error f
    | .ok (false, rest) => .ok (.ok acc, rest)
    | .ok (true, rest) =>
      match readText rest with
      | .error f => .error f
      | .ok (key, rest) =>
        match member key acc rest with
        | .error f => .error f
        | .ok (.error c, rest) => .ok (.error c, rest)
        | .ok (.ok acc, rest) => members member fuel false acc rest

def listOf {α : Type} (item : Bytes → Outcome α) (bs : Bytes) : Outcome (List α) :=
  close listEnd ((items item (bs.length + 1) true bs).map fun (as, rest) => (.ok as, rest))

def objectOf {β : Type} (member : String → β → Bytes → Contents β) (start : β) (bs : Bytes) :
    Contents β :=
  members member (bs.length + 1) true start bs

/-- A member whose value is read and kept with its key, in the order of the text. -/
def keepMember {α : Type} (value : Bytes → Outcome α) (key : String) (acc : List (String × α))
    (bs : Bytes) : Contents (List (String × α)) :=
  match colon bs with
  | .error f => .error f
  | .ok rest =>
    match value rest with
    | .error f => .error f
    | .ok (v, rest) => .ok (.ok (acc ++ [(key, v)]), rest)

/-! ## Any value -/

/-- A value that is neither a list nor an object, from its first byte. -/
def scalar (b : UInt8) (rest : Bytes) : Outcome Json :=
  if b = 110 then (readWord [117, 108, 108] rest).map (.null, ·)
  else if b = 116 then (readWord [114, 117, 101] rest).map (.bool true, ·)
  else if b = 102 then (readWord [97, 108, 115, 101] rest).map (.bool false, ·)
  else if b = 45 then (readNumber false rest).map fun (n, rest) => (.number n, rest)
  else if isDigit b then (readNumber true (b :: rest)).map fun (n, rest) => (.number n, rest)
  else if b = 34 then (readText rest).map fun (s, rest) => (.text s, rest)
  else .error ⟨.valueExpected, rest⟩

/-- A value with the members of its objects in the order of the text. `depth` is how deep it may
be nested. -/
def readValue : Nat → Bytes → Outcome Json
  | 0, bs =>
    match skipSpace bs with
    | [] => .error (.next .endInValue [])
    | b :: rest =>
      if b = 91 ∨ b = 123 then .error ⟨.tooDeep, rest⟩ else scalar b rest
  | depth + 1, bs =>
    match skipSpace bs with
    | [] => .error (.next .endInValue [])
    | b :: rest =>
      if b = 91 then
        (listOf (readValue depth) rest).map fun (xs, rest) => (.list xs, rest)
      else if b = 123 then
        (close objectEnd (objectOf (keepMember (readValue depth)) [] rest)).map
          fun (ms, rest) => (.object ms, rest)
      else scalar b rest

mutual

/-- The value with the members of every object sorted, the last value of each key. -/
def sorted : Json → Json
  | .list xs => .list (sortedItems xs)
  | .object ms => .object (sortedMembers ms [])
  | j => j

def sortedItems : List Json → List Json
  | [] => []
  | x :: xs => sorted x :: sortedItems xs

def sortedMembers : List (String × Json) → List (String × Json) → List (String × Json)
  | [], acc => acc
  | (k, x) :: ms, acc => sortedMembers ms (KeyValue.insert k (sorted x) acc)

end

/-- A reader run on a whole text: nothing but space may follow. -/
def whole {α : Type} (reader : Bytes → Outcome α) (bs : Bytes) : Except Refusal α :=
  match reader bs with
  | .error f => .error (f.refusal bs)
  | .ok (a, rest) =>
    match skipSpace rest with
    | [] => .ok a
    | rest => .error ((Fault.next .trailingText rest).refusal bs)

/-- The value of a text, with the members of objects sorted. -/
def parse (bs : Bytes) : Except Refusal Json := (whole (readValue depthLimit) bs).map sorted

/-! ## Values that are passed over -/

/-- An open list or object around a value that is passed over. -/
inductive Frame where
  | list
  | object

def Frame.cut : Frame → Cause
  | .list => .endInList
  | .object => .endInObject

def Frame.unended : Frame → Cause
  | .list => .listEndExpected
  | .object => .objectEndExpected

def Frame.closing : Frame → UInt8
  | .list => 93
  | .object => 125

def passKey (bs : Bytes) : Except Fault Bytes :=
  match skipSpace bs with
  | [] => .error (.next .endInObject [])
  | b :: rest =>
    if b = 34 then
      match passText rest with
      | .error f => .error f
      | .ok rest => colon rest
    else .error (.next .keyNotText (b :: rest))

def passScalar (b : UInt8) (rest : Bytes) : Except Fault Bytes :=
  if b = 110 then readWord [117, 108, 108] rest
  else if b = 116 then readWord [114, 117, 101] rest
  else if b = 102 then readWord [97, 108, 115, 101] rest
  else if b = 45 then passNumber rest
  else if isDigit b then passNumber (b :: rest)
  else if b = 34 then passText rest
  else .error ⟨.valueExpected, rest⟩

/-- What comes next while a value is passed over. -/
inductive Passing where
  /-- a value inside the frames -/
  | value
  /-- the inside of the innermost frame, after an item if there was one -/
  | inside (after : Bool)

/-- The rest after a value, given the frames around the place. Nesting is not limited. `fuel`
bounds the steps. -/
def pass : Nat → Passing → List Frame → Bytes → Except Fault Bytes
  | 0, _, _, bs => .error ⟨.endInValue, bs⟩
  | fuel + 1, .value, frames, bs =>
    match skipSpace bs with
    | [] => .error (.next .endInValue [])
    | b :: rest =>
      if b = 91 then pass fuel (.inside false) (.list :: frames) rest
      else if b = 123 then pass fuel (.inside false) (.object :: frames) rest
      else
        match passScalar b rest with
        | .error f => .error f
        | .ok rest =>
          match frames with
          | [] => .ok rest
          | _ => pass fuel (.inside true) frames rest
  | _ + 1, .inside _, [], bs => .ok bs
  | fuel + 1, .inside after, frame :: frames, bs =>
    let item (bs : Bytes) : Except Fault Bytes :=
      match frame with
      | .list => pass fuel .value (frame :: frames) bs
      | .object =>
        match passKey bs with
        | .error f => .error f
        | .ok rest => pass fuel .value (frame :: frames) rest
    match skipSpace bs with
    | [] => .error (.next frame.cut [])
    | b :: rest =>
      if b = frame.closing then
        match frames with
        | [] => .ok rest
        | _ => pass fuel (.inside true) frames rest
      else if after then
        if b = 44 then item rest else .error (.next frame.unended (b :: rest))
      else item (b :: rest)

def passValue (bs : Bytes) : Except Fault Bytes := pass (2 * bs.length + 2) .value [] bs

end SignIn.Json
