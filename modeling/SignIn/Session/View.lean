import SignIn.Session.Phase

/-!
# What a session shows of itself

A phase with the handle that belongs to it. In JSON the phase stands beside the handle as the
member `state`; in a list it stands first.
-/

namespace SignIn

/-- A session as its users see it. -/
inductive SessionView where
  | unauthenticated (handle : Option String)
  | loginPending (handle : Option String)
  | authenticated (handle : String)
  deriving DecidableEq

namespace SessionView

def phase : SessionView → Phase
  | .unauthenticated _ => .unauthenticated
  | .loginPending _ => .loginPending
  | .authenticated _ => .authenticated

def handle? : SessionView → Option String
  | .unauthenticated h => h
  | .loginPending h => h
  | .authenticated h => some h

def toJson (v : SessionView) : Json :=
  .object [("state", .text v.phase.word), ("handle", v.handle?.elim .null .text)]

/-! ## Reading -/

open Json

/-- The rest of a view beside its phase. -/
inductive Body where
  | members (ms : List (String × Json))
  | items (xs : List Json)

def found : Json → Found
  | .null => .null
  | .bool b => .bool b
  | .number (.whole n) => .whole n
  | .number (.real x) => .real x
  | .text s => .text s
  | .list _ => .list
  | .object _ => .object

def requiredHandle : Json → Except Cause String
  | .text s => .ok s
  | j => .error (.wrongType (found j) "a string")

def optionalHandle : Json → Except Cause (Option String)
  | .null => .ok none
  | j => (requiredHandle j).map some

/-- The values of the member `handle`, which may occur once. -/
def handleMember {α : Type} (value : Json → Except Cause α) :
    Option α → List (String × Json) → Except Cause (Option α)
  | seen, [] => .ok seen
  | seen, (key, j) :: ms =>
    if key = "handle" then
      match seen with
      | some _ => .error (.repeatedField "handle")
      | none => do handleMember value (some (← value j)) ms
    else handleMember value seen ms

/-- The handle of a body, `missing` where there is no such member. -/
def handleOf {α : Type} (p : Phase) (value : Json → Except Cause α) (missing : Except Cause α) :
    Body → Except Cause α
  | .members ms => do
    match ← handleMember value none ms with
    | some a => return a
    | none => missing
  | .items [] =>
    .error (.wrongLength 0 ("struct variant SessionState::" ++ p.name ++ " with 1 element"))
  | .items (x :: xs) => do
    let a ← value x
    if xs.isEmpty then return a
    else throw (.wrongLength (xs.length + 1) "1 element in sequence")

def ofBody (p : Phase) (body : Body) : Except Cause SessionView :=
  match p with
  | .unauthenticated =>
    (handleOf p optionalHandle (.ok none) body).map .unauthenticated
  | .loginPending =>
    (handleOf p optionalHandle (.ok none) body).map .loginPending
  | .authenticated =>
    (handleOf p requiredHandle (.error (.missingField "handle")) body).map .authenticated

def phaseWord (bs : Bytes) : Outcome Phase :=
  match skipSpace bs with
  | [] => .error (.next .endInValue [])
  | b :: rest =>
    if b = 34 then
      match readText rest with
      | .error f => .error f
      | .ok (s, rest) =>
        match Phase.words.lookup s with
        | some p => .ok (p, rest)
        | none => .error ⟨.unknownVariant s (Phase.words.map (·.1)), rest⟩
    else .error (otherType "variant identifier" b rest)

/-- A member of a view: the phase once, all others are kept. -/
def putMember (key : String) (acc : Option Phase × List (String × Json)) (bs : Bytes) :
    Contents (Option Phase × List (String × Json)) :=
  if key = "state" then
    if acc.1.isSome then .ok (.error (.repeatedField "state"), bs)
    else
      match colon bs with
      | .error f => .error f
      | .ok rest => (phaseWord rest).map fun (p, rest) => (.ok (some p, acc.2), rest)
  else
    (keepMember (readValue (depthLimit - 1)) key acc.2 bs).map fun (r, rest) =>
      (r.map fun ms => (acc.1, ms), rest)

def readParts (bs : Bytes) : Outcome (Phase × Body) :=
  match skipSpace bs with
  | [] => .error (.next .endInValue [])
  | b :: rest =>
    if b = 91 then
      close listEnd
        (match nextItem true rest with
        | .error f => .error f
        | .ok (false, rest) => .ok (.error (.missingField "state"), rest)
        | .ok (true, rest) =>
          match phaseWord rest with
          | .error f => .error f
          | .ok (p, rest) =>
            (items (readValue (depthLimit - 1)) (rest.length + 1) false rest).map
              fun (xs, rest) => (.ok (p, .items xs), rest))
    else if b = 123 then
      close objectEnd ((objectOf putMember (none, []) rest).map fun (r, rest) =>
        (r.bind fun
          | (some p, ms) => .ok (p, .members ms)
          | (none, _) => .error (.missingField "state"), rest))
    else .error (otherType "internally tagged enum SessionState" b rest)

/-- The view that a text describes. What is wrong with the body has no place in the text. -/
def decode (bs : Bytes) : Except Refusal SessionView :=
  match readParts bs with
  | .error f => .error (f.refusal bs)
  | .ok ((p, body), rest) =>
    match ofBody p body with
    | .error c => .error ⟨c, none⟩
    | .ok v =>
      match skipSpace rest with
      | [] => .ok v
      | rest => .error ((Fault.next .trailingText rest).refusal bs)

end SessionView

end SignIn
