import SignIn.KeyValue
import SignIn.Number.Binary64

/-!
# JSON values

A number is a whole number of at most 64 bits or a binary64 number. The members of an object
are kept in the order of the list; `Json.put` keeps them sorted by key, with the last value of a
key in place of earlier ones.
-/

namespace SignIn

namespace Json

inductive Number where
  | whole (n : Int)
  | real (x : Binary64)
  deriving DecidableEq

end Json

inductive Json where
  | null
  | bool (b : Bool)
  | number (n : Json.Number)
  | text (s : String)
  | list (items : List Json)
  | object (members : List (String × Json))

namespace Json

instance : Inhabited Json := ⟨.null⟩

def int (n : Int) : Json := .number (.whole n)

def get? (key : String) : Json → Option Json
  | .object members => KeyValue.find? key members
  | _ => none

/-- Members in sorted order, the last value of each key. -/
def sortMembers (members : List (String × Json)) : List (String × Json) :=
  members.foldl (fun acc m => KeyValue.insert m.1 m.2 acc) []

def obj (members : List (String × Json)) : Json := .object (sortMembers members)

end Json

end SignIn
