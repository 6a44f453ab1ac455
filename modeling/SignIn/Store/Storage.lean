import SignIn.Fault
import SignIn.Store.Entries

/-!
# Storage

A storage keeps values of keys in a state `σ` that it shares with others: every call takes the
state and gives it back with an answer. Taking a value means reading and removing it; a storage
that can only get, set and remove takes a value if it is the one that removed it.
-/

namespace SignIn

/-- A call on a store: an answer or a fault, and the state after it. -/
abbrev Access (σ α : Type) := ExceptT StoreFault (StateM σ) α

/-- The calls of a storage over a state `σ`. -/
structure Storage (σ : Type) where
  set : String → String → Access σ Unit
  get : String → Access σ (Option String)
  /-- whether there was a value -/
  remove : String → Access σ Bool
  take : String → Access σ (Option String)

namespace Storage

variable {σ : Type}

def has (s : Storage σ) (k : String) : Access σ Bool := do
  return (← s.get k).isSome

/-- Taking in two steps, whatever carries them out: the value counts only if the removal found
one. -/
def takeInSteps {m : Type → Type} [Monad m] (get : String → m (Option String))
    (remove : String → m Bool) (k : String) : m (Option String) := do
  match ← get k with
  | none => return none
  | some v => if ← remove k then return some v else return none

/-- A storage of the three calls it cannot do without. -/
def ofBasic (set : String → String → Access σ Unit) (get : String → Access σ (Option String))
    (remove : String → Access σ Bool) : Storage σ :=
  ⟨set, get, remove, takeInSteps get remove⟩

def Memory.set (k v : String) : Access Entries Unit := fun e => (.ok (), e.set k v)

def Memory.get (k : String) : Access Entries (Option String) := fun e => (.ok (e.get? k), e)

def Memory.remove (k : String) : Access Entries Bool :=
  fun e => (.ok (e.get? k).isSome, e.erase k)

/-- Reads and removes a value in memory at once. -/
def Memory.take (k : String) : Access Entries (Option String) :=
  fun e => (.ok (e.get? k), e.erase k)

def memory : Storage Entries := ⟨Memory.set, Memory.get, Memory.remove, Memory.take⟩

def plain : Storage Entries := ofBasic Memory.set Memory.get Memory.remove

inductive Call where
  | set
  | get
  | remove
  | take
  deriving DecidableEq

def Call.word : Call → String
  | .set => "set"
  | .get => "get"
  | .remove => "remove"
  | .take => "take"

def Call.ofWord? (s : String) : Option Call := [set, get, remove, take].find? (·.word == s)

/-- A call that a plan may let fail. A failing call changes nothing in the store. -/
def guardCall {τ α : Type} (plan : τ → Call → String → Bool × τ) (call : Call) (k : String)
    (access : Access σ α) : Access (σ × τ) α := fun (s, t) =>
  let (fails, t) := plan t call k
  if fails then (.error (.encoding ("fault " ++ call.word ++ ":" ++ k)), (s, t))
  else
    let (answer, s) := access s
    (answer, (s, t))

/-- The storage whose calls fail as a plan says. The plan has a state of its own, so that it can
decide each call anew. -/
def guarded {τ : Type} (plan : τ → Call → String → Bool × τ) (s : Storage σ) :
    Storage (σ × τ) where
  set k v := guardCall plan .set k (s.set k v)
  get k := guardCall plan .get k (s.get k)
  remove k := guardCall plan .remove k (s.remove k)
  take k := guardCall plan .take k (s.take k)

/-- The plan by which the calls of a fixed list fail. -/
def fixedPlan (failing : List (Call × String)) (call : Call) (k : String) :
    Bool × List (Call × String) :=
  (failing.contains (call, k), failing)

/-- The plan that reads off one answer for each call, none failing after the last. -/
def scriptedPlan (script : List Bool) (_ : Call) (_ : String) : Bool × List Bool :=
  (script.headD false, script.tail)

end Storage

end SignIn
