import SignIn.Store.SessionStore

/-!
# A store that is shared

Each call of a store goes undivided, but between two calls of one handle the others may make calls
of their own. What one handle sees is a storage again: before each of its calls the others make
theirs, which a schedule gives beforehand. So whatever is built from the calls of a storage, be it a
snapshot or the opening of a manager, can be run among others just as it is.
-/

namespace SignIn

inductive KeyCall where
  | set (k v : String)
  | get (k : String)
  | remove (k : String)
  | take (k : String)
  deriving DecidableEq

/-- A store, and what the others do before each of the next calls of one handle. -/
structure Shared (σ : Type) where
  store : σ
  others : List (List KeyCall)

def Shared.next {σ : Type} (w : Shared σ) : List KeyCall := w.others.headD []

namespace Storage

variable {σ α : Type} (s : Storage σ)

/-- Makes a call, whatever it answers. -/
def call : KeyCall → Access σ Unit
  | .set k v => s.set k v
  | .get k => do
    let _ ← s.get k
    return ()
  | .remove k => do
    let _ ← s.remove k
    return ()
  | .take k => do
    let _ ← s.take k
    return ()

def makeAll (st : σ) (calls : List KeyCall) : σ := calls.foldl (fun st c => (s.call c st).2) st

/-- Those of the calls that do not fail. -/
def through (st : σ) : List KeyCall → List KeyCall
  | [] => []
  | c :: calls =>
    match s.call c st with
    | (.ok _, st) => c :: through st calls
    | (.error _, st) => through st calls

/-- A call that comes after those which the others make before it. -/
def amongOthers (access : Access σ α) : Access (Shared σ) α := fun w =>
  let (answer, store) := access (s.makeAll w.store w.next)
  (answer, ⟨store, w.others.tail⟩)

/-- The storage as one handle sees it that shares it with others. -/
def shared : Storage (Shared σ) where
  set k v := s.amongOthers (s.set k v)
  get k := s.amongOthers (s.get k)
  remove k := s.amongOthers (s.remove k)
  take k := s.amongOthers (s.take k)

end Storage

end SignIn
