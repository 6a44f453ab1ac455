import SignIn.Store.FileStorage
import SignIn.Store.SessionStore

/-!
# Handles of a store

A store is used through handles, which are opened one after the other and may be used in any order
after that. A call through a handle names a key, or asks for something that is kept of the session.
-/

namespace SignIn

inductive StoreCall where
  | set (key value : String)
  | get (key : String)
  | remove (key : String)
  | take (key : String)
  | has (key : String)
  deriving DecidableEq

/-- A call on what is kept of the session. -/
inductive SessionCall where
  | snapshot
  | handle
  | setHandle (value : String)
  | token
  | setToken (value : String)
  | hasToken
  | removeToken
  | setState (value : String)
  | pendingState
  | takeState
  | removeState
  | clear
  deriving DecidableEq

inductive StoreAnswer where
  | done
  | value (v : Option String)
  | flag (b : Bool)
  | session (p : PersistedSession)
  deriving DecidableEq

namespace Storage

variable {σ : Type} (s : Storage σ)

def perform : StoreCall → Access σ StoreAnswer
  | .set k v => do s.set k v; return .done
  | .get k => do return .value (← s.get k)
  | .remove k => do return .flag (← s.remove k)
  | .take k => do return .value (← s.take k)
  | .has k => do return .flag (← s.has k)

def performOnSession : SessionCall → Access σ StoreAnswer
  | .snapshot => do return .session (← s.snapshot)
  | .handle => do return .value (← s.handle)
  | .setHandle v => do s.setHandle v; return .done
  | .token => do return .value (← s.token)
  | .setToken v => do s.setToken v; return .done
  | .hasToken => do return .flag (← s.hasToken)
  | .removeToken => do return .flag (← s.removeToken)
  | .setState v => do s.setState v; return .done
  | .pendingState => do return .value (← s.pendingState)
  | .takeState => do return .value (← s.takeState)
  | .removeState => do return .flag (← s.removeState)
  | .clear => do s.clear; return .done

end Storage

/-- A way to keep a store: how a handle is opened, and its calls. -/
structure Backend (σ : Type) where
  openHandle : Access σ Unit
  storage : Storage σ

/-- The store in memory, whose handles share one state. -/
def Backend.memory : Backend Entries := ⟨pure (), .memory⟩

/-- A store of the three calls it cannot do without. -/
def Backend.ofBasic {σ : Type} (set : String → String → Access σ Unit)
    (get : String → Access σ (Option String)) (remove : String → Access σ Bool) : Backend σ :=
  ⟨pure (), .ofBasic set get remove⟩

def Backend.file (f : FileStore) : Backend Disk := ⟨f.openStore, f.storage⟩

/-- What is done with a store: another handle is opened, or a call is made through one of the
handles, which are counted in the order in which they were opened. -/
inductive StoreStep where
  | openHandle
  | call (handle : Nat) (c : StoreCall)
  | onSession (handle : Nat) (c : SessionCall)
  deriving DecidableEq

/-- A store in use: its state, and the number of its open handles. -/
structure InUse (σ : Type) where
  store : σ
  handles : Nat := 0

namespace InUse

variable {σ : Type}

/-- A call through a handle. There is no answer from a handle that is not open. -/
def through (u : InUse σ) (handle : Nat) (call : Access σ StoreAnswer) :
    Option (Except StoreFault StoreAnswer) × InUse σ :=
  if handle < u.handles then
    let (answer, store) := call u.store
    (some answer, ⟨store, u.handles⟩)
  else (none, u)

def step (b : Backend σ) (u : InUse σ) :
    StoreStep → Option (Except StoreFault StoreAnswer) × InUse σ
  | .openHandle =>
    match b.openHandle u.store with
    | (.ok _, store) => (some (.ok .done), ⟨store, u.handles + 1⟩)
    | (.error fault, store) => (some (.error fault), ⟨store, u.handles⟩)
  | .call handle c => u.through handle (b.storage.perform c)
  | .onSession handle c => u.through handle (b.storage.performOnSession c)

def run (b : Backend σ) (u : InUse σ) :
    List StoreStep → List (Option (Except StoreFault StoreAnswer)) × InUse σ
  | [] => ([], u)
  | step :: steps =>
    let (answer, u) := u.step b step
    let (answers, u) := u.run b steps
    (answer :: answers, u)

end InUse

end SignIn
