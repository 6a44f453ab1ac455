import SignIn.Store.Storage

/-!
# What is kept of a session

Three keys of a storage: the handle of the last login, the token of the session, and the state
of a login that is under way.
-/

namespace SignIn

def handleKey : String := "handle"

def tokenKey : String := "token"

def stateKey : String := "state"

/-- The keys of a session, in the order in which they are removed. -/
def sessionKeys : List String := [handleKey, tokenKey, stateKey]

/-- Everything that is kept of a session. -/
structure PersistedSession where
  handle : Option String
  token : Option String
  state : Option String
  deriving DecidableEq

def PersistedSession.isEmpty (p : PersistedSession) : Bool :=
  p.handle.isNone && p.token.isNone && p.state.isNone

namespace Storage

variable {σ : Type} (s : Storage σ)

/-- Reads the three keys, one after the other. -/
def snapshot : Access σ PersistedSession := do
  let handle ← s.get handleKey
  let token ← s.get tokenKey
  let state ← s.get stateKey
  return ⟨handle, token, state⟩

/-- Removes keys in order, up to the first removal that fails. -/
def removeAll : List String → Access σ Unit
  | [] => return ()
  | k :: ks => do
    let _ ← s.remove k
    removeAll ks

def clear : Access σ Unit := s.removeAll sessionKeys

def handle : Access σ (Option String) := s.get handleKey

def setHandle (handle : String) : Access σ Unit := s.set handleKey handle

def token : Access σ (Option String) := s.get tokenKey

def setToken (token : String) : Access σ Unit := s.set tokenKey token

def hasToken : Access σ Bool := s.has tokenKey

/-- Drops the token, and tells whether there was one. -/
def removeToken : Access σ Bool := s.remove tokenKey

/-- Keeps the state of a login, in the place of an earlier one. -/
def setState (state : String) : Access σ Unit := s.set stateKey state

/-- Looks at the state without using it up. -/
def pendingState : Access σ (Option String) := s.get stateKey

/-- Uses the state up. -/
def takeState : Access σ (Option String) := s.take stateKey

def removeState : Access σ Bool := s.remove stateKey

end Storage

end SignIn
