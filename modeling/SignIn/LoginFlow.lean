import SignIn.Callback
import SignIn.Endpoints
import SignIn.Message
import SignIn.Store.SessionStore
import SignIn.Text.Secret
import SignIn.Token

/-!
# Logging in

A login URL sends the user to the authorization server with a fresh state, which is kept. The
callback that comes back uses the state up, whatever it holds, and is then checked; if it passes,
it gives the request that exchanges its code.
-/

namespace SignIn

/-- Calls on a store that may fail for other reasons than the store's. -/
abbrev StoreOp (σ α : Type) := ExceptT AuthFault (StateM σ) α

/-- A call on a store, its faults being storage faults. -/
def Access.asOp {σ α : Type} (access : Access σ α) : StoreOp σ α := fun s =>
  match access s with
  | (.ok a, s) => (.ok a, s)
  | (.error fault, s) => (.error (.storage fault), s)

namespace LoginFlow

variable {σ : Type}

def loginPairs (e : Endpoints) (state handle : String) (redirect : Url) :
    List (String × String) :=
  [("response_type", "code"), ("redirect_uri", redirect.text), ("handle", handle),
   ("state", state), ("client_id", e.clientId)]

def loginUrl (e : Endpoints) (state handle : String) (redirect : Url) : Url :=
  e.authorization.appendPairs (loginPairs e state handle redirect)

/-- Keeps a fresh state for a handle and gives the login URL. An earlier state is overwritten. -/
def issue (s : Storage σ) (e : Endpoints) (state handle : String) (redirect : Url) :
    Access σ Url := do
  s.setHandle handle
  s.setState state
  return loginUrl e state handle redirect

/-- Checks the parameters of a callback against the expected state. -/
def check (e : Endpoints) (expected : String) (callback : Url) (p : CallbackParams) :
    Except AuthFault TokenRequest :=
  match p.error with
  | some error => .error (.denied error p.errorDescription)
  | none =>
    if !Text.sameSecret (p.state.getD "") expected then .error .stateMismatch
    else
      let foreign := p.iss.filter (· ≠ e.issuer)
      match foreign, p.code.filter (· ≠ "") with
      | some iss, _ => .error (.issuerMismatch e.issuer iss)
      | none, none => .error .missingCode
      | none, some code => .ok ⟨e.token, code, redirectUriOf callback, e.clientId⟩

def checkCallback (e : Endpoints) (expected callback : String) : Except AuthFault TokenRequest :=
  match Url.parse callback with
  | .error fault => .error (.url fault)
  | .ok url => check e expected url (CallbackParams.ofUrl url)

/-- Uses the kept state up and checks the callback. -/
def prepare (s : Storage σ) (e : Endpoints) (callback : String) : StoreOp σ TokenRequest := do
  match ← Access.asOp s.takeState with
  | none => throw .missingState
  | some expected => MonadExcept.ofExcept (checkCallback e expected callback)

/-- Exchanges the code of a callback. A client is asked once, if the callback passes. -/
def exchange {m : Type → Type} [Monad m] (s : Storage σ) (e : Endpoints)
    (grant : TokenRequest → m (Except AuthFault TokenResponse)) (callback : String) :
    ExceptT AuthFault (StateT σ m) TokenResponse := fun st =>
  match prepare s e callback st with
  | (.error fault, st) => return (.error fault, st)
  | (.ok request, st) => return (← grant request, st)

end LoginFlow

end SignIn
