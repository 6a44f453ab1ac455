import SignIn.Gateway
import SignIn.LoginFlow
import SignIn.Session.View

/-!
# The session

A manager owns the session of one process. It remembers the phase, the handle and the token, and
keeps what has to survive in a store that other managers may share. A login URL, the loss of the
session and the adoption of another manager's login begin a new epoch; what was started in an
earlier epoch can no longer change the session.

Exchanges and fetches go over the network, so each is split in two: a start, which ends before the
request is sent, and a finish, which takes the answer. Any number of them may be under way.
-/

namespace SignIn

structure Manager where
  phase : Phase := .unauthenticated
  handle : Option String := none
  token : Option String := none
  epoch : Nat := 0
  exchanging : Bool := false
  deriving DecidableEq

def Manager.view (m : Manager) : SessionView :=
  match m.phase with
  | .unauthenticated => .unauthenticated m.handle
  | .loginPending => .loginPending m.handle
  | .authenticated => .authenticated (m.handle.getD "")

/-- Whether a token is held. -/
def Manager.isAuthenticated (m : Manager) : Bool := m.phase.isAuthenticated

/-- A notice that the session was torn down, with what the manager shows when it is given. -/
structure Notice where
  reason : DeauthReason
  seen : SessionView
  deriving DecidableEq

/-- A manager at work: with its store and the notices it has given, oldest first. -/
structure StepState (σ : Type) where
  manager : Manager
  store : σ
  notices : List Notice := []

/-- A step of a manager. What was done before a fault stays done. -/
abbrev Step (σ α : Type) := ExceptT AuthFault (StateM (StepState σ)) α

structure PendingExchange where
  request : TokenRequest
  epoch : Nat
  deriving DecidableEq

structure PendingFetch where
  request : ResourceRequest
  token : String
  epoch : Nat
  deriving DecidableEq

namespace Manager

variable {σ : Type}

/-! ## Steps -/

def onStore {α : Type} (op : StoreOp σ α) : Step σ α := fun d =>
  let (answer, store) := op d.store
  (answer, { d with store := store })

def remember (f : Manager → Manager) : Step σ Unit := fun d =>
  (.ok (), { d with manager := f d.manager })

def advance (event : SessionEvent) : Step σ Unit := fun d =>
  match d.manager.phase.next? event with
  | some phase => (.ok (), { d with manager := { d.manager with phase := phase } })
  | none =>
    (.error (.invalidTransition
      ("Cannot apply " ++ event.name ++ " in state " ++ d.manager.phase.name)), d)

def failExchange (m : Manager) : Manager :=
  if m.phase.isPending then
    { m with phase := (m.phase.next? .exchangeFailed).getD m.phase }
  else m

def nextEpoch (m : Manager) : Manager := { m with epoch := m.epoch + 1 }

/-- Tears the session down and gives notice. With an epoch, nothing happens in another one. The
store is cleared after the manager has forgotten the session, and the notice is given even if that
fails. -/
def deauthenticate (s : Storage σ) (reason : DeauthReason) (epoch : Option Nat) : Step σ Unit :=
  fun d =>
    if epoch.any (· ≠ d.manager.epoch) then (.ok (), d)
    else
      let manager : Manager :=
        { d.manager with
          handle := none
          token := none
          epoch := d.manager.epoch + 1
          phase := (d.manager.phase.next? .sessionLost).getD d.manager.phase }
      let (cleared, store) := (Access.asOp s.clear) d.store
      (cleared, ⟨manager, store, d.notices ++ [⟨reason, manager.view⟩]⟩)

/-! ## Opening -/

/-- A manager for what a store keeps: a token with a handle is a session, and a state beside it is
dropped; a token without a handle is dropped with everything else; a state alone is a login under
way. -/
def openOn (s : Storage σ) : StoreOp σ Manager := do
  let kept ← Access.asOp s.snapshot
  match kept.token, kept.handle with
  | some token, some handle =>
    if kept.state.isSome then
      let _ ← Access.asOp s.removeState
    return { phase := .authenticated, handle := some handle, token := some token }
  | some _, none =>
    Access.asOp s.clear
    return {}
  | none, handle =>
    return { phase := if kept.state.isSome then .loginPending else .unauthenticated, handle }

/-! ## Logging in -/

/-- Issues a login URL with a fresh state. A token that is held is dropped without notice. -/
def login (s : Storage σ) (e : Endpoints) (state handle : String) (redirect : Url) :
    Step σ Url := do
  let m := (← get).manager
  if m.token.isSome then
    remember fun m => { m with token := none }
    let _ ← onStore (Access.asOp s.removeToken)
  let url ← onStore (Access.asOp (LoginFlow.issue s e state handle redirect))
  remember fun m => nextEpoch { m with handle := some handle }
  advance .loginUrlIssued
  return url

/-- Takes over a login that another manager started: its state is in the store. -/
def adopt (s : Storage σ) : Step σ Unit := do
  let m := (← get).manager
  unless m.phase.isPending do
    if (← onStore (Access.asOp s.pendingState)).isSome then
      remember fun m => { m with token := none }
      let handle ← onStore (Access.asOp s.handle)
      remember fun m => nextEpoch { m with handle := handle }
      advance .loginUrlIssued

/-- Starts the exchange of a callback's code. A refused callback ends the login, unless an
exchange of it is under way. -/
def startExchange (s : Storage σ) (e : Endpoints) (callback : String) :
    Step σ PendingExchange := do
  adopt s
  let request ← tryCatch (onStore (LoginFlow.prepare s e callback)) fun fault => do
    remember fun m => if m.exchanging then m else failExchange m
    throw fault
  remember fun m => { m with exchanging := true }
  return ⟨request, (← get).manager.epoch⟩

def giveUp {α : Type} (fault : AuthFault) : Step σ α := do
  remember failExchange
  throw fault

def install (s : Storage σ) (handle token : String) : Step σ Unit := do
  tryCatch
    (onStore (Access.asOp (do
      s.setHandle handle
      s.setToken token)))
    giveUp
  remember fun m => { m with handle := some handle, token := some token }
  advance .exchangeSucceeded

/-- Finishes an exchange with what the token endpoint granted, and gives the token. -/
def finishExchange (s : Storage σ) (p : PendingExchange)
    (granted : Except AuthFault TokenResponse) : Step σ String := do
  remember fun m => { m with exchanging := false }
  let m := (← get).manager
  if m.epoch ≠ p.epoch then throw .superseded
  match granted with
  | .error fault => giveUp fault
  | .ok token =>
    match m.handle.or token.sub with
    | none => giveUp .missingHandle
    | some handle =>
      install s handle token.accessToken
      return token.accessToken

/-! ## Using the session -/

/-- Starts a fetch. Without a token the session is torn down, and a target that is not on the node
is refused. -/
def startFetch (s : Storage σ) (e : Endpoints) (r : Request) : Step σ PendingFetch := do
  let m := (← get).manager
  match m.token with
  | none =>
    tryCatch (deauthenticate s .missingToken none) fun _ => return ()
    throw .unauthenticated
  | some token =>
    let request ← MonadExcept.ofExcept (Gateway.prepare e.serverOrigin r)
    return ⟨request, token, m.epoch⟩

/-- Finishes a fetch. A credential that was not accepted ends the session, if it still is the one
that sent it. -/
def finishFetch (s : Storage σ) (p : PendingFetch) (answer : Except AuthFault Response) :
    Step σ Response := do
  match Gateway.interpret answer with
  | .error .unauthenticated =>
    tryCatch (deauthenticate s .rejected (some p.epoch)) fun _ => return ()
    throw .unauthenticated
  | .error fault => throw fault
  | .ok response => return response

def logout (s : Storage σ) : Step σ Unit := deauthenticate s .logout none

end Manager

end SignIn
