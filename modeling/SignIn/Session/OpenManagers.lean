import SignIn.Session.Manager

/-!
# Managers that share a store

Managers are open over one store, and calls of theirs wait for the network. An act is one step of
one manager, so that calls overlap in every order that a list of acts can spell. A call that waits
has a ticket, which no other call ever gets; it is finished with an answer of the network or
dropped.
-/

namespace SignIn

/-- A call that waits for the network. -/
inductive Waiting where
  | exchange (p : PendingExchange)
  | fetch (p : PendingFetch)
  deriving DecidableEq

/-- A waiting call with its ticket and the number of its manager. -/
structure Ticket where
  number : Nat
  manager : Nat
  call : Waiting
  deriving DecidableEq

/-- What managers are opened on: the storage, how its store is opened, and the endpoints. -/
structure Platform (σ : Type) where
  storage : Storage σ
  openStore : Access σ Unit
  endpoints : Endpoints

/-- The managers that are open over one store, and their calls that wait. Notices stand with the
numbers of their managers, oldest first. -/
structure OpenManagers (σ : Type) where
  store : σ
  managers : List Manager := []
  waiting : List Ticket := []
  issued : Nat := 0
  notices : List (Nat × Notice) := []

/-- An act of one of the managers. Managers and tickets are given by their numbers. -/
inductive Act where
  | openManager
  | login (manager : Nat) (state handle : String) (redirect : Url)
  | startExchange (manager : Nat) (callback : String)
  | finishExchange (ticket : Nat) (granted : Except AuthFault TokenResponse)
  | startFetch (manager : Nat) (request : Request)
  | finishFetch (ticket : Nat) (answer : Except AuthFault Response)
  | drop (ticket : Nat)
  | logout (manager : Nat)

inductive Answer where
  | opened (manager : Nat)
  | loginUrl (url : Url)
  | waits (ticket : Ticket)
  | token (token : String)
  | response (response : Response)
  | done
  | fault (fault : AuthFault)
  /-- there is no such manager -/
  | noManager
  /-- there is no such call -/
  | noCall

namespace OpenManagers

variable {σ : Type} (p : Platform σ) (o : OpenManagers σ)

/-- Makes a manager take a step, and answers with what comes of it. -/
def act {α : Type} (n : Nat) (step : Step σ α)
    (answer : OpenManagers σ → α → Answer × OpenManagers σ) :
    Answer × OpenManagers σ :=
  match o.managers[n]? with
  | none => (.noManager, o)
  | some manager =>
    let (result, after) := step ⟨manager, o.store, []⟩
    let o : OpenManagers σ :=
      { o with
        store := after.store
        managers := o.managers.set n after.manager
        notices := o.notices ++ after.notices.map fun notice => (n, notice) }
    match result with
    | .ok a => answer o a
    | .error fault => (.fault fault, o)

def enter (n : Nat) (call : Waiting) : Answer × OpenManagers σ :=
  let ticket : Ticket := ⟨o.issued, n, call⟩
  (.waits ticket, { o with waiting := o.waiting ++ [ticket], issued := o.issued + 1 })

def ticket? (number : Nat) : Option Ticket := o.waiting.find? (·.number == number)

def without (number : Nat) : OpenManagers σ :=
  { o with waiting := o.waiting.filter (·.number != number) }

def openManager : Answer × OpenManagers σ :=
  match p.openStore o.store with
  | (.error fault, store) => (.fault (.storage fault), { o with store := store })
  | (.ok _, store) =>
    match Manager.openOn p.storage store with
    | (.error fault, store) => (.fault fault, { o with store := store })
    | (.ok manager, store) =>
      (.opened o.managers.length,
        { o with store := store, managers := o.managers ++ [manager] })

def step : Act → Answer × OpenManagers σ
  | .openManager => o.openManager p
  | .login n state handle redirect =>
    o.act n (Manager.login p.storage p.endpoints state handle redirect)
      fun o url => (.loginUrl url, o)
  | .startExchange n callback =>
    o.act n (Manager.startExchange p.storage p.endpoints callback)
      fun o pending => o.enter n (.exchange pending)
  | .finishExchange number granted =>
    match o.ticket? number with
    | some ⟨_, n, .exchange pending⟩ =>
      (o.without number).act n (Manager.finishExchange p.storage pending granted)
        fun o token => (.token token, o)
    | _ => (.noCall, o)
  | .startFetch n request =>
    o.act n (Manager.startFetch p.storage p.endpoints request)
      fun o pending => o.enter n (.fetch pending)
  | .finishFetch number answer =>
    match o.ticket? number with
    | some ⟨_, n, .fetch pending⟩ =>
      (o.without number).act n (Manager.finishFetch p.storage pending answer)
        fun o response => (.response response, o)
    | _ => (.noCall, o)
  | .drop number =>
    match o.ticket? number with
    | some _ => (.done, o.without number)
    | none => (.noCall, o)
  | .logout n => o.act n (Manager.logout p.storage) fun o _ => (.done, o)

def run (acts : List Act) : OpenManagers σ := acts.foldl (fun o a => (o.step p a).2) o

end OpenManagers

end SignIn
