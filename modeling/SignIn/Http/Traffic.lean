import SignIn.Http.Client

/-!
# Calls that overlap

Any number of calls may be under way on one client. Each reads the remembered nonce, sends its
request and takes the response; then it is over, or it sends once more and takes the second
response. The calls share nothing but the memory of the nonce, and their moves come in any order. A
move that a call cannot make changes nothing.
-/

namespace SignIn.Http

inductive Call where
  | grant (r : TokenRequest)
  | fetch (token : String) (r : ResourceRequest)

def Call.request (prover : Option Prover) (nonce : Option String) :
    Call → Except AuthFault HttpRequest
  | .grant r => grantRequest prover r nonce
  | .fetch token r => fetchRequest prover token r nonce

/-- How far a call has come: what it does or waits for next. -/
inductive Stage where
  | unread
  | ready
  | first
  | renewed (fresh : String)
  | second
  | over (answer : Except AuthFault Response)

/-- The course of a call: the nonce that it read, what it sent and what it received, the earliest
first. -/
structure Course where
  call : Call
  own : Option String := none
  stage : Stage := .unread
  sent : List HttpRequest := []
  received : List Response := []

namespace Course

/-- Reads the remembered nonce, once. -/
def read (memory : NonceMemory) (c : Course) : Course :=
  match c.stage with
  | .unread => { c with own := memory.nonce, stage := .ready }
  | _ => c

/-- Sends a request with a proof over a nonce, if it can be made and written. -/
def transmit (prover : Option Prover) (nonce : Option String) (waiting : Stage) (c : Course) :
    Course :=
  match c.call.request prover nonce with
  | .error fault => { c with stage := .over (.error fault) }
  | .ok q =>
    match q.fault? with
    | some fault => { c with stage := .over (.error (.http fault)) }
    | none => { c with stage := waiting, sent := c.sent ++ [q] }

/-- Sends the request that is due, if one is. -/
def send (prover : Option Prover) (c : Course) : Course :=
  match c.stage with
  | .ready => c.transmit prover c.own .first
  | .renewed fresh => c.transmit prover (some fresh) .second
  | _ => c

/-- Takes in what the network answers, if it is waited for. -/
def receive (proving : Bool) (memory : NonceMemory) (answer : Except HttpFault Response)
    (c : Course) : Course × NonceMemory :=
  match c.stage, answer with
  | .first, .error fault | .second, .error fault =>
    ({ c with stage := .over (.error (.http fault)) }, memory)
  | .first, .ok r =>
    let (retry, memory) := memory.afterFirst proving r
    let stage : Stage :=
      match retry with
      | some fresh => .renewed fresh
      | none => .over (.ok r)
    ({ c with stage, received := c.received ++ [r] }, memory)
  | .second, .ok r =>
    ({ c with stage := .over (.ok r), received := c.received ++ [r] }, memory.afterSecond r)
  | _, _ => (c, memory)

def isWaiting (c : Course) : Bool :=
  match c.stage with
  | .first | .second => true
  | _ => false

end Course

/-- A move on a client: a call is made, or the call with a number reads the remembered nonce, sends
the request that is due or is answered by the network. -/
inductive Move where
  | call (call : Call)
  | read (k : Nat)
  | send (k : Nat)
  | deliver (k : Nat) (answer : Except HttpFault Response)

/-- A client with the calls on it, numbered in the order in which they were made. -/
structure Traffic where
  memory : NonceMemory := {}
  courses : List Course := []

namespace Traffic

variable (prover : Option Prover)

def move (t : Traffic) : Move → Traffic
  | .call call => { t with courses := t.courses ++ [{ call }] }
  | .read k => { t with courses := t.courses.modify k (Course.read t.memory) }
  | .send k => { t with courses := t.courses.modify k (Course.send prover) }
  | .deliver k answer =>
    match t.courses[k]? with
    | some c =>
      let (c, memory) := c.receive prover.isSome t.memory answer
      ⟨memory, t.courses.set k c⟩
    | none => t

def run (t : Traffic) (moves : List Move) : Traffic := moves.foldl (move prover) t

/-- The nonce that a move hands out: that of a response which is waited for. -/
def hands? (t : Traffic) : Move → Option String
  | .deliver k (.ok r) => if t.courses[k]?.any Course.isWaiting then nonceOf? r else none
  | _ => none

def handed (t : Traffic) : List Move → List String
  | [] => []
  | m :: ms => (t.hands? m).toList ++ (t.move prover m).handed ms

/-- The network answers what a call sent last. -/
def reply (network : HttpRequest → Except HttpFault Response) (k : Nat) (t : Traffic) : Traffic :=
  match t.courses[k]?.bind (·.sent.getLast?) with
  | some q => t.move prover (.deliver k (network q))
  | none => t

end Traffic

end SignIn.Http
