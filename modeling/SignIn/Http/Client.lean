import SignIn.Http.Wire
import SignIn.Token

/-!
# The client of the node

Sends grants and fetches. With a prover every request carries a proof over the last nonce that the
server handed out. A first response that refuses the request and hands out a nonce that is new is
answered by sending the request once more, with a proof over that nonce.

The network below is a parameter. It is the HTTP library's way to carry out one request, which
follows redirects by itself: its response is the one at the end of them, and what a redirect makes
it send is not among the requests here.
-/

namespace SignIn.Http

/-- Makes the proof of a request: from its method and URL, the nonce, and the token if there is
one. -/
abbrev Prover := Method → Url → Option String → Option String → Except AuthFault String

structure NonceMemory where
  nonce : Option String := none
  deriving DecidableEq

/-- Whether a byte of a nonce can be read: visible ASCII, space or tab. -/
def isReadable (b : UInt8) : Bool := b == 9 || (32 ≤ b && b < 127)

/-- The nonce that a response hands out, if it can be read. -/
def nonceOf? (r : Response) : Option String :=
  (r.header? "DPoP-Nonce").bind fun value =>
    if value.all isReadable then Bytes.text? value else none

namespace NonceMemory

/-- Remembers the nonce of a response. Gives it if it is another than the one remembered. -/
def remember (m : NonceMemory) (r : Response) : Option String × NonceMemory :=
  match nonceOf? r with
  | none => (none, m)
  | some fresh => if m.nonce = some fresh then (none, m) else (some fresh, ⟨some fresh⟩)

/-- Takes in a first response. Gives the nonce for a second request, if there has to be one. -/
def afterFirst (m : NonceMemory) (proving : Bool) (r : Response) : Option String × NonceMemory :=
  let (fresh, m) := m.remember r
  (if proving && (r.status == 400 || r.status == 401) then fresh else none, m)

def afterSecond (m : NonceMemory) (r : Response) : NonceMemory := (m.remember r).2

end NonceMemory

/-! ## Requests -/

def proofHeaders (prover : Option Prover) (method : Method) (url : Url)
    (nonce token : Option String) : Except AuthFault (List (String × String)) :=
  match prover with
  | none => .ok []
  | some prove => do return [("DPoP", ← prove method url nonce token)]

def grantPairs (r : TokenRequest) : List (String × String) :=
  [("grant_type", "authorization_code"), ("code", r.code), ("redirect_uri", r.redirectUri),
   ("client_id", r.clientId)]

def grantBody (r : TokenRequest) : Bytes :=
  Bytes.ofText (String.ofList (Form.encodePairs (grantPairs r)))

def grantRequest (prover : Option Prover) (r : TokenRequest) (nonce : Option String) :
    Except AuthFault HttpRequest := do
  let proof ← proofHeaders prover .post r.endpoint nonce none
  let form := { start .post r.endpoint with body := some (grantBody r) }
  return form.withHeaders (("Content-Type", "application/x-www-form-urlencoded") :: proof)

/-- The value that presents a token. -/
def authorizationValue (proving : Bool) (token : String) : String :=
  (if proving then "DPoP " else "Bearer ") ++ token

def fetchRequest (prover : Option Prover) (token : String) (r : ResourceRequest)
    (nonce : Option String) : Except AuthFault HttpRequest := do
  let proof ← proofHeaders prover r.method r.url nonce (some token)
  let plain := { start r.method r.url with body := r.body }
  return plain.withHeaders
    (("Authorization", authorizationValue prover.isSome token) :: r.headers ++ proof)

/-! ## Sending -/

/-- A network: takes a request that can be written and gives the response that the HTTP library
comes to, after whatever redirects it followed. -/
abbrev Network (m : Type → Type) := HttpRequest → m (Except HttpFault Response)

/-- Sends one request, if it can be written. -/
def transmit {m : Type → Type} [Monad m] (network : Network m) (r : HttpRequest) :
    m (Except AuthFault Response) :=
  match r.fault? with
  | some fault => pure (.error (.http fault))
  | none => (Except.mapError AuthFault.http) <$> network r

/-- Sends a request, and once more if the server asks for another nonce. -/
def send {m : Type → Type} [Monad m] (network : Network m) (proving : Bool)
    (build : Option String → Except AuthFault HttpRequest) (memory : NonceMemory) :
    m (Except AuthFault Response × NonceMemory) := do
  match build memory.nonce with
  | .error fault => return (.error fault, memory)
  | .ok first =>
    match ← transmit network first with
    | .error fault => return (.error fault, memory)
    | .ok response =>
      let (retry, memory) := memory.afterFirst proving response
      match retry with
      | none => return (.ok response, memory)
      | some nonce =>
        match build (some nonce) with
        | .error fault => return (.error fault, memory)
        | .ok second =>
          match ← transmit network second with
          | .error fault => return (.error fault, memory)
          | .ok response => return (.ok response, memory.afterSecond response)

def tokenOf (r : Response) : Except AuthFault TokenResponse :=
  if r.isSuccess then
    match TokenResponse.decode r.body with
    | .ok token => .ok token
    | .error _ => .error (.http .unreadable)
  else .error (.tokenEndpoint r.status r.text)

def grant {m : Type → Type} [Monad m] (network : Network m) (prover : Option Prover)
    (r : TokenRequest) (memory : NonceMemory) :
    m (Except AuthFault TokenResponse × NonceMemory) := do
  let (answer, memory) ← send network prover.isSome (grantRequest prover r) memory
  return (answer.bind tokenOf, memory)

/-- Fetches a resource with a token. Every status is an answer. -/
def fetch {m : Type → Type} [Monad m] (network : Network m) (prover : Option Prover)
    (token : String) (r : ResourceRequest) (memory : NonceMemory) :
    m (Except AuthFault Response × NonceMemory) :=
  send network prover.isSome (fetchRequest prover token r) memory

end SignIn.Http
