import SignIn.Fault
import SignIn.Message
import SignIn.Text.Base64

/-!
# Requests and responses

A request as it is handed to the HTTP library that carries it out, and a response as the library
gives it; what goes over the wire between the two, redirects included, is the library's. User name
and password of a URL are not part of what is asked for: they become a header. A request can be
written if every header has a token as its name and no control character but the tab in its value,
and if the URL is one of the web. Of a response, blanks around the values of headers are not
received, and some have no body.
-/

namespace SignIn.Http

/-- A request as it is handed over. -/
structure HttpRequest where
  method : Method
  url : Url
  headers : List (String × String)
  body : Option Bytes
  deriving DecidableEq

def HttpRequest.target (r : HttpRequest) : String := r.url.path.text ++ Url.after "?" r.url.query

def isValueByte (b : UInt8) : Bool := b == 9 || (32 ≤ b && b != 127)

def isWritable (header : String × String) : Bool :=
  isToken header.1 && (Bytes.ofText header.2).all isValueByte

/-- Why a request cannot be written, if it cannot. -/
def HttpRequest.fault? (r : HttpRequest) : Option HttpFault :=
  if !r.headers.all isWritable then some (.unwritable none)
  else if r.url.scheme ≠ "http" ∧ r.url.scheme ≠ "https" then some (.unwritable (some r.url.text))
  else none

def decoded? (s : String) : Option String := Bytes.text? (Url.percentDecode s.toList)

/-- User name and password of a URL, if it names any. -/
def credentials? (u : Url) : Option (String × Option String) := do
  let a ← u.authority
  let username ← decoded? a.username
  let password := a.password.bind decoded?
  if username = "" ∧ password.isNone then failure
  return (username, password)

def withoutCredentials (u : Url) : Url :=
  { u with authority := u.authority.map fun a => { a with username := "", password := none } }

def basicAuthorization (credentials : String × Option String) : String × String :=
  let pair := credentials.1 ++ ":" ++ credentials.2.getD ""
  ("Authorization", "Basic " ++ String.ofList (Text.Base64.standard.encode (Bytes.ofText pair)))

/-- A request without a body, its URL's user name and password in a header. -/
def start (method : Method) (url : Url) : HttpRequest :=
  match credentials? url with
  | some c => ⟨method, withoutCredentials url, [basicAuthorization c], none⟩
  | none => ⟨method, url, [], none⟩

/-- The request with headers added at the end. -/
def HttpRequest.withHeaders (r : HttpRequest) (headers : List (String × String)) : HttpRequest :=
  { r with headers := r.headers ++ headers }

/-! ## Responses -/

/-- Whether a response to a request has a body. -/
def hasBody (method : Method) (status : Nat) : Bool :=
  method.name != "HEAD" && status != 204 && status != 304

/-- The value of a header without the spaces and tabs at its ends. -/
def trimValue (value : Bytes) : Bytes :=
  let blank (b : UInt8) : Bool := b == 32 || b == 9
  ((value.dropWhile blank).reverse.dropWhile blank).reverse

def received (method : Method) (r : Response) : Response :=
  { r with
    headers := r.headers.map fun (name, value) => (name, trimValue value)
    body := if hasBody method r.status then r.body else [] }

end SignIn.Http
