import SignIn.Json.Printer
import SignIn.Json.Reader
import SignIn.Text.Blank
import SignIn.Url.Origin

/-!
# Requests and responses

What an application asks of its node, what is sent for it, and what comes back.
-/

namespace SignIn

/-- The characters of a token: names of methods and of headers are made of them. -/
def isTokenChar (c : Char) : Bool :=
  c.isAlphanum || ['!', '#', '$', '%', '&', '\x27', '*', '+', '-', '.', '^', '_', '\x60', '|',
    '~'].contains c

def isToken (s : String) : Bool := s != "" && s.toList.all isTokenChar

/-- A method of a request, which is a token. -/
structure Method where
  name : String
  deriving DecidableEq

namespace Method

def ofText? (s : String) : Option Method := if isToken s then some ⟨s⟩ else none

def get : Method := ⟨"GET"⟩

def post : Method := ⟨"POST"⟩

end Method

/-- A request of an application: its target is a path or a URL of the node. -/
structure Request where
  method : Method
  target : String
  headers : List (String × String) := []
  body : Option Bytes := none
  deriving DecidableEq

namespace Request

def withHeader (r : Request) (name value : String) : Request :=
  { r with headers := r.headers ++ [(name, value)] }

/-- The request with a body, in place of an earlier one. -/
def withBody (r : Request) (body : Bytes) : Request := { r with body := some body }

/-- The request with a JSON value as its body, and a header that says so. -/
def withJson (r : Request) (value : Json) : Request :=
  (r.withHeader "Content-Type" "application/json").withBody value.compact

end Request

structure ResourceRequest where
  method : Method
  url : Url
  headers : List (String × String)
  body : Option Bytes
  deriving DecidableEq

/-- What the server answered. The names of headers are in small letters. -/
structure Response where
  status : Nat
  headers : List (String × Bytes)
  body : Bytes
  deriving DecidableEq

namespace Response

def isSuccess (r : Response) : Bool := decide (200 ≤ r.status ∧ r.status < 300)

/-- The body as a text, bytes that spell none being replaced. -/
def text (r : Response) : String := Bytes.lossyText r.body

def json (r : Response) : Except Json.Refusal Json := Json.parse r.body

/-- The value of the first header of a name, in whatever case its letters are. -/
def header? (r : Response) (name : String) : Option Bytes :=
  (r.headers.find? fun h => Text.lowerAscii h.1 == Text.lowerAscii name).map (·.2)

end Response

structure TokenRequest where
  endpoint : Url
  code : String
  redirectUri : String
  clientId : String
  deriving DecidableEq

/-- A client that notes what it is handed. -/
def noting {m : Type → Type} [Monad m] {ρ α : Type} (send : ρ → m α) (r : ρ) :
    StateT (List ρ) m α := do
  modify (· ++ [r])
  send r

end SignIn
