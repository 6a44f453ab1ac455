import SignIn.CommandLine.Console
import SignIn.CommandLine.Fault
import SignIn.Http.Status
import SignIn.Session.Manager

/-!
# Commands

Each command that needs the session opens a manager on the store, makes it take its steps, and
prints what came of them. What a command was told is checked before the store is touched.
-/

namespace SignIn.CommandLine

/-- What reaches the node. -/
structure Client (m : Type → Type) where
  grant : TokenRequest → m (Except AuthFault TokenResponse)
  fetch : String → ResourceRequest → m (Except AuthFault Response)

/-- What a command works with, over a store `σ` and a client in `m`. -/
structure CommandContext (σ : Type) (m : Type → Type) where
  settings : Settings
  format : OutputFormat
  storage : Storage σ
  openStore : Access σ Unit
  client : Client m
  /-- the state of a login that may be started -/
  freshState : String
  /-- shows a URL to the user, if that can be done -/
  browse : String → m Bool
  /-- the line that tells of the loss of a session -/
  notice : DeauthReason → Option String

/-- What a command has made of the store, and what it has printed. -/
structure Progress (σ : Type) where
  store : σ
  console : Console := {}

/-- A command that runs. What it did before a fault stays done. -/
abbrev Run (σ : Type) (m : Type → Type) (α : Type) :=
  ExceptT CommandFault (StateT (Progress σ) m) α

section

variable {σ : Type} {m : Type → Type} [Monad m]

/-! ## Steps -/

def printAll (lines : List String) : Run σ m Unit :=
  modify fun p => { p with console := lines.foldl Console.print p.console }

def complainAll (lines : List String) : Run σ m Unit :=
  modify fun p => { p with console := lines.foldl Console.complain p.console }

def printJson (j : Json) : Run σ m Unit := printAll [j.prettyText]

def ask {α : Type} (request : m α) : Run σ m α := ExceptT.lift (StateT.lift request)

/-- A result of something else, its fault being a fault of the command. -/
def orFail {ε α : Type} (fault : ε → CommandFault) : Except ε α → Run σ m α
  | .ok a => return a
  | .error e => throw (fault e)

def onStore {ε α : Type} (fault : ε → CommandFault) (call : σ → Except ε α × σ) :
    Run σ m α := do
  let (answer, store) := call (← get).store
  modify fun p => { p with store := store }
  orFail fault answer

variable (w : CommandContext σ m)

/-- Opens the store and a manager on it, for the endpoints of the settings. -/
def openManager : Run σ m (Endpoints × Manager) := do
  let endpoints ← orFail .auth (Endpoints.ofSettings w.settings)
  onStore .store w.openStore
  let manager ← onStore .auth (Manager.openOn w.storage)
  return (endpoints, manager)

/-- Makes a manager take a step, and tells of the notices it gave. -/
def take {α : Type} (manager : Manager) (step : Step σ α) : Run σ m (α × Manager) := do
  let (answer, after) := step ⟨manager, (← get).store, []⟩
  modify fun p => { p with store := after.store }
  complainAll (after.notices.filterMap fun n => w.notice n.reason)
  let a ← orFail .auth answer
  return (a, after.manager)

/-! ## Signing in and out -/

/-- The redirect URI of a login: the one that was asked for, or the client's own. -/
def redirectOf (asked : Option String) : Run σ m Url :=
  match asked with
  | some text => orFail .badRedirect (Url.parse text)
  | none =>
    match (ClientMetadata.forDomain w.settings.appDomain).redirectUri? with
    | none => throw .noRedirect
    | some text => orFail .badOwnRedirect (Url.parse text)

def printLogin (handle : String) (url redirect : Url) : Run σ m Unit :=
  match w.format with
  | .text =>
    printAll ["Open this URL to sign in as " ++ handle ++ ":", "", "  " ++ url.text, "",
      "Then run 'habitat callback <redirected-url>'."]
  | .json =>
    printJson (Json.obj [("handle", .text handle), ("login_url", .text url.text),
      ("redirect_uri", .text redirect.text)])

def login (handle : String) (asked : Option String) (browse : Bool) : Run σ m Unit := do
  let handle := Text.trim handle
  if handle = "" then throw .noHandle
  let redirect ← redirectOf w asked
  let (endpoints, manager) ← openManager w
  let (url, _) ← take w manager
    (Manager.login w.storage endpoints w.freshState handle redirect)
  printLogin w handle url redirect
  if browse then
    unless ← ask (w.browse url.text) do
      complainAll [failureLine w.format "Could not open a browser, copy the URL instead"]

def callback (url : String) : Run σ m Unit := do
  let (endpoints, manager) ← openManager w
  let (pending, manager) ← take w manager (Manager.startExchange w.storage endpoints url)
  let granted ← ask (w.client.grant pending.request)
  let (_, manager) ← take w manager (Manager.finishExchange w.storage pending granted)
  printAll [successLine w.format ("Logged in as " ++ manager.handle.getD "")]

def logout : Run σ m Unit := do
  let (_, manager) ← openManager w
  let _ ← take w manager (Manager.logout w.storage)
  printAll [successLine w.format "Logged out successfully"]

/-! ## Showing -/

def sessionRows : SessionView → List String
  | .authenticated handle => [tableRow "Auth" "logged in", tableRow "Handle" handle]
  | .loginPending handle =>
    [tableRow "Auth" "login pending", tableRow "Handle" (handle.getD "unknown")]
  | .unauthenticated _ => [tableRow "Auth" "not logged in"]

/-- A session in JSON, its members in order. -/
def sessionMembers (v : SessionView) : Json :=
  Json.obj [("state", .text v.phase.word), ("handle", v.handle?.elim .null .text)]

def status : Run σ m Unit := do
  let (endpoints, manager) ← openManager w
  let node := endpoints.serverOrigin.text
  match w.format with
  | .text => printAll (tableRow "Node" node :: sessionRows manager.view)
  | .json =>
    printJson (Json.obj [("node", .text node), ("session", sessionMembers manager.view)])

def clientMetadata : Run σ m Unit :=
  printJson (ClientMetadata.forDomain w.settings.appDomain).toJson

/-! ## Fetching -/

/-- The name and the value of a header, without the blanks at their ends. -/
def splitHeader (raw : String) : Except CommandFault (String × String) :=
  match Text.cutAt (· == ':') raw.toList with
  | (_, none) => .error (.noColon raw)
  | (name, some value) =>
    let name := Text.trim (String.ofList name)
    if name = "" then .error (.noHeaderName raw)
    else .ok (name, Text.trim (String.ofList value))

def methodOf (text : String) : Except CommandFault Method :=
  match Method.ofText? (String.ofList (text.toList.map Char.toUpper)) with
  | some method => .ok method
  | none => .error (.badMethod text)

def requestOf (target method : String) (body : Option String) (headers : List String) :
    Except CommandFault Request := do
  let method ← methodOf method
  let headers ← headers.mapM splitHeader
  return ⟨method, target, headers, body.map Bytes.ofText⟩

/-- A response in JSON. Of several headers of one name the last is shown. -/
def responseJson (r : Response) : Json :=
  let body :=
    match r.json with
    | .ok j => j
    | .error _ => .text r.text
  Json.obj [("status", .int r.status), ("body", body),
    ("headers", Json.obj (r.headers.map fun (name, value) =>
      (name, .text (Bytes.lossyText value))))]

def printResponse (r : Response) : Run σ m Unit :=
  match w.format with
  | .text => do
    unless r.isSuccess do
      complainAll ["HTTP " ++ Http.statusLine r.status]
    printAll [r.text]
  | .json => printJson (responseJson r)

def fetch (request : Request) : Run σ m Unit := do
  let (endpoints, manager) ← openManager w
  let (pending, manager) ← take w manager (Manager.startFetch w.storage endpoints request)
  let answer ← ask (w.client.fetch pending.token pending.request)
  let (response, _) ← take w manager (Manager.finishFetch w.storage pending answer)
  printResponse w response

def perform : Command → Run σ m Unit
  | .login handle redirect browse => login w handle redirect browse
  | .callback url => callback w url
  | .status => status w
  | .logout => logout w
  | .fetch target method body headers => do
    fetch w (← orFail id (requestOf target method body headers))
  | .clientMetadata => clientMetadata w

end

end SignIn.CommandLine
