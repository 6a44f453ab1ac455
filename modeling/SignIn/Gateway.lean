import SignIn.Fault
import SignIn.Message

/-!
# The way to the node

Targets are resolved against the origin of the node, and what resolves to another origin is
refused before anything is sent. Every request carries a header that names the way of
authentication, exactly once. A response that does not accept the credential becomes a fault.
-/

namespace SignIn.Gateway

def markerName : String := "Habitat-Auth-Method"

def markerValue : String := "oauth"

def resolve (origin : Url) (target : String) : Except AuthFault Url :=
  match origin.join target with
  | .error fault => .error (.url fault)
  | .ok url =>
    if url.origin.same origin.origin then .ok url
    else .error (.foreignOrigin url.origin.text)

/-- Headers without those of the marker's name, and with the marker at the end. -/
def mark (headers : List (String × String)) : List (String × String) :=
  headers.filter (fun h => Text.lowerAscii h.1 != Text.lowerAscii markerName) ++
    [(markerName, markerValue)]

/-- The request that is sent for an application's request. -/
def prepare (origin : Url) (r : Request) : Except AuthFault ResourceRequest := do
  let url ← resolve origin r.target
  return ⟨r.method, url, mark r.headers, r.body⟩

/-- What an answer means: a credential that was not accepted is no answer. -/
def interpret (answer : Except AuthFault Response) : Except AuthFault Response :=
  match answer with
  | .ok response => if response.status = 401 then .error .unauthenticated else .ok response
  | .error fault => .error fault

/-- Sends a request, once, if its target is on the node. -/
def dispatch {m : Type → Type} [Monad m] (origin : Url)
    (send : ResourceRequest → m (Except AuthFault Response)) (r : Request) :
    m (Except AuthFault Response) :=
  match prepare origin r with
  | .error fault => pure (.error fault)
  | .ok request => interpret <$> send request

end SignIn.Gateway
