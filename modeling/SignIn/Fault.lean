import SignIn.Json.Fault
import SignIn.Url.Fault

/-!
# Why an operation fails

The causes for which signing in, using a session or keeping it can fail, and their wording. A
failure is transient if trying again may help, and it ends the session only if the server does
not accept the credential any more.
-/

namespace SignIn

inductive IoFault where
  | notFound
  | isDirectory
  | notDirectory
  | alreadyExists
  | notText
  deriving DecidableEq

def IoFault.message : IoFault → String
  | .notFound => "No such file or directory (os error 2)"
  | .isDirectory => "Is a directory (os error 21)"
  | .notDirectory => "Not a directory (os error 20)"
  | .alreadyExists => "File exists (os error 17)"
  | .notText => "stream did not contain valid UTF-8"

inductive StoreFault where
  | encoding (detail : String)
  | io (fault : IoFault)
  deriving DecidableEq

def StoreFault.message : StoreFault → String
  | .encoding detail => "Encoding error: " ++ detail
  | .io fault => "IO error: " ++ fault.message

/-- The wordings of what lies behind a fault of the store, the nearest first. -/
def StoreFault.causes : StoreFault → List String
  | .encoding _ => []
  | .io fault => [fault.message]

inductive HttpFault where
  /-- the request cannot be written; the URL is given if it is the reason -/
  | unwritable (url : Option String)
  /-- no answer came; the flag tells whether there was no connection at all -/
  | unanswered (url : String) (unconnected : Bool)
  /-- the answer cannot be read -/
  | unreadable
  deriving DecidableEq

def HttpFault.message : HttpFault → String
  | .unwritable none => "builder error"
  | .unwritable (some url) => "builder error for url (" ++ url ++ ")"
  | .unanswered url _ => "error sending request for url (" ++ url ++ ")"
  | .unreadable => "error decoding response body"

inductive AuthFault where
  | missingState
  | stateMismatch
  | missingHandle
  | missingCode
  | issuerMismatch (expected actual : String)
  | denied (error : String) (description : Option String)
  | unauthenticated
  | foreignOrigin (origin : String)
  | superseded
  | tokenEndpoint (status : Nat) (body : String)
  | invalidTransition (detail : String)
  | proof (detail : String)
  | config (detail : String)
  | storage (fault : StoreFault)
  | http (fault : HttpFault)
  | json (refusal : Json.Refusal)
  | url (fault : UrlFault)
  deriving DecidableEq

namespace AuthFault

def message : AuthFault → String
  | .missingState => "No pending login state; start the login again"
  | .stateMismatch => "Login state mismatch"
  | .missingHandle => "No handle recorded for the pending login"
  | .missingCode => "Callback URL has no authorization code"
  | .issuerMismatch expected actual =>
    "Issuer mismatch: expected " ++ expected ++ ", got " ++ actual
  | .denied error _ => "Authorization denied: " ++ error
  | .unauthenticated => "Not authenticated"
  | .foreignOrigin origin => "Refusing to send credentials to foreign origin " ++ origin
  | .superseded => "Login superseded by a newer session change"
  | .tokenEndpoint status body =>
    "Token endpoint returned HTTP " ++ toString status ++ ": " ++ body
  | .invalidTransition detail => "Invalid auth state transition: " ++ detail
  | .proof detail => "DPoP proof error: " ++ detail
  | .config detail => "Configuration error: " ++ detail
  | .storage fault => "Storage error: " ++ fault.message
  | .http fault => "HTTP error: " ++ fault.message
  | .json refusal => "JSON error: " ++ refusal.message
  | .url fault => "Invalid URL: " ++ fault.message

def causes : AuthFault → List String
  | .storage fault => fault.message :: fault.causes
  | .http fault => [fault.message]
  | .json refusal => [refusal.message]
  | .url fault => [fault.message]
  | _ => []

def isTransient : AuthFault → Bool
  | .http (.unanswered _ unconnected) => unconnected
  | .tokenEndpoint status _ => decide (500 ≤ status ∧ status < 600)
  | _ => false

/-- Whether the session is gone. -/
def isUnauthenticated : AuthFault → Bool
  | .unauthenticated => true
  | _ => false

end AuthFault

end SignIn
