import SignIn.Fault
import SignIn.Text.Quoted

/-!
# Why a command fails

Before a session is touched, what the command was told can be wrong; after that the faults are
those of the session. The wording names the causes behind a fault as well.
-/

namespace SignIn.CommandLine

inductive CommandFault where
  | noHandle
  | badRedirect (fault : UrlFault)
  | noRedirect
  | badOwnRedirect (fault : UrlFault)
  | badMethod (method : String)
  | noColon (header : String)
  | noHeaderName (header : String)
  | store (fault : StoreFault)
  | auth (fault : AuthFault)
  deriving DecidableEq

namespace CommandFault

def messages : CommandFault → List String
  | .noHandle => ["Handle is required"]
  | .badRedirect fault => ["Invalid redirect URI", fault.message]
  | .noRedirect => ["Client metadata has no redirect URI"]
  | .badOwnRedirect fault => [fault.message]
  | .badMethod method => ["Invalid HTTP method " ++ Text.quoted method, "invalid HTTP method"]
  | .noColon header => ["Header must look like 'Name: value', got " ++ Text.quoted header]
  | .noHeaderName header => ["Header name is empty in " ++ Text.quoted header]
  | .store fault => fault.message :: fault.causes
  | .auth fault => fault.message :: fault.causes

def message (f : CommandFault) : String := String.intercalate ": " f.messages

end CommandFault

end SignIn.CommandLine
