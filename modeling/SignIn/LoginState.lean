import SignIn.Text.Base64

/-!
# Login states

The state of a login is a random value that the authorization server hands back. It is written
in base64 for URLs.
-/

namespace SignIn.LoginState

def byteCount : Nat := 32

def ofBytes (bs : Bytes) : String := String.ofList (Text.Base64.forUrls.encode bs)

def isWellFormed (s : String) : Bool :=
  s.length == 43 && s.toList.all fun c => c.isAlphanum || c == '-' || c == '_'

end SignIn.LoginState
