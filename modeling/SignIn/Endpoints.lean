import SignIn.ClientMetadata
import SignIn.Settings.Basic

/-!
# Endpoints of a node

Where a login is authorized and where its code is exchanged, and as whom the client asks.
-/

namespace SignIn

structure Endpoints where
  serverOrigin : Url
  issuer : String
  authorization : Url
  token : Url
  clientId : String
  deriving DecidableEq

namespace Endpoints

/-- The endpoints below an origin. The issuer is the authorization endpoint as it is written. -/
def ofOrigin (origin : Url) (clientId : String) : Except UrlFault Endpoints := do
  let authorization ← origin.join "oauth/authorize"
  let token ← origin.join "oauth/token"
  return ⟨origin, authorization.text, authorization, token, clientId⟩

def ofSettings (s : Settings) : Except AuthFault Endpoints := do
  match s.validate, s.serverOrigin with
  | .error fault, _ => throw (.config fault.message)
  | _, .error fault => throw (.config fault.message)
  | .ok _, .ok origin =>
    match ofOrigin origin (ClientMetadata.forDomain s.appDomain).clientId with
    | .ok endpoints => return endpoints
    | .error fault => throw (.url fault)

/-- The endpoints of a node for a client of another domain. -/
def forDomains (server app : String) : Except AuthFault Endpoints :=
  ofSettings { serverDomain := server, appDomain := app }

end Endpoints

end SignIn
