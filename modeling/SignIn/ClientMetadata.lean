import SignIn.Json.Record

/-!
# Client metadata

The document that a client publishes under its domain, so that an authorization server can look
up who asks for a login and where it may redirect to.
-/

namespace SignIn

structure ClientMetadata where
  clientId : String
  clientName : String
  clientUri : String
  redirectUris : List String
  scope : String
  grantTypes : List String
  responseTypes : List String
  tokenEndpointAuthMethod : String
  applicationType : String
  dpopBoundAccessTokens : Bool
  deriving DecidableEq

namespace ClientMetadata

def forDomain (domain : String) : ClientMetadata where
  clientId := "https://" ++ domain ++ "/client-metadata.json"
  clientName := "Habitat"
  clientUri := "https://" ++ domain
  redirectUris := ["https://" ++ domain ++ "/oauth-login"]
  scope := "atproto transition:generic"
  grantTypes := ["authorization_code", "refresh_token"]
  responseTypes := ["code"]
  tokenEndpointAuthMethod := "none"
  applicationType := "web"
  dpopBoundAccessTokens := true

def redirectUri? (m : ClientMetadata) : Option String := m.redirectUris.head?

/-- The fields of the document; all have to be there. -/
def fields : List Json.Field :=
  [.required "client_id" .text, .required "client_name" .text, .required "client_uri" .text,
   .required "redirect_uris" .texts, .required "scope" .text, .required "grant_types" .texts,
   .required "response_types" .texts, .required "token_endpoint_auth_method" .text,
   .required "application_type" .text, .required "dpop_bound_access_tokens" .flag]

def values (m : ClientMetadata) : Json.Values fields :=
  (m.clientId, m.clientName, m.clientUri, m.redirectUris, m.scope, m.grantTypes,
    m.responseTypes, m.tokenEndpointAuthMethod, m.applicationType, m.dpopBoundAccessTokens, ())

def ofValues (v : Json.Values fields) : ClientMetadata :=
  let (a, b, c, d, e, f, g, h, i, j, _) := v
  ⟨a, b, c, d, e, f, g, h, i, j⟩

def toJson (m : ClientMetadata) : Json := Json.writeRecord fields m.values

def decode (bs : Bytes) : Except Json.Refusal ClientMetadata :=
  (Json.decodeRecord "struct ClientMetadata" fields bs).map ofValues

end ClientMetadata

end SignIn
