import SignIn.Calendar
import SignIn.Json.Record

/-!
# Tokens

What a token endpoint answers, and when a token expires. The expiry is absent where no lifetime was
given, and where the lifetime or the sum with the time of issue cannot be represented.
-/

namespace SignIn

structure TokenResponse where
  accessToken : String
  tokenType : String := "DPoP"
  expiresIn : Option Int64 := none
  scope : Option String := none
  refreshToken : Option String := none
  sub : Option String := none
  deriving DecidableEq

namespace TokenResponse

/-- The fields of the answer; all but the token may be missing. -/
def fields : List Json.Field :=
  [.required "access_token" .text, ⟨"token_type", .text, some "DPoP"⟩,
   ⟨"expires_in", .optionalInteger, some none⟩, ⟨"scope", .optionalText, some none⟩,
   ⟨"refresh_token", .optionalText, some none⟩, ⟨"sub", .optionalText, some none⟩]

def values (t : TokenResponse) : Json.Values fields :=
  (t.accessToken, t.tokenType, t.expiresIn, t.scope, t.refreshToken, t.sub, ())

def ofValues (v : Json.Values fields) : TokenResponse :=
  let (a, b, c, d, e, f, _) := v
  ⟨a, b, c, d, e, f⟩

def toJson (t : TokenResponse) : Json := Json.writeRecord fields t.values

def decode (bs : Bytes) : Except Json.Refusal TokenResponse :=
  (Json.decodeRecord "struct TokenResponse" fields bs).map ofValues

def expiresAt (t : TokenResponse) (issued : Instant) : Except Overflow (Option Instant) :=
  match t.expiresIn.bind fun seconds => Span.ofSeconds? seconds.toInt with
  | none => return none
  | some lifetime => issued.plus lifetime

end TokenResponse

end SignIn
