import SignIn.Url.Origin

/-!
# Callbacks

The URL that an authorization server redirects to carries the outcome of the login in its query.
Of several parameters of one name the first counts.
-/

namespace SignIn

structure CallbackParams where
  code : Option String := none
  state : Option String := none
  iss : Option String := none
  error : Option String := none
  errorDescription : Option String := none
  deriving DecidableEq

namespace CallbackParams

/-- The parameters with one more pair, whose value counts if no pair before it had its name. -/
def put (p : CallbackParams) (pair : String × String) : CallbackParams :=
  match pair.1 with
  | "code" => { p with code := p.code.or (some pair.2) }
  | "state" => { p with state := p.state.or (some pair.2) }
  | "iss" => { p with iss := p.iss.or (some pair.2) }
  | "error" => { p with error := p.error.or (some pair.2) }
  | "error_description" => { p with errorDescription := p.errorDescription.or (some pair.2) }
  | _ => p

def ofPairs (pairs : List (String × String)) : CallbackParams := pairs.foldl put {}

def ofUrl (u : Url) : CallbackParams := ofPairs u.pairs

end CallbackParams

/-- The redirect URI of a callback: the URL without what the server added. -/
def redirectUriOf (callback : Url) : String := callback.bare.text

end SignIn
