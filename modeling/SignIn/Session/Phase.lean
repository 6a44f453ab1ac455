import SignIn.Json.Record

/-!
# Phases of a session

A session is signed out, waits for a login to come back, or holds a token. Events move it from
one phase to another; a phase refuses the events that make no sense in it. The loss of the
session is accepted in every phase.
-/

namespace SignIn

/-- Where a session stands. -/
inductive Phase where
  | unauthenticated
  | loginPending
  | authenticated
  deriving DecidableEq

inductive SessionEvent where
  | loginUrlIssued
  | sessionRestored
  | exchangeSucceeded
  | exchangeFailed
  | sessionLost
  deriving DecidableEq

def SessionEvent.name : SessionEvent → String
  | .loginUrlIssued => "LoginUrlIssued"
  | .sessionRestored => "SessionRestored"
  | .exchangeSucceeded => "ExchangeSucceeded"
  | .exchangeFailed => "ExchangeFailed"
  | .sessionLost => "SessionLost"

def SessionEvent.ofName? (s : String) : Option SessionEvent :=
  [loginUrlIssued, sessionRestored, exchangeSucceeded, exchangeFailed, sessionLost].find?
    (·.name == s)

namespace Phase

def name : Phase → String
  | .unauthenticated => "Unauthenticated"
  | .loginPending => "LoginPending"
  | .authenticated => "Authenticated"

/-- The phase after an event, none where it is refused. -/
def next? : Phase → SessionEvent → Option Phase
  | .unauthenticated, .loginUrlIssued => some .loginPending
  | .unauthenticated, .sessionRestored => some .authenticated
  | .loginPending, .loginUrlIssued => some .loginPending
  | .loginPending, .exchangeSucceeded => some .authenticated
  | .loginPending, .exchangeFailed => some .unauthenticated
  | .authenticated, .loginUrlIssued => some .loginPending
  | _, .sessionLost => some .unauthenticated
  | _, _ => none

def isAuthenticated (p : Phase) : Bool := p == .authenticated

def isPending (p : Phase) : Bool := p == .loginPending

def word : Phase → String
  | .unauthenticated => "unauthenticated"
  | .loginPending => "login_pending"
  | .authenticated => "authenticated"

def words : List (String × Phase) :=
  [.unauthenticated, .loginPending, .authenticated].map fun p => (p.word, p)

def toJson (p : Phase) : Json := .text p.word

def decode (bs : Bytes) : Except Json.Refusal Phase := Json.decodeVariant words bs

end Phase

inductive DeauthReason where
  | logout
  | missingToken
  | rejected
  deriving DecidableEq

namespace DeauthReason

def name : DeauthReason → String
  | .logout => "Logout"
  | .missingToken => "MissingToken"
  | .rejected => "Rejected"

def word : DeauthReason → String
  | .logout => "logout"
  | .missingToken => "missing_token"
  | .rejected => "rejected"

def words : List (String × DeauthReason) :=
  [.logout, .missingToken, .rejected].map fun r => (r.word, r)

def toJson (r : DeauthReason) : Json := .text r.word

def decode (bs : Bytes) : Except Json.Refusal DeauthReason := Json.decodeVariant words bs

end DeauthReason

end SignIn
