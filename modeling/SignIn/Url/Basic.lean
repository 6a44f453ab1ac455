import SignIn.Url.Form
import SignIn.Url.Host

/-!
# URLs

A URL in its parts. `Url.text` writes the parts; what it writes is the serialized form in which
URLs are shown, sent and compared.
-/

namespace SignIn

/-- What stands between `//` and the path. -/
structure Authority where
  username : String
  password : Option String
  host : Option Host
  port : Option UInt16
  deriving DecidableEq

/-- The path of a URL: segments with a slash before each, or a text of no structure. -/
inductive UrlPath where
  | segments (parts : List String)
  | plain (text : String)
  deriving DecidableEq

structure Url where
  scheme : String
  authority : Option Authority
  path : UrlPath
  query : Option String
  fragment : Option String
  deriving DecidableEq

/-- The port that a scheme uses unless another is named; none for a scheme that is not special. -/
def defaultPort? (scheme : String) : Option UInt16 :=
  if scheme = "http" ∨ scheme = "ws" then some 80
  else if scheme = "https" ∨ scheme = "wss" then some 443
  else if scheme = "ftp" then some 21
  else none

def isSpecial (scheme : String) : Bool := scheme == "file" || (defaultPort? scheme).isSome

namespace Authority

def userinfo (a : Authority) : String :=
  match a.password with
  | some p => a.username ++ ":" ++ p ++ "@"
  | none => if a.username = "" then "" else a.username ++ "@"

def hostText (a : Authority) : String := (a.host.map Host.text).getD ""

def text (a : Authority) : String :=
  a.userinfo ++ a.hostText ++ (a.port.map fun p => ":" ++ toString p.toNat).getD ""

end Authority

namespace UrlPath

def text : UrlPath → String
  | .segments parts => String.join (parts.map ("/" ++ ·))
  | .plain s => s

/-- Whether the written path would be taken for an authority. -/
def startsDouble : UrlPath → Bool
  | .segments ("" :: _ :: _) => true
  | _ => false

end UrlPath

namespace Url

/-- A text after a sign, or nothing. -/
def after (sign : String) (part : Option String) : String := (part.map (sign ++ ·)).getD ""

def text (u : Url) : String :=
  let before :=
    match u.authority with
    | some a => "//" ++ a.text
    | none => if u.path.startsDouble then "/." else ""
  u.scheme ++ ":" ++ before ++ u.path.text ++ after "?" u.query ++ after "#" u.fragment

def host? (u : Url) : Option Host := u.authority.bind (·.host)

/-- The port that is used: the one named, or the scheme's. -/
def effectivePort? (u : Url) : Option UInt16 :=
  (u.authority.bind (·.port)).or (defaultPort? u.scheme)

/-- Whether the path has no structure, so that nothing is relative to the URL. -/
def isPlain (u : Url) : Bool :=
  match u.path with
  | .plain _ => true
  | .segments _ => false

def trimSpaces (s : String) : String :=
  String.ofList ((s.toList.reverse.dropWhile (· == ' ')).reverse)

def bare (u : Url) : Url :=
  { u with
    query := none
    fragment := none
    path :=
      match u.path with
      | .plain s => .plain (trimSpaces s)
      | .segments parts => .segments parts }

def appendPairs (u : Url) (pairs : List (String × String)) : Url :=
  let added := String.ofList (Form.encodePairs pairs)
  { u with
    query :=
      match u.query with
      | none => some added
      | some "" => some added
      | some q => some (if pairs.isEmpty then q else q ++ "&" ++ added) }

def pairs (u : Url) : List (String × String) :=
  match u.query with
  | none => []
  | some q => Form.decodePairs q.toList

end Url

end SignIn
