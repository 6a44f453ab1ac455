import SignIn.Url.Reader

/-!
# Origins

Scheme, host and port of a URL in one of the schemes of the web. A URL that carries another in
its path has the origin of that one, and every other URL has an origin of its own that equals
none, not even itself.
-/

namespace SignIn

inductive Origin where
  | web (scheme : String) (host : Host) (port : UInt16)
  | unique
  deriving DecidableEq

namespace Origin

/-- Whether two URLs have the same origin. A unique origin is the same as none. -/
def same : Origin → Origin → Bool
  | .web s h p, .web s' h' p' => s == s' && h == h' && p == p'
  | _, _ => false

def text : Origin → String
  | .web scheme host port =>
    scheme ++ "://" ++ host.text ++
      (if defaultPort? scheme = some port then "" else ":" ++ toString port.toNat)
  | .unique => "null"

/-- The origin of a URL, where at most `depth` URLs are carried in one another. -/
def ofUrlWithin : Nat → Url → Origin
  | depth, u =>
    if u.scheme = "blob" then
      match depth with
      | 0 => .unique
      | depth + 1 =>
        match Url.parse u.path.text with
        | .ok inner => ofUrlWithin depth inner
        | .error _ => .unique
    else if u.scheme = "file" then .unique
    else
      match u.host?, u.effectivePort? with
      | some host, some port =>
        if isSpecial u.scheme then .web u.scheme host port else .unique
      | _, _ => .unique

end Origin

def Url.origin (u : Url) : Origin := Origin.ofUrlWithin u.text.length u

end SignIn
