import SignIn.Url.Basic

/-!
# Reading URLs

A text is read as a URL, relative to a base if there is one. Controls and spaces at its ends and
tabs and line breaks anywhere are dropped first. Each part has its own reader, which takes the
characters that are left and gives the part with those after it.
-/

namespace SignIn.Url

/-- How the characters of a text are taken: some separate, and file URLs have rules of their
own. -/
structure Style where
  special : Bool
  file : Bool
  deriving DecidableEq

def Style.of (scheme : String) : Style := ⟨isSpecial scheme, scheme == "file"⟩

def Style.isSlash (style : Style) (c : Char) : Bool := c == '/' || (style.special && c == '\\')

def anySlash (c : Char) : Bool := c == '/' || c == '\\'

def Style.endsAuthority (style : Style) (c : Char) : Bool :=
  style.isSlash c || c == '?' || c == '#'

def endsPath (c : Char) : Bool := c == '?' || c == '#'

/-! ## The parts -/

/-- The characters of a text that count. -/
def significant (s : String) : List Char :=
  (Text.stripEnds (fun c => c.toNat ≤ 32) s.toList).filter
    fun c => c != '\t' && c != '\n' && c != '\r'

/-- The scheme of a text in small letters, and the characters after its colon. -/
def readScheme? (cs : List Char) : Option (String × List Char) :=
  let name := cs.takeWhile fun c => c.isAlphanum || c == '+' || c == '-' || c == '.'
  match name, cs.drop name.length with
  | c :: _, ':' :: rest =>
    if c.isAlpha then some (String.ofList (name.map Char.toLower), rest) else none
  | _, _ => none

/-- User name and password. An empty password counts as none. -/
def readUserinfo (cs : List Char) : String × Option String :=
  let encode (cs : List Char) : String := String.ofList (percentEncode userinfoSet cs)
  let (username, password) := Text.cutAt (· == ':') cs
  (encode username, (password.filter (!·.isEmpty)).map encode)

/-- The text before the last `@`, if there is one, and the text after it. -/
def splitUserinfo (cs : List Char) : Option (List Char) × List Char :=
  let back := cs.reverse
  let (host, user) := Text.cutAt (· == '@') back
  (user.map List.reverse, host.reverse)

/-- The host of an authority and the text of its port after the colon. A colon between brackets
belongs to the host. -/
def splitPort (inBrackets : Bool) : List Char → List Char × Option (List Char)
  | [] => ([], none)
  | c :: cs =>
    if c == ':' && !inBrackets then ([], some cs)
    else
      let inBrackets := if c == '[' then true else if c == ']' then false else inBrackets
      let (host, port) := splitPort inBrackets cs
      (c :: host, port)

/-- A port, none if there are no digits or if it is the scheme's, and the characters after it: a
backslash may follow, which then belongs to the path. -/
def readPort (scheme : String) (cs : List Char) : Except UrlFault (Option UInt16 × List Char) :=
  let digits := cs.takeWhile Char.isDigit
  let rest := cs.drop digits.length
  let n := digits.foldl (fun acc c => acc * 10 + (c.toNat - 48)) 0
  if 65535 < n then .error .badPort
  else if rest.head?.any (· != '\\') then .error .badPort
  else
    let port := UInt16.ofNat n
    .ok (if digits.isEmpty || defaultPort? scheme == some port then none else some port, rest)

def readAuthority (scheme : String) (cs : List Char) :
    Except UrlFault (Authority × List Char) := do
  let style := Style.of scheme
  let whole := cs.takeWhile fun c => !style.endsAuthority c
  let rest := cs.drop whole.length
  let (user, hostport) := splitUserinfo whole
  if user == some [] && hostport.isEmpty && !rest.isEmpty then throw .emptyHost
  let (username, password) := readUserinfo (user.getD [])
  let (hostChars, portChars) := splitPort false hostport
  if style.special && hostChars.isEmpty then throw .emptyHost
  let host ← if style.special then (Host.special hostChars).map some else Host.plain hostChars
  if host.isNone && portChars.isSome then throw .emptyHost
  let (port, left) ←
    match portChars with
    | none => pure (none, [])
    | some cs => readPort scheme cs
  if host.isNone && (username != "" || password.isSome) then throw .emptyHost
  return (⟨username, password, host, port⟩, left ++ rest)

/-- Whether a segment means the segment itself. -/
def isSingleDot (seg : List Char) : Bool :=
  [".", "%2e"].contains (String.ofList (seg.map Char.toLower))

/-- Whether a segment means the segment above. -/
def isDoubleDot (seg : List Char) : Bool :=
  ["..", ".%2e", "%2e.", "%2e%2e"].contains (String.ofList (seg.map Char.toLower))

/-- Whether a segment is the letter of a drive, with a colon or a bar. -/
def isDrive (seg : List Char) : Bool :=
  match seg with
  | [c, d] => c.isAlpha && (d == ':' || d == '|')
  | _ => false

/-- The segments without the last one; the letter of a drive stays. -/
def dropLastSegment (style : Style) (parts : List String) : List String :=
  if style.file && (parts.getLast?.any fun s => isDrive s.toList) then parts else parts.dropLast

/-- Works the segments of a text into those before them: dots are resolved, and a dot segment at
the end leaves an empty one. -/
def pushSegments (style : Style) : List String → List (List Char) → List String
  | parts, [] => parts
  | parts, seg :: segs =>
    let close (parts : List String) : List String := if segs.isEmpty then parts ++ [""] else parts
    let parts :=
      if isDoubleDot seg then close (dropLastSegment style parts)
      else if isSingleDot seg then close parts
      else if style.file && parts.isEmpty && isDrive seg then
        [String.ofList (seg.take 1 ++ [':'])]
      else parts ++ [String.ofList (percentEncode pathSet seg)]
    pushSegments style parts segs

/-- The segments of a file URL: empty ones in front are dropped. -/
def fileSegments (parts : List String) : List String :=
  match parts.dropWhile (· == "") with
  | [] => [""]
  | rest => rest

/-- The path after given segments, from characters up to `?` or `#`. -/
def readSegments (style : Style) (parts : List String) (cs : List Char) : UrlPath :=
  let parts := pushSegments style parts (Text.splitWhere style.isSlash cs)
  .segments (if style.file then fileSegments parts else parts)

def readRootedPath (style : Style) (cs : List Char) : UrlPath :=
  match cs with
  | [] => if style.special then readSegments style [] [] else .segments []
  | c :: rest =>
    if style.isSlash c then readSegments style [] rest else readSegments style [] cs

def readEnd (style : Style) (cs : List Char) : Option String × Option String :=
  let (before, fragment) := Text.cutAt (· == '#') cs
  let set := if style.special then specialQuerySet else querySet
  let query :=
    match before with
    | '?' :: q => some (String.ofList (percentEncode set q))
    | _ => none
  (query, fragment.map fun f => String.ofList (percentEncode fragmentSet f))

/-- A URL from its scheme, its authority, a reader of its path, and the characters of path, query
and fragment. -/
def finish (scheme : String) (authority : Option Authority) (path : List Char → UrlPath)
    (cs : List Char) : Url :=
  let pathChars := cs.takeWhile fun c => !endsPath c
  let (query, fragment) := readEnd (Style.of scheme) (cs.drop pathChars.length)
  ⟨scheme, authority, path pathChars, query, fragment⟩

/-! ## Whole URLs -/

def readAfterSlashes (scheme : String) (cs : List Char) : Except UrlFault Url := do
  let (authority, rest) ← readAuthority scheme cs
  return finish scheme (some authority) (readRootedPath (Style.of scheme)) rest

def withFragment (base : Url) (cs : List Char) : Url :=
  { base with fragment := some (String.ofList (percentEncode fragmentSet cs)) }

def segmentsOf (u : Url) : List String :=
  match u.path with
  | .segments parts => parts
  | .plain _ => []

/-- A text without a scheme, relative to a base that is no file URL. -/
def readRelative (base : Url) (cs : List Char) : Except UrlFault Url :=
  let style := Style.of base.scheme
  match cs with
  | [] => .ok { base with fragment := none }
  | '#' :: rest => .ok (withFragment base rest)
  | '?' :: _ => .ok (finish base.scheme base.authority (fun _ => base.path) cs)
  | c :: rest =>
    if anySlash c then
      if rest.head?.any anySlash then
        match cs with
        | '/' :: '/' :: rest => readAfterSlashes base.scheme rest
        | _ => readAfterSlashes base.scheme (cs.dropWhile anySlash)
      else .ok (finish base.scheme base.authority (readSegments style []) rest)
    else
      .ok (finish base.scheme base.authority (readSegments style (segmentsOf base).dropLast) cs)

/-- The authority of a file URL: a host only. -/
def fileAuthority (host : Option Host) : Authority := ⟨"", none, host, none⟩

/-- Whether characters start with the letter of a drive as a segment. -/
def startsWithDrive (cs : List Char) : Bool :=
  isDrive (cs.take 2) && (cs.drop 2).head?.all fun c => anySlash c || endsPath c

/-- A file URL from the characters after its scheme, or a text relative to a file URL. -/
def readFile (base : Option Url) (cs : List Char) : Except UrlFault Url :=
  let style := Style.of "file"
  let baseDrive := base.bind fun b => (segmentsOf b).head?.filter fun s => isDrive s.toList
  let fresh (host : Option Host) (parts : List String) (cs : List Char) : Url :=
    finish "file" (some (fileAuthority host)) (readSegments style parts) cs
  match cs with
  | c :: d :: rest =>
    if anySlash c && anySlash d then do
      let hostChars := rest.takeWhile fun c => !style.endsAuthority c
      let after := rest.drop hostChars.length
      if isDrive hostChars then return fresh none [] rest
      if hostChars.isEmpty then return fresh none [] after
      let host ← Host.special hostChars
      return fresh (if host = .name "localhost" then none else some host) [] (
        match after with
        | c :: more => if anySlash c then more else after
        | [] => [])
    else if anySlash c then
      let path := d :: rest
      if startsWithDrive path then .ok (fresh none [] path)
      else
        match baseDrive with
        | some drive => .ok (fresh none [drive] path)
        | none => .ok (fresh (base.bind host?) [] path)
    else relative
  | _ => relative
where
  relative : Except UrlFault Url :=
    let style := Style.of "file"
    let fresh (host : Option Host) (parts : List String) (cs : List Char) : Url :=
      finish "file" (some (fileAuthority host)) (readSegments style parts) cs
    match base, cs with
    | none, _ => .ok (fresh none [] cs)
    | some b, [] => .ok { b with fragment := none }
    | some b, '?' :: _ => .ok (finish "file" b.authority (fun _ => b.path) cs)
    | some b, '#' :: rest => .ok (withFragment b rest)
    | some b, c :: rest =>
      if anySlash c then .ok (fresh b.host? [] rest)
      else if startsWithDrive cs then .ok (fresh none [] cs)
      else .ok (fresh b.host? (dropLastSegment style (segmentsOf b)) cs)

def readWithScheme (base : Option Url) (scheme : String) (cs : List Char) :
    Except UrlFault Url :=
  let style := Style.of scheme
  if style.file then readFile (base.filter (·.scheme == "file")) cs
  else if style.special then
    match base with
    | some b =>
      if b.scheme == scheme && (cs.takeWhile anySlash).length < 2 then readRelative b cs
      else readAfterSlashes scheme (cs.dropWhile anySlash)
    | none => readAfterSlashes scheme (cs.dropWhile anySlash)
  else
    match cs with
    | '/' :: '/' :: rest => readAfterSlashes scheme rest
    | '/' :: rest => .ok (finish scheme none (readSegments style []) rest)
    | _ =>
      .ok (finish scheme none
        (fun cs => .plain (String.ofList (percentEncode controlSet cs))) cs)

/-- A URL from a text, relative to a base if there is one. -/
def read (base : Option Url) (s : String) : Except UrlFault Url :=
  let cs := significant s
  match readScheme? cs, base with
  | some (scheme, rest), _ => readWithScheme base scheme rest
  | none, none => .error .relativeWithoutBase
  | none, some b =>
    match cs with
    | '#' :: rest => .ok (withFragment b rest)
    | _ =>
      if b.isPlain then .error .relativeToOpaqueBase
      else if b.scheme == "file" then readFile (some b) cs
      else readRelative b cs

def parse (s : String) : Except UrlFault Url := read none s

/-- A URL from a text that may be relative to this one. -/
def join (base : Url) (s : String) : Except UrlFault Url := read (some base) s

end SignIn.Url
