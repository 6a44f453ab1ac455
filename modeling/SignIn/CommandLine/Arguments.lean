import SignIn.Settings.Basic
import SignIn.Text.Blank

/-!
# Arguments

A line of arguments holds options, the name of a command, and then the options and operands of
that command. The options that every command knows may stand on either side of the name; the one
behind it counts more. An option may stand once on each side, unless it collects its values.
Tokens are read from left to right and the first one that does not fit decides.
-/

namespace SignIn.CommandLine

inductive OutputFormat where
  | text
  | json
  deriving DecidableEq

def OutputFormat.ofText? : String → Option OutputFormat
  | "text" => some .text
  | "json" => some .json
  | _ => none

inductive Command where
  | login (handle : String) (redirect : Option String) (browse : Bool)
  | callback (url : String)
  | status
  | logout
  | fetch (target method : String) (body : Option String) (headers : List String)
  | clientMetadata
  deriving DecidableEq

structure GivenSettings where
  logLevel : Option String := none
  serverDomain : Option String := none
  appDomain : Option String := none
  deriving DecidableEq

structure Arguments where
  command : Command
  format : OutputFormat
  settings : GivenSettings
  ephemeral : Bool
  deriving DecidableEq

/-- Why a line of arguments asks for no command. -/
inductive Halt where
  | usage
  | help
  | version
  deriving DecidableEq

/-! ## Flags -/

inductive Flag where
  | format
  | logLevel
  | serverDomain
  | appDomain
  | ephemeral
  | help
  | version
  | redirect
  | browse
  | method
  | body
  | header
  deriving DecidableEq

namespace Flag

/-- The name of an option, which stands behind two dashes. -/
def name : Flag → String
  | format => "format"
  | logLevel => "log-level"
  | serverDomain => "server-domain"
  | appDomain => "domain"
  | ephemeral => "ephemeral"
  | help => "help"
  | version => "version"
  | redirect => "redirect-uri"
  | browse => "open"
  | method => "method"
  | body => "body"
  | header => "header"

def letter? : Flag → Option Char
  | format => some 'f'
  | help => some 'h'
  | version => some 'V'
  | method => some 'X'
  | body => some 'b'
  | header => some 'H'
  | _ => none

def hasValue : Flag → Bool
  | ephemeral | help | version | browse => false
  | _ => true

/-- Whether an option collects its values. -/
def collects : Flag → Bool
  | header => true
  | _ => false

/-- The options that every command knows. -/
def shared : List Flag := [format, logLevel, serverDomain, appDomain, ephemeral, help]

end Flag

inductive Token where
  | separator
  | operand
  | unknown
  | flag (f : Flag) (attached : Option String)
  deriving DecidableEq

/-- The value that is attached to the letter of an option, with or without a sign before it. -/
def attachedValue : List Char → Option String
  | [] => none
  | '=' :: value => some (String.ofList value)
  | value => some (String.ofList value)

/-- What a token says where some options are known. A letter without a value ends the reading,
so nothing that is attached to it counts. -/
def Token.ofText (known : List Flag) (s : String) : Token :=
  match s.toList with
  | ['-'] => .operand
  | ['-', '-'] => .separator
  | '-' :: '-' :: cs =>
    let (name, value) := Text.cutAt (· == '=') cs
    match known.find? fun f => f.name == String.ofList name with
    | some f => .flag f (value.map String.ofList)
    | none => .unknown
  | '-' :: c :: cs =>
    match known.find? fun f => f.letter? == some c with
    | some f => .flag f (if f.hasValue then attachedValue cs else none)
    | none => .unknown
  | _ => .operand

/-- Whether a token can be the value of the option before it. -/
def isValue (s : String) : Bool :=
  match s.toList with
  | ['-'] => true
  | '-' :: _ => false
  | _ => true

/-! ## One side of the name -/

/-- The options and operands that were read, the latest option first. -/
structure Given where
  flags : List (Flag × String) := []
  operands : List String := []

namespace Given

def value? (g : Given) (f : Flag) : Option String := g.flags.lookup f

def has (g : Given) (f : Flag) : Bool := (g.value? f).isSome

def values (g : Given) (f : Flag) : List String :=
  ((g.flags.filter fun e => e.1 == f).map (·.2)).reverse

def put (g : Given) (f : Flag) (value : String) : Except Halt Given :=
  match f with
  | .help => .error .help
  | .version => .error .version
  | f =>
    if g.has f && !f.collects then .error .usage
    else if f == .format && (OutputFormat.ofText? value).isNone then .error .usage
    else .ok { g with flags := (f, value) :: g.flags }

end Given

/-- One side of a line: the options it knows and how many operands it takes, `none` where the
first operand is the name of the command and ends the side. -/
structure Side where
  known : List Flag
  limit : Option Nat

namespace Side

/-- Adds operands, as far as there is room for them. -/
def putOperands (side : Side) (g : Given) (operands : List String) : Except Halt Given :=
  let all := g.operands ++ operands
  match side.limit with
  | none => .error .usage
  | some limit => if all.length ≤ limit then .ok { g with operands := all } else .error .usage

/-- Reads a side. Where the name of a command ends it, the name and all that follows it are the
operands. -/
def read (side : Side) : Given → List String → Except Halt Given
  | g, [] => .ok g
  | g, s :: rest =>
    match Token.ofText side.known s with
    | .unknown => .error .usage
    | .separator => side.putOperands g rest
    | .operand =>
      match side.limit with
      | none => .ok { g with operands := s :: rest }
      | some _ => do
        let g ← side.putOperands g [s]
        side.read g rest
    | .flag f attached =>
      match f.hasValue, attached with
      | false, none => do
        let g ← g.put f ""
        side.read g rest
      | false, some _ => .error .usage
      | true, some value => do
        let g ← g.put f value
        side.read g rest
      | true, none =>
        match rest with
        | [] => .error .usage
        | value :: rest =>
          if isValue value then do
            let g ← g.put f value
            side.read g rest
          else .error .usage

def outer : Side := ⟨.version :: Flag.shared, none⟩

end Side

/-! ## Commands -/

inductive Verb where
  | login
  | callback
  | status
  | logout
  | fetch
  | clientMetadata
  | help
  deriving DecidableEq

namespace Verb

def word : Verb → String
  | login => "login"
  | callback => "callback"
  | status => "status"
  | logout => "logout"
  | fetch => "fetch"
  | clientMetadata => "client-metadata"
  | help => "help"

def ofText? (s : String) : Option Verb :=
  [login, callback, status, logout, fetch, clientMetadata, help].find? (·.word == s)

def side : Verb → Side
  | login => ⟨.redirect :: .browse :: Flag.shared, some 1⟩
  | callback => ⟨Flag.shared, some 1⟩
  | fetch => ⟨.method :: .body :: .header :: Flag.shared, some 1⟩
  | _ => ⟨Flag.shared, some 0⟩

/-- The command that options and operands make up, if it has its operand. -/
def command? (v : Verb) (g : Given) : Option Command :=
  match v, g.operands with
  | login, handle :: _ => some (.login handle (g.value? .redirect) (g.has .browse))
  | callback, url :: _ => some (.callback url)
  | status, _ => some .status
  | logout, _ => some .logout
  | fetch, target :: _ =>
    some (.fetch target ((g.value? .method).getD "GET") (g.value? .body) (g.values .header))
  | clientMetadata, _ => some .clientMetadata
  | _, _ => none

end Verb

/-- What asking for help about commands comes to: at most one command may be named. -/
def helpAbout : List String → Halt
  | [] => .help
  | [name] => if (Verb.ofText? name).isSome then .help else .usage
  | _ => .usage

namespace Arguments

/-- Everything that the two sides of a command say. The environment stands in for the options of
domains that are not given, as it is. -/
def ofSides (env : Environment) (outer inner : Given) (command : Command) : Arguments :=
  let value (f : Flag) : Option String := (inner.value? f).or (outer.value? f)
  { command
    format := ((value .format).bind OutputFormat.ofText?).getD .text
    settings :=
      { logLevel := value .logLevel
        serverDomain := (value .serverDomain).or env.serverDomain
        appDomain := (value .appDomain).or env.appDomain }
    ephemeral := outer.has .ephemeral || inner.has .ephemeral }

def read (env : Environment) (line : List String) : Except Halt Arguments := do
  let outer ← Side.outer.read {} line
  match outer.operands with
  | [] => throw .usage
  | name :: rest =>
    match Verb.ofText? name with
    | none => throw .usage
    | some .help => throw (helpAbout rest)
    | some verb =>
      let inner ← verb.side.read {} rest
      match verb.command? inner with
      | none => throw .usage
      | some command => return ofSides env outer inner command

end Arguments

/-! ## Settings -/

/-- The settings with those that are given as options put over them, as they are. -/
def GivenSettings.over (g : GivenSettings) (s : Settings) : Settings where
  logLevel := g.logLevel.getD s.logLevel
  serverDomain := g.serverDomain.getD s.serverDomain
  appDomain := g.appDomain.getD s.appDomain

/-- The settings of the file and the environment, validated, under those that are given as
options, validated again. -/
def GivenSettings.load (g : GivenSettings) (shown : String) (path : FilePath) (d : Disk)
    (env : Environment) : Except SettingsFault Settings := do
  let base ← Settings.load shown path d env
  let settings := g.over base
  match settings.validate with
  | .ok _ => return settings
  | .error fault => throw (.domain fault)

end SignIn.CommandLine
