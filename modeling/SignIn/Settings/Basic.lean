import SignIn.Disk
import SignIn.Fault
import SignIn.Json.Record
import SignIn.Settings.Domain

/-!
# Settings

The settings of the client: how much it logs, the domain of the node and the client's own. They
come from a file, a missing one counting as the defaults, and the environment overrides them.
-/

namespace SignIn

structure Settings where
  logLevel : String := "info"
  serverDomain : String := "habitat-new.onrender.com"
  appDomain : String := "localhost:5173"
  deriving DecidableEq

inductive SettingsFault where
  | domain (fault : DomainFault)
  | file (path : String) (refusal : Json.Refusal)
  | io (fault : IoFault)
  | noHome
  deriving DecidableEq

def SettingsFault.message : SettingsFault → String
  | .domain fault => fault.message
  | .file path refusal => "Invalid config file " ++ path ++ ": " ++ refusal.message
  | .io fault => "IO error: " ++ fault.message
  | .noHome => "Could not determine home directory"

structure Environment where
  logLevel : Option String := none
  serverDomain : Option String := none
  appDomain : Option String := none

namespace Settings

def default : Settings := {}

/-- The fields of the settings in a file; a missing one has its default. -/
def fields : List Json.Field :=
  [⟨"log_level", .text, some default.logLevel⟩,
   ⟨"server_domain", .text, some default.serverDomain⟩,
   ⟨"app_domain", .text, some default.appDomain⟩]

def values (s : Settings) : Json.Values fields :=
  (s.logLevel, s.serverDomain, s.appDomain, ())

def ofValues (v : Json.Values fields) : Settings := ⟨v.1, v.2.1, v.2.2.1⟩

def toJson (s : Settings) : Json := Json.writeRecord fields s.values

def decode (bs : Bytes) : Except Json.Refusal Settings :=
  (Json.decodeRecord "struct Config" fields bs).map ofValues

def fileContent (s : Settings) : Bytes := s.toJson.pretty

/-- The settings of a file's content; `path` names the file in messages. -/
def ofFile (path : String) (content : Bytes) : Except SettingsFault Settings :=
  match Bytes.text? content with
  | none => .error (.io .notText)
  | some _ =>
    match decode content with
    | .ok s => .ok s
    | .error refusal => .error (.file path refusal)

/-- A variable that is set to more than blanks, without the blanks at its ends. -/
def filled (value : Option String) : Option String :=
  (value.map Text.trim).filter (· ≠ "")

def override (s : Settings) (env : Environment) : Settings where
  logLevel := (filled env.logLevel).getD s.logLevel
  serverDomain := (filled env.serverDomain).getD s.serverDomain
  appDomain := (filled env.appDomain).getD s.appDomain

/-- The origin of the node. -/
def serverOrigin (s : Settings) : Except DomainFault Url := domainOrigin s.serverDomain

def appOrigin (s : Settings) : Except DomainFault Url := domainOrigin s.appDomain

/-- Refuses settings with a bad domain, the node's first. -/
def validate (s : Settings) : Except DomainFault Unit := do
  let _ ← s.serverOrigin
  let _ ← s.appOrigin

/-- The settings of the file at a path, which `shown` names in messages. -/
def loadFile (shown : String) (path : FilePath) (d : Disk) : Except SettingsFault Settings :=
  match d.read path with
  | .ok content => ofFile shown content
  | .error fault => .error (.io fault)

/-- The settings of the file, if there is one, under those of the environment, validated. -/
def load (shown : String) (path : FilePath) (d : Disk) (env : Environment) :
    Except SettingsFault Settings := do
  let base ←
    match d.seek path with
    | .ok (some _) => loadFile shown path d
    | _ => pure default
  let settings := base.override env
  match settings.validate with
  | .ok _ => return settings
  | .error fault => throw (.domain fault)

/-- Writes the settings to a file, whose directory is made if it is missing. -/
def save (s : Settings) (directory path : FilePath) (d : Disk) :
    Except SettingsFault Unit × Disk :=
  match d.makeDirectories directory with
  | (.error fault, d) => (.error (.io fault), d)
  | (.ok _, d) =>
    match d.write path s.fileContent with
    | (.error fault, d) => (.error (.io fault), d)
    | (.ok _, d) => (.ok (), d)

end Settings

end SignIn
