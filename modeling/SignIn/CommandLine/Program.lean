import SignIn.CommandLine.Commands
import SignIn.Http.Client
import SignIn.Settings.Paths
import SignIn.Store.FileStorage

/-!
# A run of the program

A run reads its arguments, makes the settings, and carries the command out on the store that the
arguments ask for: the file of the session, or a store that ends with the run. It ends with 2 if
the arguments do not make up a command, with 1 after any other failure, and with 0 otherwise.
-/

namespace SignIn.CommandLine

structure Outcome where
  code : Nat
  console : Console
  deriving DecidableEq

/-- What surrounds a run whose client works in `m`. -/
structure Surroundings (m : Type → Type) where
  /-- the directory of the client's files, as messages show it -/
  paths : Paths
  /-- that directory on the disk -/
  directory : FilePath
  environment : Environment
  client : Client m
  freshState : String
  browse : String → m Bool

def versionLine : String := "habitat 0.1.0"

def usageLines : List String :=
  ["Usage: habitat [OPTIONS] <COMMAND>", "",
   "Commands:",
   "  login <HANDLE> [--redirect-uri <URI>] [--open]",
   "  callback <URL>",
   "  status",
   "  logout",
   "  fetch <TARGET> [-X <METHOD>] [-b <BODY>] [-H <HEADER>]...",
   "  client-metadata",
   "  help [COMMAND]", "",
   "Options:",
   "  -f, --format <text|json>",
   "      --log-level <LEVEL>",
   "      --server-domain <DOMAIN>",
   "      --domain <DOMAIN>",
   "      --ephemeral",
   "  -h, --help",
   "  -V, --version"]

/-- What a run comes to that carries no command out. -/
def Halt.outcome : Halt → Outcome
  | .usage => ⟨2, usageLines.foldl Console.complain {}⟩
  | .help => ⟨0, usageLines.foldl Console.print {}⟩
  | .version => ⟨0, Console.print {} versionLine⟩

/-- The line that tells of the loss of a session; who logs out knows of it. -/
def lossLine : DeauthReason → Option String
  | .logout => none
  | .missingToken =>
    some "Not logged in. Run 'habitat login <handle>' to sign in again."
  | .rejected =>
    some "Session expired or was revoked. Run 'habitat login <handle>' to sign in again."

def conclude (format : OutputFormat) (result : Except CommandFault Unit) (c : Console) :
    Outcome :=
  match result with
  | .ok _ => ⟨0, c⟩
  | .error fault => ⟨1, c.complain (failureLine format fault.message)⟩

section

variable {m : Type → Type} [Monad m]

/-- The client over a network, without proofs and with a fresh memory for each request. -/
def Client.over (network : Http.Network m) : Client m where
  grant r := do return (← Http.grant network none r {}).1
  fetch token r := do return (← Http.fetch network none token r {}).1

def performOn {σ : Type} (w : CommandContext σ m) (command : Command) (store : σ) :
    m (Outcome × σ) := do
  let (result, p) ← (perform w command).run.run { store := store }
  return (conclude w.format result p.console, p.store)

variable (s : Surroundings m)

def Surroundings.sessionStore : FileStore := ⟨s.directory, "session.json", s.paths.sessionFile⟩

def Surroundings.commandContext {σ : Type} (settings : Settings) (format : OutputFormat)
    (storage : Storage σ) (openStore : Access σ Unit) : CommandContext σ m where
  settings := settings
  format := format
  storage := storage
  openStore := openStore
  client := s.client
  freshState := s.freshState
  browse := s.browse
  notice := lossLine

def Surroundings.carryOut (a : Arguments) (d : Disk) : m (Outcome × Disk) := do
  match a.settings.load s.paths.configFile (s.directory ++ ["config.json"]) d s.environment with
  | .error fault => return (⟨1, Console.complain {} (failureLine a.format fault.message)⟩, d)
  | .ok settings =>
    if a.ephemeral then
      let (outcome, _) ← performOn
        (s.commandContext settings a.format Storage.memory (return ())) a.command Entries.empty
      return (outcome, d)
    else
      performOn
        (s.commandContext settings a.format s.sessionStore.storage s.sessionStore.openStore)
        a.command d

def Surroundings.run (line : List String) (d : Disk) : m (Outcome × Disk) :=
  match Arguments.read s.environment line with
  | .error halt => return (halt.outcome, d)
  | .ok a => s.carryOut a d

end

/-- A run without a home directory, where the client's files would be. -/
def homelessRun (env : Environment) (line : List String) : Outcome :=
  match Arguments.read env line with
  | .error halt => halt.outcome
  | .ok a => ⟨1, Console.complain {} (failureLine a.format SettingsFault.noHome.message)⟩

end SignIn.CommandLine
