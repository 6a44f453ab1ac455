import SignIn.CommandLine.Program
import SignIn.LoginState

/-!
# The program

Reads the client's files, runs, and writes back what the run has changed. It is built without a
transport, so that a request is never answered.
-/

namespace SignIn

def clientDirectory : FilePath := [".habitat"]

/-- The files that a run reads or writes, by their names. -/
def clientFiles : List String := ["config.json", "session.json", "session.json.lock"]

def pathBelow (home : String) (p : FilePath) : String := p.foldl joinPath home

/-- The nodes that a run reads or writes, the directory first. -/
def clientNodes : List FilePath :=
  clientDirectory :: clientFiles.map fun name => clientDirectory ++ [name]

def readNode (path : String) : IO (Option Node) := do
  try
    let content ← IO.FS.readBinFile path
    return some (.file content.toList true)
  catch e =>
    match e with
    | .noFileOrDirectory _ _ _ => return none
    | _ => return some .directory

/-- Puts a node at a path. A file is written beside its place and moved there. -/
def writeNode (path : String) : Node → IO Unit
  | .directory => IO.FS.createDirAll path
  | .file content isPrivate => do
    let fresh := path ++ ".new"
    IO.FS.writeBinFile fresh ⟨content.toArray⟩
    if isPrivate then
      IO.setAccessRights fresh { user := { read := true, write := true } }
    IO.FS.rename fresh path

def readDisk (home : String) : IO Disk :=
  clientNodes.foldlM
    (fun d p => do
      match ← readNode (pathBelow home p) with
      | none => return d
      | some node => return d.put p node)
    {}

def writeDisk (home : String) (before after : Disk) : IO Unit :=
  clientNodes.forM fun p => do
    match after.find? p with
    | none => return ()
    | some node =>
      unless before.find? p = some node do
        writeNode (pathBelow home p) node

/-- Prints what a run has printed, and gives the code it ends with. -/
def conclude (o : CommandLine.Outcome) : IO UInt32 := do
  (← IO.getStdout).putStr o.console.output
  (← IO.getStderr).putStr o.console.errors
  return o.code.toUInt32

/-- The network of a program without a transport. -/
def unconnected : Http.Network Id := fun r => .error (.unanswered r.url.text true)

def start (line : List String) : IO UInt32 := do
  let environment : Environment :=
    { logLevel := ← IO.getEnv "HABITAT_LOG_LEVEL"
      serverDomain := ← IO.getEnv "HABITAT_SERVER_DOMAIN"
      appDomain := ← IO.getEnv "HABITAT_DOMAIN" }
  match ← IO.getEnv "HOME" with
  | none => conclude (CommandLine.homelessRun environment line)
  | some home =>
    let before ← readDisk home
    let random ← IO.getRandomBytes LoginState.byteCount.toUSize
    let surroundings : CommandLine.Surroundings Id :=
      { paths := Paths.ofHome home
        directory := clientDirectory
        environment
        client := .over unconnected
        freshState := LoginState.ofBytes random.toList
        browse := fun _ => false }
    let (outcome, after) := surroundings.run line before
    writeDisk home before after
    conclude outcome

end SignIn

def main (line : List String) : IO UInt32 := SignIn.start line
