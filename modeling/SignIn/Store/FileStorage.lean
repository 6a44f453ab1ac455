import SignIn.Disk
import SignIn.Json.Record
import SignIn.Store.Storage
import SignIn.Text.Blank

/-!
# Storage in a file

All entries are one JSON object in a file, which every call reads anew. A call that changes the
entries writes a new file beside the old one and moves it there, so that the file is always whole.
Calls hold a lock file beside the store while they run.
-/

namespace SignIn

/-- A store in a file: its directory, its name, and its path as messages show it. -/
structure FileStore where
  directory : FilePath
  name : String
  shown : String
  deriving DecidableEq

namespace FileStore

def path (f : FileStore) : FilePath := f.directory ++ [f.name]

def lockPath (f : FileStore) : FilePath := f.directory ++ [f.name ++ ".lock"]

/-- The path of a new file before it is moved to its place. A tally tells it from other such
files. -/
def newPath (f : FileStore) (tally : Nat) : FilePath :=
  f.directory ++ ["." ++ f.name ++ ".tmp." ++ String.ofList (List.replicate tally '1')]

/-- The path of a new file where nothing stands yet. It is built in that the name of a new file is
free; the program makes it so by the number of its process and the time. -/
def freePath (f : FileStore) (d : Disk) : FilePath :=
  let tallies := List.range (d.nodes.length + 1)
  f.newPath ((tallies.find? fun n => (d.find? (f.newPath n)).isNone).getD 0)

/-- The entries of a file's content. Blanks alone hold none. -/
def decode (shown : String) (content : Bytes) : Except StoreFault Entries :=
  match Bytes.text? content with
  | none => .error (.io .notText)
  | some s =>
    if Text.isBlankText s then .ok .empty
    else
      match Json.decodeTexts content with
      | .ok pairs => .ok (Entries.ofPairs pairs)
      | .error refusal => .error (.encoding (shown ++ ": " ++ refusal.message))

def encode (e : Entries) : Bytes := (Json.writeTexts e.list).pretty

/-- The entries in the file, none if there is no file. -/
def load (f : FileStore) (d : Disk) : Except StoreFault Entries :=
  match d.read f.path with
  | .ok content => decode f.shown content
  | .error .notFound => .ok .empty
  | .error fault => .error (.io fault)

/-- Puts a new file with given entries in the place of the file. -/
def save (f : FileStore) (e : Entries) (d : Disk) : Except StoreFault Unit × Disk :=
  let new := f.freePath d
  match d.createNew new (encode e) with
  | (.error fault, d) => (.error (.io fault), d.removeFile new)
  | (.ok _, d) =>
    match d.rename new f.path with
    | (.error fault, d) => (.error (.io fault), d.removeFile new)
    | (.ok _, d) => (.ok (), d)

def locked {α : Type} (f : FileStore) (body : Disk → Except StoreFault α × Disk) :
    Access Disk α := fun d =>
  match d.touch f.lockPath true with
  | (.error fault, d) => (.error (.io fault), d)
  | (.ok _, d) =>
    match d.lock f.lockPath with
    | (.error fault, d) => (.error (.io fault), d)
    | (.ok _, d) => body d

/-- Opens the store: its directory is made if it is missing, and a file that holds no entries is
refused. -/
def openStore (f : FileStore) : Access Disk Unit := fun d =>
  match d.makeDirectories f.directory with
  | (.error fault, d) => (.error (.io fault), d)
  | (.ok _, d) => f.locked (fun d => ((f.load d).map fun _ => (), d)) d

def set (f : FileStore) (k v : String) : Access Disk Unit :=
  f.locked fun d =>
    match f.load d with
    | .error fault => (.error fault, d)
    | .ok e => f.save (e.set k v) d

def get (f : FileStore) (k : String) : Access Disk (Option String) :=
  f.locked fun d => ((f.load d).map (·.get? k), d)

/-- Reads and removes a value. Where there is none, nothing is written. -/
def take (f : FileStore) (k : String) : Access Disk (Option String) :=
  f.locked fun d =>
    match f.load d with
    | .error fault => (.error fault, d)
    | .ok e =>
      match e.get? k with
      | none => (.ok none, d)
      | some v =>
        match f.save (e.erase k) d with
        | (.error fault, d) => (.error fault, d)
        | (.ok _, d) => (.ok (some v), d)

def remove (f : FileStore) (k : String) : Access Disk Bool := do
  return (← f.take k).isSome

def storage (f : FileStore) : Storage Disk := ⟨f.set, f.get, f.remove, f.take⟩

end FileStore

end SignIn
