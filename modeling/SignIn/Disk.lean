import SignIn.Fault

/-!
# A tree of files

Files and directories below a root, by their paths. Only what a store of small files needs is
there: making directories, locking, reading, creating, replacing and removing a file. Besides what
stands in the way of an operation, the disk may refuse it for reasons of its own, such as missing
rights or missing space. One operation is never refused: a store removes a file only right after it
made it, and it is assumed that this succeeds.
-/

namespace SignIn

/-- The names that lead from the root to a file. -/
abbrev FilePath := List String

/-- What stands at a path. A private file can be read and written by its owner only. -/
inductive Node where
  | directory
  | file (content : Bytes) (isPrivate : Bool)
  deriving DecidableEq

inductive DiskCall where
  | create (path : FilePath)
  | access (path : FilePath)
  | lock (path : FilePath)
  | fill (path : FilePath)
  | move (source target : FilePath)
  deriving DecidableEq

/-- What is refused, and how it is answered. No refusal says that nothing stands there. -/
abbrev Refusals := DiskCall → Option {fault : IoFault // fault ≠ .notFound}

/-- The files and directories below a root, and the calls that are refused whatever stands there. -/
structure Disk where
  nodes : List (FilePath × Node) := []
  refuses : Refusals := fun _ => none

namespace Disk

def nodeAt (p : FilePath) : List (FilePath × Node) → Option Node
  | [] => none
  | (q, n) :: rest => if p = q then some n else nodeAt p rest

def without (p : FilePath) : List (FilePath × Node) → List (FilePath × Node)
  | [] => []
  | (q, n) :: rest => if p = q then without p rest else (q, n) :: without p rest

/-- What stands at a path; the root is a directory. -/
def find? (d : Disk) (p : FilePath) : Option Node :=
  if p = [] then some .directory else nodeAt p d.nodes

def put (d : Disk) (p : FilePath) (n : Node) : Disk :=
  { d with nodes := (p, n) :: without p d.nodes }

def remove (d : Disk) (p : FilePath) : Disk := { d with nodes := without p d.nodes }

theorem nodeAt_without (p q : FilePath) (l : List (FilePath × Node)) :
    nodeAt q (without p l) = if q = p then none else nodeAt q l := by
  induction l with
  | nil => simp [nodeAt, without]
  | cons e l ih =>
    obtain ⟨k, n⟩ := e
    by_cases hk : p = k
    · subst hk
      by_cases hq : q = p
      · subst hq
        simpa [without] using ih
      · simp [nodeAt, without, ih, hq]
    · by_cases hq : q = k
      · subst hq
        simp [nodeAt, without, hk, Ne.symm hk]
      · simp [nodeAt, without, hk, hq, ih]

theorem find?_put (d : Disk) (p q : FilePath) (n : Node) (hp : p ≠ []) :
    (d.put p n).find? q = if q = p then some n else d.find? q := by
  by_cases hq : q = p
  · subst hq
    simp [find?, put, nodeAt, hp]
  · by_cases h0 : q = []
    · subst h0
      simp [find?, Ne.symm hp]
    · simp [find?, put, nodeAt, hq, h0, nodeAt_without]

theorem find?_remove (d : Disk) (p q : FilePath) (hp : p ≠ []) :
    (d.remove p).find? q = if q = p then none else d.find? q := by
  by_cases h0 : q = []
  · subst h0
    simp [find?, Ne.symm hp]
  · simp [find?, remove, h0, nodeAt_without]

/-- What stands at a path, none if nothing does; a file on the way is a fault. -/
def seek (d : Disk) (p : FilePath) : Except IoFault (Option Node) :=
  let blocked := (List.range p.length).any fun k =>
    match d.find? (p.take k) with
    | some (.file _ _) => true
    | _ => false
  if blocked then .error .notDirectory else .ok (d.find? p)

def attempt (d : Disk) (c : DiskCall) (done : Disk) : Except IoFault Unit × Disk :=
  match d.refuses c with
  | some fault => (.error fault, d)
  | none => (.ok (), done)

def makeDirectory (d : Disk) (p : FilePath) : Except IoFault Unit × Disk :=
  if (d.find? p).isNone then d.attempt (.create p) (d.put p .directory) else (.ok (), d)

/-- Makes the first directories on the way to a path, up to one that is refused. -/
def makeFirst (p : FilePath) : Nat → Disk → Except IoFault Unit × Disk
  | 0, d => (.ok (), d)
  | n + 1, d =>
    match makeFirst p n d with
    | (.error fault, d) => (.error fault, d)
    | (.ok _, d) => d.makeDirectory (p.take n)

def makeDirectories (d : Disk) (p : FilePath) : Except IoFault Unit × Disk :=
  match d.seek p with
  | .error fault => (.error fault, d)
  | .ok (some (.file _ _)) => (.error .alreadyExists, d)
  | .ok _ => makeFirst p (p.length + 1) d

def read (d : Disk) (p : FilePath) : Except IoFault Bytes :=
  match d.seek p with
  | .error fault => .error fault
  | .ok none => .error .notFound
  | .ok (some n) =>
    match d.refuses (.access p), n with
    | some fault, _ => .error fault
    | none, .directory => .error .isDirectory
    | none, .file content _ => .ok content

/-- Puts a file where nothing stands, in a directory that is there. -/
def create (d : Disk) (p : FilePath) (n : Node) : Except IoFault Unit × Disk :=
  if d.find? p.dropLast = some .directory then d.attempt (.create p) (d.put p n)
  else (.error .notFound, d)

/-- Opens a file for writing without touching its content, and creates an empty one if there is
none. -/
def touch (d : Disk) (p : FilePath) (isPrivate : Bool) : Except IoFault Unit × Disk :=
  match d.seek p with
  | .error fault => (.error fault, d)
  | .ok none => d.create p (.file [] isPrivate)
  | .ok (some .directory) => (.error .isDirectory, d)
  | .ok (some (.file _ _)) => d.attempt (.access p) d

/-- Locks a file, which it leaves as it is. -/
def lock (d : Disk) (p : FilePath) : Except IoFault Unit × Disk := d.attempt (.lock p) d

/-- Writes an open file anew. Where that is refused, it is left empty. -/
def fill (d : Disk) (p : FilePath) (content : Bytes) : Except IoFault Unit × Disk :=
  match d.find? p with
  | some (.file _ isPrivate) =>
    let emptied := d.put p (.file [] isPrivate)
    emptied.attempt (.fill p) (emptied.put p (.file content isPrivate))
  | _ => (.error .notFound, d)

def createNew (d : Disk) (p : FilePath) (content : Bytes) : Except IoFault Unit × Disk :=
  match d.seek p with
  | .error fault => (.error fault, d)
  | .ok (some _) => (.error .alreadyExists, d)
  | .ok none =>
    match d.create p (.file [] true) with
    | (.error fault, d) => (.error fault, d)
    | (.ok _, d) => d.fill p content

/-- Writes a file, in place of one that stands there and with the mode it has. -/
def write (d : Disk) (p : FilePath) (content : Bytes) : Except IoFault Unit × Disk :=
  match d.touch p false with
  | (.error fault, d) => (.error fault, d)
  | (.ok _, d) => d.fill p content

/-- The disk without the file at a path. What is no file stays. It is built in that this is not
refused: it is asked only for a file that was just created. -/
def removeFile (d : Disk) (p : FilePath) : Disk :=
  match d.find? p with
  | some (.file _ _) => d.remove p
  | _ => d

/-- Moves a file to another path, in place of a file there. -/
def rename (d : Disk) (source target : FilePath) : Except IoFault Unit × Disk :=
  match d.find? source, d.find? target with
  | none, _ => (.error .notFound, d)
  | some _, some .directory => (.error .isDirectory, d)
  | some n, _ => d.attempt (.move source target) ((d.remove source).put target n)

/-- The names in a directory, in order. -/
def names (d : Disk) (p : FilePath) : List String :=
  let inside := d.nodes.filterMap fun e =>
    if e.1.length = p.length + 1 ∧ e.1.take p.length = p then e.1.getLast? else none
  inside.mergeSort (· ≤ ·)

end Disk

end SignIn
