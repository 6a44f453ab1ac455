/-!
# Where files are kept
-/

namespace SignIn

def joinPath (base name : String) : String :=
  if base = "" then name else if base.endsWith "/" then base ++ name else base ++ "/" ++ name

/-- The directory of the client's files. -/
structure Paths where
  base : String
  deriving DecidableEq

namespace Paths

def ofHome (home : String) : Paths := ⟨joinPath home ".habitat"⟩

def configFile (p : Paths) : String := joinPath p.base "config.json"

def sessionFile (p : Paths) : String := joinPath p.base "session.json"

end Paths

end SignIn
