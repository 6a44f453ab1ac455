import SignIn.Text.Blank

/-!
# Logging

How much is logged and in which format.
-/

namespace SignIn

inductive LogLevel where
  | trace
  | debug
  | info
  | warn
  | error
  deriving DecidableEq

/-- The level that a word names, `info` for an unknown word. Capitals are as good as small
letters; no letter beyond ASCII has a small form that occurs in a level. -/
def LogLevel.ofText (s : String) : LogLevel :=
  match Text.lowerAscii s with
  | "trace" => .trace
  | "debug" => .debug
  | "info" => .info
  | "warn" => .warn
  | "warning" => .warn
  | "error" => .error
  | _ => .info

def LogLevel.name : LogLevel → String
  | .trace => "TRACE"
  | .debug => "DEBUG"
  | .info => "INFO"
  | .warn => "WARN"
  | .error => "ERROR"

inductive LogFormat where
  | json
  | compact
  deriving DecidableEq

/-- The format that the environment asks for: compact unless it says JSON. -/
def LogFormat.ofVariable (asked : Option String) : LogFormat :=
  match asked.map fun s => Text.lowerAscii (Text.trim s) with
  | some "json" => .json
  | _ => .compact

def LogFormat.name : LogFormat → String
  | .json => "Json"
  | .compact => "Compact"

end SignIn
