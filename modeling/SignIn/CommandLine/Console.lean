import SignIn.CommandLine.Arguments
import SignIn.Json.Printer

/-!
# What is printed

Results go to the output and messages to the errors, each line with its end.
-/

namespace SignIn.CommandLine

structure Console where
  output : String := ""
  errors : String := ""
  deriving DecidableEq

namespace Console

def print (c : Console) (line : String) : Console := { c with output := c.output ++ line ++ "\n" }

def complain (c : Console) (line : String) : Console :=
  { c with errors := c.errors ++ line ++ "\n" }

end Console

/-- A message with its status, as it is shown in a format. -/
def messageLine (format : OutputFormat) (lead status message : String) : String :=
  match format with
  | .text => lead ++ message
  | .json => (Json.obj [("status", .text status), ("message", .text message)]).compactText

def successLine (format : OutputFormat) (message : String) : String :=
  messageLine format "" "success" message

def failureLine (format : OutputFormat) (message : String) : String :=
  messageLine format "Error: " "error" message

/-- A row of a table, its label in a column of 16 characters. -/
def tableRow (label value : String) : String :=
  let label := label ++ ":"
  "  " ++ label ++ String.ofList (List.replicate (16 - label.length) ' ') ++ " " ++ value

end SignIn.CommandLine
