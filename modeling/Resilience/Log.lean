import Resilience.Text.Quoted

/-!
Log lines: a level, where the line comes from, a message and named fields.
-/

namespace Resilience

inductive LogLevel where
  | trace | debug | info | warn | error
  deriving DecidableEq, Repr

def LogLevel.name : LogLevel → String
  | trace => "TRACE"
  | debug => "DEBUG"
  | info => "INFO"
  | warn => "WARN"
  | error => "ERROR"

structure LogLine where
  level : LogLevel
  target : String
  message : String
  fields : List (String × String) := []
  deriving DecidableEq, Repr

def LogLine.text (line : LogLine) : String :=
  line.level.name ++ " " ++ line.target ++ ": " ++ line.message ++
    String.join (line.fields.map fun (name, value) => " " ++ name ++ "=" ++ value)

end Resilience
