import ChartRender.Config
import ChartRender.Diagnostic
import ChartRender.Values.Override
/-!
# Commands

What the commands have in common: the files they work on, what they print, and the errors they end
with. Each cause of an error has an exit status of its own.

Key definitions: `Session`, `CommandError`, `CommandError.exitStatus`, `Command`.
-/

namespace ChartRender

/-- Why a command fails. -/
inductive CommandError where
  | template (d : Diagnostic)
  | templates (summary : String)
  | builtin (f : Failure)
  | valuesFile (path : String) (e : ValuesFileError)
  | overrides (e : ValuesError)
  | config (e : ConfigError)
  | file (e : FileError)
  deriving DecidableEq, Repr

namespace CommandError

/-- The error that a configuration's error leads to: a file that cannot be read is no matter of the
configuration. -/
def ofConfigError : ConfigError → CommandError
  | .unreadable e => .file e
  | e => .config e

/-- The status that the program exits with. -/
def exitStatus : CommandError → Nat
  | .valuesFile .. | .overrides _ => 2
  | .template _ | .templates _ => 3
  | .builtin _ => 4
  | .file _ => 5
  | .config _ => 78

/-- What went wrong. -/
def message : CommandError → String
  | .template d => d.message
  | .templates summary => "Template error: " ++ summary
  | .builtin f => f.message
  | .valuesFile path e =>
    "Values error: Failed to load values file " ++ path ++ ": " ++ e.message
  | .overrides e => "Values error: " ++ e.message
  | .config .malformed => "Configuration error: the text is not a configuration"
  | .config e => e.message
  | .file e => "IO error: " ++ e.message

/-- The code under which the error is documented. -/
def code : CommandError → String
  | .template _ => Diagnostic.code
  | .templates _ => "helmshim::cli::template"
  | .builtin _ => "helmshim::cli::shim"
  | .valuesFile .. | .overrides _ => "helmshim::cli::values"
  | .config _ => "helmshim::cli::config"
  | .file _ => "helmshim::cli::io"

/-- What to do about it. -/
def help? : CommandError → Option String
  | .template d => d.suggestion
  | .templates _ => some "Fix the errors listed above; templates render only when all succeed"
  | .builtin f => f.help?
  | .valuesFile .. => some "Values files are YAML or JSON documents with a map at the top level"
  | .overrides _ | .config _ | .file _ => none

end CommandError

/-- What a command works on: the files, what it has printed as its output, and what it has printed
as messages beside it. -/
structure Session where
  files : FileSystem
  output : String
  messages : String

namespace Session

/-- The session of a command that has printed nothing yet. -/
def start (files : FileSystem) : Session := ⟨files, "", ""⟩

def print (s : Session) (text : String) : Session := { s with output := s.output ++ text }

def tell (s : Session) (text : String) : Session := { s with messages := s.messages ++ text }

end Session

/-- A command: it changes a session and may end in an error. -/
abbrev Command (α : Type) := ExceptT CommandError (StateM Session) α

namespace Command

/-- Prints output. -/
def print (text : String) : Command Unit := modify (·.print text)

/-- Prints a line beside the output. -/
def tell (text : String) : Command Unit := modify (·.tell (text ++ "\n"))

/-- Prints a line beside the output that only helps to find mistakes. -/
def note (debug : Bool) (text : String) : Command Unit :=
  if debug then tell ("DEBUG " ++ text) else return ()

/-- A result, or an error that is made of its own. -/
def orFail (toError : ε → CommandError) : Except ε α → Command α
  | .ok a => return a
  | .error e => throw (toError e)

end Command

end ChartRender
