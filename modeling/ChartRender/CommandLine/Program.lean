import ChartRender.Command.Call
import ChartRender.Command.Quantity
import ChartRender.Command.Render
import ChartRender.CommandLine.Request
/-!
# The program

What the program does with its arguments and files: it carries out the request that the arguments
make and exits with the status of the error that ends it, if there is one. Only the render command
needs a configuration.

Key definitions: `Request.run`, `Outcome`, `runProgram`.
-/

namespace ChartRender.CommandLine

/-- How the program ends: its exit status, and what has become of the session. -/
structure Outcome where
  status : Nat
  session : Session

/-- The configuration from the file that was named, or from the working directory. -/
def loadConfig (path : Option String) (debug : Bool) : Command Config := do
  let files := (← get).files
  let config ← Command.orFail .ofConfigError <| match path with
    | some path => Config.load files path
    | none => Config.discover files
  Command.note debug ("Engine config: namespace=" ++ config.builtinsName ++ " strict=" ++
    if config.strict then "true" else "false")
  return config

variable [Template.DebugText]

/-- Carries out a request. -/
def Request.run (r : Request) : Command Unit :=
  match r.action with
  | .render o => do
    let config ← loadConfig r.config r.debug
    Command.render o config r.debug
  | .call name args => Command.call name args r.debug
  | .quantity texts checkOnly json => Command.quantity texts checkOnly json
  | .list => Command.list

/-- The lines that tell of an error. -/
def errorText (e : CommandError) : String :=
  e.code ++ "\n\n  × " ++ e.message ++ "\n" ++
    match e.help? with
    | some help => "  help: " ++ help ++ "\n"
    | none => ""

/-- The exit status of wrong usage. -/
def misuseStatus : Nat := 2

/-- Runs the program with arguments and files. -/
def runProgram (args : List String) (files : FileSystem) : Outcome :=
  let session := Session.start files
  match Request.ofArguments args with
  | .error .misuse => ⟨misuseStatus, session.tell helpText⟩
  | .error (.show text) => ⟨0, session.print text⟩
  | .ok request =>
    match (request.run.run).run session with
    | (.ok (), session) => ⟨0, session⟩
    | (.error e, session) => ⟨e.exitStatus, session.tell (errorText e)⟩

end ChartRender.CommandLine
