import ChartRender.Command.Basic
import ChartRender.Files.Write
import ChartRender.Rendering
import ChartRender.Values.Override
/-!
# The render command

Renders a template, or all templates of a directory, with the values of files and overrides, and
prints the result or writes it to a file. The stages come one after the other, and the first that
fails ends the command: values, configuration, template file, rendering, output.

Key definitions: `RenderOptions`, `Command.loadValues`, `joinOutputs`, `Report.text`,
`Command.render`.
-/

namespace ChartRender

/-- What is rendered, and with what. -/
structure RenderOptions where
  template : String
  valuesFiles : List String
  overrides : List String
  lenient : Bool
  output : Option String
  deriving DecidableEq, Repr

/-! ### Texts -/

/-- The section of a template in the joined output, without the white space around its text. -/
def outputSection (name text : String) : String :=
  "# Source: " ++ name ++ "\n" ++ String.ofList (Text.trim text.toList) ++ "\n"

/-- The outputs of many templates as one text, with an empty line between them. -/
def joinOutputs (outputs : List (String × String)) : String :=
  Text.join "\n" (outputs.map fun p => outputSection p.1 p.2)

namespace Report

/-- The lines of a diagnostic. -/
def diagnosticText (d : Diagnostic) : String :=
  "    ✗ [" ++ d.category.code ++ "] " ++ d.message ++ "\n" ++
    match d.suggestion with
    | some s => "      hint: " ++ s ++ "\n"
    | none => ""

/-- The lines of a template that failed, with an empty line behind them. -/
def templateText (name : String) (ds : List Diagnostic) : String :=
  "  → " ++ name ++ " (" ++ counted ds.length "error" ++ ")\n" ++
    String.join (ds.map diagnosticText) ++ "\n"

/-- The report as it is shown when templates failed. -/
def text (r : Report) : String :=
  "  ✗ Template rendering failed: " ++ r.summary ++ "\n\n" ++
    String.join (r.errors.map fun p => templateText p.1 p.2) ++
    if r.successes.isEmpty then ""
    else "  ✓ " ++ toString r.successes.length ++ " template(s) rendered successfully\n"

end Report

namespace Command

/-! ### Stages -/

/-- Merges the values of files over some values, from the first to the last. -/
def mergeFiles (debug : Bool) (values : Value) : List String → Command Value
  | [] => return values
  | path :: rest => do
    let overlay ← orFail (.valuesFile path) (Values.ofFile (← get).files path)
    note debug ("Merged values from " ++ path)
    mergeFiles debug (values.merge overlay) rest

/-- The values of files, with those of overrides merged over them. -/
def loadValues (files overrides : List String) (debug : Bool) : Command Value := do
  let values ← mergeFiles debug .empty files
  if overrides.isEmpty then return values
  else
    let overlay ← orFail .overrides (Values.ofOverrides overrides)
    note debug ("Applied " ++ toString overrides.length ++ " --set values")
    return values.merge overlay

variable [Template.DebugText]

/-- The joined outputs of the templates of a directory, if all of them succeed. -/
def renderTree (config : Config) (values : Value) (path : String) (debug : Bool) :
    Command String := do
  let r := config.renderDirectory values (← get).files path
  if !r.isSuccess then
    modify (·.tell r.report.text)
    throw (.templates r.report.summary)
  else
    note debug ("Rendered " ++ toString r.report.successes.length ++ " template(s) from " ++ path)
    return joinOutputs r.outputs

/-- The output of the template in a file, whose name is that of the file. -/
def renderFile (config : Config) (values : Value) (path : String) (debug : Bool) :
    Command String := do
  let source ← orFail .file ((← get).files.readText path)
  let name := (PathParts.ofText path).name?.getD path
  let text ← orFail .template (config.renderText values name source)
  note debug ("Rendered " ++ path)
  return text

/-- Writes a text to the file under a path, and makes the directory that it lies in. -/
def write (path text : String) : Command Unit := do
  let (files, result) := (← get).files.makeDirectories path
  modify ({ · with files := files })
  orFail .file result
  let files ← orFail .file (files.writeText path text)
  modify ({ · with files := files })
  tell ("wrote " ++ path)

/-- Renders a template or a directory of templates. -/
def render (o : RenderOptions) (config : Config) (debug : Bool) : Command Unit := do
  let values ← loadValues o.valuesFiles o.overrides debug
  let config := { config with strict := config.strict && !o.lenient }
  orFail .ofConfigError config.validate
  let text ←
    if (← get).files.isDirectory o.template then renderTree config values o.template debug
    else renderFile config values o.template debug
  match o.output with
  | some path => write path text
  | none => print text

end Command

end ChartRender
