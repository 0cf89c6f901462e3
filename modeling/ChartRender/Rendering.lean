import ChartRender.Config
import ChartRender.Diagnostic
import ChartRender.Files.Basic
import ChartRender.Template.Evaluation
import ChartRender.Template.Exchange
import ChartRender.Template.Parser
import ChartRender.Text.Basic
/-!
# Rendering

Rendering one template from its text, and all templates of a directory together. The templates of a
directory can include one another. Those that cannot be read or parsed are reported first; then
every template that is no helper is rendered on its own, and one that fails does not keep the others
from being rendered. Output that is all white space is dropped. How the function `debug` lays out what
it shows is not specified, so all of this depends on such texts.

Key definitions: `Config.renderText`, `SourceFile`, `Config.loadSources`, `Config.renderSources`,
`Config.renderDirectory`.
-/

namespace ChartRender

/-- The texts that templates gave, under their names, and the report on all of them. -/
structure Rendering where
  outputs : List (String × String)
  report : Report
  deriving DecidableEq, Repr

/-- Whether no template failed. -/
def Rendering.isSuccess (r : Rendering) : Bool := !r.report.hasErrors

/-- A template file of a directory: its name in the directory, its own name, and its text. -/
structure SourceFile where
  name : String
  fileName : String
  text : Except FileError String

/-- Whether a template file is only there for the others: its own name starts with an underscore. -/
def SourceFile.isHelper (file : SourceFile) : Bool := file.fileName.toList.head? == some '_'

/-- What loading template files gives: the templates that can be rendered and included, the texts of
the files that could be read, both with the latest first, and a report on the files that could not
be loaded. -/
structure Loading where
  library : List (String × List Template.Stmt)
  sources : List (String × String)
  report : Report

namespace Config

variable [texts : Template.DebugText]

/-- What every template starts with. -/
def names (values : Value) : Template.Bindings := [("values", Template.Datum.ofValue values)]

/-- The engine for templates that can include one another. -/
def engine (c : Config) (library : List (String × List Template.Stmt)) : Template.Engine :=
  ⟨c.strict, c.builtinsName, library, texts⟩

/-- The output of a template with a name and a text. The only template that it can include is
itself. -/
def renderText (c : Config) (values : Value) (name source : String) : Except Diagnostic String :=
  let output := do
    let statements ← Template.parse name source
    (c.engine [(name, statements)]).run name statements (names values)
  match output with
  | .ok text => .ok text
  | .error fault => .error (.ofFault fault name source)

/-! ### Many templates -/

/-- Loads a template file, or reports that it cannot be loaded. -/
def loadSource (l : Loading) (file : SourceFile) : Loading :=
  match file.text with
  | .error e =>
    let d := Diagnostic.simple ("Failed to read template: " ++ e.message)
    { l with report := l.report.addError file.name d }
  | .ok source =>
    let sources := (file.name, source) :: l.sources
    match Template.parse file.name source with
    | .error fault =>
      ⟨l.library, sources, l.report.addError file.name (.ofFault fault file.name source)⟩
    | .ok statements => ⟨(file.name, statements) :: l.library, sources, l.report⟩

/-- Loads template files from the first to the last. -/
def loadSources (files : List SourceFile) : Loading := files.foldl loadSource ⟨[], [], .empty⟩

/-- Whether a text is all white space. -/
def isBlankText (s : String) : Bool := s.toList.all Text.isBlank

/-- Puts a text under a name, in place of the one that was there, or at the end. -/
def putOutput (name text : String) : List (String × String) → List (String × String)
  | [] => [(name, text)]
  | (n, old) :: rest =>
    if n = name then (n, text) :: rest else (n, old) :: putOutput name text rest

/-- Notes the text that a template gave. -/
def addText (r : Rendering) (name text : String) : Rendering :=
  ⟨if isBlankText text then r.outputs else putOutput name text r.outputs, r.report.addSuccess name⟩

/-- Notes that the template with a name and a source gave no text. -/
def addFault (r : Rendering) (name source : String) (fault : Template.Fault) : Rendering :=
  { r with report := r.report.addError name (.ofFault fault name source) }

/-- Renders a template file, unless it is a helper or there is no template of its name, in which case
it could not be loaded. -/
def renderSource (engine : Template.Engine) (sources : List (String × String)) (values : Value)
    (r : Rendering) (file : SourceFile) : Rendering :=
  if file.isHelper then r
  else
    match engine.library.lookup file.name with
    | none => r
    | some statements =>
      match engine.run file.name statements (names values) with
      | .ok text => addText r file.name text
      | .error fault => addFault r file.name ((sources.lookup file.name).getD "") fault

/-- Renders the template files of a directory. -/
def renderSources (c : Config) (values : Value) (files : List SourceFile) : Rendering :=
  let l := loadSources files
  files.foldl (renderSource (c.engine l.library) l.sources values) ⟨[], l.report⟩

/-! ### Directories -/

/-- The template file that was found in a tree under a path; the path itself may be that of a
file. -/
def sourceFile? (c : Config) (path : String) (found : FoundFile) : Option SourceFile :=
  let fileName := (found.1.getLast?.or (PathParts.ofText path).name?).getD ""
  if c.isTemplate fileName then some ⟨found.1.text, fileName, found.2.text⟩ else none

/-- The template files of the directory that a path names. -/
def listSources (c : Config) (fs : FileSystem) (path : String) :
    Except FileError (List SourceFile) := do
  let t ← fs.find path
  return t.files.filterMap (c.sourceFile? path)

/-- Renders the templates of the directory that a path names. -/
def renderDirectory (c : Config) (values : Value) (fs : FileSystem) (path : String) : Rendering :=
  match c.listSources fs path with
  | .ok files => c.renderSources values files
  | .error e =>
    let message :=
      "Failed to list templates: IO error for operation on " ++ path ++ ": " ++ e.message
    ⟨[], Report.empty.addError "<dir>" (.simple message)⟩

end Config

end ChartRender
