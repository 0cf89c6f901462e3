import ChartRender.Builtin
import ChartRender.Template.Fault
import ChartRender.Text.Basic
/-!
# Diagnostics and reports

What is told of a template that gives no text: a category, a message, the builtin's failure behind
it if there is one, the source with the line where it arose, and a suggestion. A failure of a
builtin takes precedence over the fault that it led to, however many faults lie between the two.

A report is what came of rendering many templates: the diagnostics of those that failed, under their
names in order of first failure, and the names of those that succeeded.

Key definitions: `Category`, `Diagnostic`, `Diagnostic.ofFault`, `Report`, `Report.addError`,
`Report.addSuccess`, `Report.summary`.
-/

namespace ChartRender

/-- The categories of diagnostics. -/
inductive Category where
  | builtin
  | undefinedVariable
  | unknownFunction
  | unknownMethod
  | badSyntax
  | type
  | invalidOperation
  | other
  deriving DecidableEq, Repr

namespace Category

/-- The short name of a category. -/
def code : Category → String
  | .builtin => "shim"
  | .undefinedVariable => "undefined_variable"
  | .unknownFunction => "unknown_function"
  | .unknownMethod => "unknown_method"
  | .badSyntax => "syntax"
  | .type => "type"
  | .invalidOperation => "invalid_operation"
  | .other => "render"

/-- The category of a kind of fault behind which there is no builtin's failure. -/
def ofKind : Template.FaultKind → Category
  | .undefinedError => .undefinedVariable
  | .unknownFunction => .unknownFunction
  | .unknownMethod => .unknownMethod
  | .syntaxError => .badSyntax
  | .invalidOperation => .invalidOperation
  | .nonPrimitive | .nonKey => .type
  | _ => .other

/-- What is suggested for a category, whatever the details. -/
def suggestion? : Category → Option String
  | .unknownMethod => some ("Available shims: " ++ Text.join ", " (Builtin.all.map Builtin.name))
  | .undefinedVariable => some "Variable is not defined. Check spelling or use `| default(...)`."
  | .badSyntax =>
    some ("Check bracket matching: `\x7b\x7b \x7d\x7d` for expressions, " ++
      "`\x7b% %\x7d` for statements")
  | _ => none

end Category

/-- What is told of a template that gives no text. -/
structure Diagnostic where
  category : Category
  message : String
  failure : Option Failure
  sourceName : String
  source : String
  span : Option Text.Span
  suggestion : Option String
  deriving DecidableEq, Repr

namespace Diagnostic

/-- The code under which diagnostics are documented. -/
def code : String := "helmshim::template::render"

/-- A diagnostic without a source. -/
def simple (message : String) : Diagnostic := ⟨.other, message, none, "<unknown>", "", none, none⟩

/-- The wording of a fault in diagnostics: the phrases that repeat its category are left out, and
what is undefined is called a variable. -/
def wording (text : String) : String :=
  let text := Text.replace text "invalid operation: " ""
  let text := Text.replace text "syntax error: " ""
  Text.replace text "undefined value" "undefined variable"

/-- The diagnostic of a fault that came up when the template with a name and a source was
rendered. -/
def ofFault (fault : Template.Fault) (name source : String) : Diagnostic :=
  let span := fault.place.bind fun place => Text.lineSpan source place.line
  match fault.failure? with
  | some f => ⟨.builtin, "shim failed: " ++ f.message, some f, name, source, span, f.help?⟩
  | none =>
    let category := Category.ofKind fault.kind
    ⟨category, wording fault.text, none, name, source, span, category.suggestion?⟩

end Diagnostic

/-! ### Reports -/

/-- What came of rendering many templates. -/
structure Report where
  errors : List (String × List Diagnostic)
  successes : List String
  deriving DecidableEq, Repr

namespace Report

def empty : Report := ⟨[], []⟩

/-- Adds a diagnostic to those under a name, which comes last if it is new. -/
def insertError (name : String) (d : Diagnostic) :
    List (String × List Diagnostic) → List (String × List Diagnostic)
  | [] => [(name, [d])]
  | (n, ds) :: rest =>
    if n = name then (n, ds ++ [d]) :: rest else (n, ds) :: insertError name d rest

/-- Notes that a template failed. -/
def addError (r : Report) (name : String) (d : Diagnostic) : Report :=
  { r with errors := insertError name d r.errors }

/-- Notes that a template succeeded. -/
def addSuccess (r : Report) (name : String) : Report :=
  { r with successes := r.successes ++ [name] }

def hasErrors (r : Report) : Bool := !r.errors.isEmpty

/-- The number of diagnostics. -/
def errorCount (r : Report) : Nat := (r.errors.flatMap (·.2)).length

/-- A count with its noun, which gets an `s` unless there is just one. -/
def counted (count : Nat) (noun : String) : String :=
  if count = 1 then "1 " ++ noun else toString count ++ " " ++ noun ++ "s"

/-- How many errors there are in how many templates. -/
def summary (r : Report) : String :=
  counted r.errorCount "error" ++ " in " ++ counted r.errors.length "template"

end Report

end ChartRender
