import ChartRender.Files.Basic
import ChartRender.Values.Basic
/-!
# Values files and overrides

Where values come from: files, each a YAML document, and overrides, each a text `path=value` that
sets one value. What stands behind the first `=` is a boolean, null, a finite number, a JSON array or
object, or else just text.

Key definitions: `ValuesFileError`, `Values.ofFile`, `Values.ofOverrideText`, `Values.override`,
`Values.ofOverrides`.
-/

namespace ChartRender

/-! ### Files -/

/-- Why a file gives no values. -/
inductive ValuesFileError where
  | unreadable (e : FileError)
  | malformed (e : ValuesError)
  deriving DecidableEq, Repr

/-- What went wrong. -/
def ValuesFileError.message : ValuesFileError → String
  | .unreadable e => "IO error: " ++ e.message
  | .malformed e => e.message

/-- The values in the file that a path names, which is a YAML document. -/
def Values.ofFile (fs : FileSystem) (path : String) : Except ValuesFileError Value :=
  match fs.readText path with
  | .error e => .error (.unreadable e)
  | .ok text =>
    match Values.ofYaml text with
    | .error e => .error (.malformed e)
    | .ok v => .ok v

namespace Values

/-! ### Overrides -/

/-- The JSON array or object that a text spells, if it starts like one and is well formed. -/
def ofCollectionText? (text : String) : Option Value :=
  match text.toList with
  | '[' :: _ | '{' :: _ => (Json.parse? text).map Json.toValue
  | _ => none

/-- The finite number that a text spells. -/
def ofNumberText? (text : String) : Option Value :=
  ((Binary64.ofText? text).filter Binary64.isFinite).map .number

/-- The value that the right side of an override stands for. -/
def ofOverrideText (text : String) : Value :=
  if text = "true" then .bool true
  else if text = "false" then .bool false
  else if text = "null" then .null
  else match ofNumberText? text with
    | some v => v
    | none => (ofCollectionText? text).getD (.string text)

/-- Applies one override to values. -/
def override (values : Value) (argument : String) : Except ValuesError Value :=
  match Text.splitFirst? '=' argument.toList with
  | none => .error (.missingEquals argument)
  | some (path, text) => set values (String.ofList path) (ofOverrideText (String.ofList text))

/-- The values that overrides make out of none, applied from the first to the last. -/
def ofOverrides (arguments : List String) : Except ValuesError Value :=
  arguments.foldlM override .empty

end Values

end ChartRender
