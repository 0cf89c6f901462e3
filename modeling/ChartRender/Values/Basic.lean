import ChartRender.Json.Reader
import ChartRender.Value.Basic
import ChartRender.Yaml.Reader
/-!
# Values

The configuration that templates are rendered with: one value, normally a map, that is read from
YAML or JSON documents, merged, and changed at dotted paths. An empty document stands for no values,
which is the empty map.

Key definitions: `ValuesError`, `Values.ofYaml`, `Values.ofJson`, `Values.set`, `Values.get?`.
-/

namespace ChartRender

/-- Why values cannot be read or changed. -/
inductive ValuesError where
  | malformedYaml
  | malformedJson
  | invalidPath (path : String)
  | missingEquals (argument : String)
  deriving DecidableEq, Repr

namespace ValuesError

/-- What went wrong. -/
def message : ValuesError → String
  | .malformedYaml => "Failed to parse YAML: the text is not one document of plain data"
  | .malformedJson => "Failed to parse JSON: the text is not one document"
  | .invalidPath path => "Values merge error: Invalid key path: '" ++ path ++ "'"
  | .missingEquals argument =>
    "Values merge error: Invalid --set format: '" ++ argument ++ "'. Expected key=value"

end ValuesError

namespace Values

/-- A decoded document as values: null, which is all that an empty document holds, is no values. -/
def ofDocument (v : Value) : Value := if v.isNull then .empty else v

/-- The values that a YAML text holds. -/
def ofYaml (text : String) : Except ValuesError Value :=
  match (Yaml.parse? text).bind Yaml.toValue? with
  | some v => .ok (ofDocument v)
  | none => .error .malformedYaml

/-- The values that a JSON text holds. -/
def ofJson (text : String) : Except ValuesError Value :=
  match Json.parse? text with
  | some j => .ok (ofDocument j.toValue)
  | none => .error .malformedJson

/-- Writes a value at a dotted path, none of whose keys may be empty. -/
def set (values : Value) (path : String) (new : Value) : Except ValuesError Value :=
  let keys := KeyPath.ofText path
  if keys.any (· == "") then .error (.invalidPath path) else .ok (values.set new keys)

/-- The value at a dotted path. -/
def get? (values : Value) (path : String) : Option Value := values.get? (KeyPath.ofText path)

end Values

end ChartRender
