import ChartRender.Failure
import ChartRender.Value.Basic
/-!
# Type names

The types of the typed language that a template may test a value against. A type has a canonical
name and may have others. Decoded numbers are all floating-point, so the integer types also take a
number that has no fractional part.

Key definitions: `TypeName`, `TypeName.ofText?`, `TypeName.accepts`, `TypeName.test`,
`TypeName.assert`.
-/

namespace ChartRender

/-- A type that values are tested against. -/
inductive TypeName where
  | bool
  | string
  | int
  | int32
  | int64
  | float64
  | map
  | list
  | nil
  /-- Every value but null. -/
  | any
  deriving DecidableEq, Repr

/-- Whether a value is a number without a fractional part. -/
def Value.isIntegralNumber : Value → Bool
  | .number x => x.isIntegral
  | _ => false

namespace TypeName

/-- The canonical name. -/
def text : TypeName → String
  | .bool => "bool"
  | .string => "string"
  | .int => "int"
  | .int32 => "int32"
  | .int64 => "int64"
  | .float64 => "float64"
  | .map => "map"
  | .list => "list"
  | .nil => "nil"
  | .any => "any"

/-- All names and the types they stand for. -/
def names : List (String × TypeName) :=
  [("bool", .bool), ("string", .string), ("int", .int), ("int32", .int32), ("int64", .int64),
   ("float64", .float64),
   ("map", .map), ("map[string]interface \x7b\x7d", .map), ("map[string]any", .map),
   ("list", .list), ("[]interface \x7b\x7d", .list), ("[]any", .list),
   ("nil", .nil), ("<nil>", .nil),
   ("any", .any), ("interface \x7b\x7d", .any)]

/-- The type that a name stands for. -/
def ofText? (name : String) : Option TypeName := names.lookup name

/-- The type that a name stands for, or the failure that names it. -/
def ofText (name : String) : Except Failure TypeName :=
  match ofText? name with
  | some t => .ok t
  | none => .error (.unknownType name)

def isInteger : TypeName → Bool
  | .int | .int32 | .int64 => true
  | _ => false

/-- Whether a value has the type. -/
def accepts (t : TypeName) (v : Value) : Bool :=
  match t, v with
  | .bool, .bool _ => true
  | .string, .string _ => true
  | .int, .int _ | .int32, .int _ | .int64, .int _ => true
  | .int, .number x | .int32, .number x | .int64, .number x => x.isIntegral
  | .float64, .number _ => true
  | .map, .map _ => true
  | .list, .list _ => true
  | .nil, v => v.isNull
  | .any, v => !v.isNull
  | _, _ => false

/-- The value and true if it has the type, else the zero value and false. -/
def test (t : TypeName) (v zero : Value) : Value × Bool :=
  if t.accepts v then (v, true) else (zero, false)

/-- The value if it has the type. A number that is asserted to be an integer becomes one. -/
def assert (t : TypeName) (v : Value) : Except Failure Value :=
  if t.accepts v then
    match t.isInteger, v with
    | true, .number x => .ok (.int x.toInt64)
    | _, _ => .ok v
  else .error (.typeMismatch t.text v.kindName)

end TypeName

end ChartRender
