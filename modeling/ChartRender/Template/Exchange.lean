import ChartRender.Binary64.Basic
import ChartRender.Json.Printer
import ChartRender.Json.Tree
import ChartRender.Template.Display
import ChartRender.Value.Basic
/-!
# Exchange between values and template data

Values enter a template as data, and data is handed to builtins as values. On the way in a number
that is a 64-bit integer becomes an integer, so that it prints without a fraction. On the way out
all that is not defined or not finite becomes null, every number a floating-point one, and keys
become texts in sorted order; data whose keys cannot be texts, and integers of more than 64 bits,
are refused.

Key definitions: `Datum.ofValue`, `Datum.toValue`.
-/

namespace ChartRender.Template

/-- Why data cannot be handed to a builtin. -/
inductive ExchangeError where
  | keyNotText
  | keyNotFinite
  | outOfRange
  deriving DecidableEq, Repr

/-- What is wrong with the data. -/
def ExchangeError.message : ExchangeError → String
  | .keyNotText => "key must be a string"
  | .keyNotFinite => "float key must be finite (got NaN or +/-inf)"
  | .outOfRange => "number out of range"

namespace Datum

/-- The number as an integer if it is one of 64 bits. -/
def ofNumber (x : Binary64) : Datum :=
  match x.toInt64? with
  | some i => .int i.toInt
  | none => .float x

mutual

/-- The datum that a value enters a template as. -/
def ofValue : Value → Datum
  | .null => .null
  | .bool b => .bool b
  | .number x => ofNumber x
  | .int i => .int i.toInt
  | .string s => ofText s
  | .list items => .list (ofValues items)
  | .map fields => .map (Entries.ofPairs (ofFields fields))

def ofValues : List Value → List Datum
  | [] => []
  | v :: rest => ofValue v :: ofValues rest

def ofFields : List (String × Value) → List (Datum × Datum)
  | [] => []
  | (key, v) :: rest => (ofText key, ofValue v) :: ofFields rest

end

/-- The text that a key becomes. -/
def keyText : Datum → Except ExchangeError String
  | .bool b => .ok (if b then "true" else "false")
  | .int i => if Width.fits 64 i then .ok (toString i) else .error .outOfRange
  | .float x => if x.isFinite then .ok (Json.numberText x) else .error .keyNotFinite
  | .string _ s => .ok s
  | .builtins => .ok builtinsText
  | .range => .ok rangeName
  | .debug _ => .ok debugName
  | .routine name _ => .ok (routineText name)
  | .undefined | .null | .list _ | .map _ => .error .keyNotText

mutual

/-- The value that a datum is handed to a builtin as. -/
def toValue : Datum → Except ExchangeError Value
  | .undefined => .ok .null
  | .null => .ok .null
  | .bool b => .ok (.bool b)
  | .int i => if Width.fits 64 i then .ok (.number (.ofInt i)) else .error .outOfRange
  | .float x => .ok (if x.isFinite then .number x else .null)
  | .string _ s => .ok (.string s)
  | .list items => (toValues items).map .list
  | .map entries => (toPairs entries).map fun ps => .map (Fields.sorted ps)
  | .builtins => .ok (.string builtinsText)
  | .range => .ok (.string rangeName)
  | .debug _ => .ok (.string debugName)
  | .routine name _ => .ok (.string (routineText name))

/-- The values of items, from the first to the last. -/
def toValues : List Datum → Except ExchangeError (List Value)
  | [] => .ok []
  | d :: rest => do
    let v ← toValue d
    let vs ← toValues rest
    return v :: vs

/-- The keys and values of entries, from the first to the last. -/
def toPairs : List (Datum × Datum) → Except ExchangeError (List (String × Value))
  | [] => .ok []
  | (k, d) :: rest => do
    let key ← keyText k
    let v ← toValue d
    let ps ← toPairs rest
    return (key, v) :: ps

end

end Datum

end ChartRender.Template
