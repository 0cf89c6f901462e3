import ChartRender.Binary64.Basic
import ChartRender.Text.Basic
/-!
# Dynamic values

The values that builtins work on: those of JSON, with one addition. Decoded data holds every number
as a `number`; an `int` is only ever made by a builtin (a length, an asserted integer, a count). A
map is a list of fields in the order in which their keys first arrived, each key once
(`Value.HasDistinctKeys`), and every operation that writes a field keeps it so.

Two values are the same if they agree leaf by leaf and in the order of fields, which is `=`; they
are equal for builtins if they agree as data, which is `==`.

Values are merged deeply: two maps key by key, keys of the base first, and in every other case the
overlay replaces the base. They are read and changed along paths, lists of keys that lead through
nested maps: reading follows the keys as far as there are maps, and writing makes maps where there are
none.

Key definitions: `Value`, `Fields.get?`, `Fields.put`, `Value.HasDistinctKeys`, `Value.equals`,
`Value.merge`, `KeyPath.ofText`, `Value.get?`, `Value.set`.
-/

namespace ChartRender

/-- A dynamic value. -/
inductive Value where
  | null
  | bool (b : Bool)
  | number (x : Binary64)
  | int (i : Int64)
  | string (s : String)
  | list (items : List Value)
  | map (fields : List (String × Value))
  deriving Inhabited, Repr

/-- The fields of a map, in order of arrival. -/
abbrev Fields := List (String × Value)

namespace Fields

/-- The value under a key. -/
def get? (fields : Fields) (key : String) : Option Value := fields.lookup key

def keys (fields : Fields) : List String := fields.map (·.1)

/-- Puts a value under a key: in place of the old value if there is one, else at the end. -/
def put (fields : Fields) (key : String) (value : Value) : Fields :=
  match fields with
  | [] => [(key, value)]
  | (k, v) :: rest => if k = key then (k, value) :: rest else (k, v) :: put rest key value

/-- The fields that arise by putting pairs one after the other. -/
def ofPairs (pairs : List (String × Value)) : Fields :=
  pairs.foldl (fun fields p => put fields p.1 p.2) []

end Fields

namespace Value

/-- The empty map. -/
def empty : Value := .map []

def isNull : Value → Bool
  | .null => true
  | _ => false

def string? : Value → Option String
  | .string s => some s
  | _ => none

def list? : Value → Option (List Value)
  | .list items => some items
  | _ => none

def map? : Value → Option Fields
  | .map fields => some fields
  | _ => none

/-- The fields of a map; any other value has none. -/
def fields : Value → Fields
  | .map fields => fields
  | _ => []

/-- The name of the kind of a value in the typed language that templates are generated from. -/
def kindName : Value → String
  | .null => "<nil>"
  | .bool _ => "bool"
  | .number _ => "float64"
  | .int _ => "int64"
  | .string _ => "string"
  | .list _ => "[]interface \x7b\x7d"
  | .map _ => "map[string]interface \x7b\x7d"

/-! ### Keys at every depth -/

mutual

/-- No map in the value, at any depth, holds a key twice. -/
def HasDistinctKeys : Value → Prop
  | .list items => AllDistinctKeys items
  | .map fields => (Fields.keys fields).Nodup ∧ FieldsDistinctKeys fields
  | _ => True

/-- No map in any of the values holds a key twice. -/
def AllDistinctKeys : List Value → Prop
  | [] => True
  | v :: vs => HasDistinctKeys v ∧ AllDistinctKeys vs

/-- No map in any of the fields' values holds a key twice. -/
def FieldsDistinctKeys : List (String × Value) → Prop
  | [] => True
  | (_, v) :: rest => HasDistinctKeys v ∧ FieldsDistinctKeys rest

end

/-! ### Identity -/

mutual

/-- Whether two values are the same, leaf by leaf and field by field. -/
def decEq (v w : Value) : Decidable (v = w) := by
  cases v <;> cases w
  case null.null => exact isTrue rfl
  case bool.bool a b => exact decidable_of_iff (a = b) (by simp)
  case number.number x y => exact decidable_of_iff (x = y) (by simp)
  case int.int i j => exact decidable_of_iff (i = j) (by simp)
  case string.string s t => exact decidable_of_iff (s = t) (by simp)
  case list.list xs ys =>
    have := decEqAll xs ys
    exact decidable_of_iff (xs = ys) (by simp)
  case map.map fs gs =>
    have := decEqFields fs gs
    exact decidable_of_iff (fs = gs) (by simp)
  all_goals exact isFalse nofun

/-- Whether two lists of values are the same. -/
def decEqAll (vs ws : List Value) : Decidable (vs = ws) := by
  cases vs <;> cases ws
  case nil.nil => exact isTrue rfl
  case cons.cons v vs w ws =>
    have := decEq v w
    have := decEqAll vs ws
    exact decidable_of_iff (v = w ∧ vs = ws) (by simp)
  all_goals exact isFalse nofun

/-- Whether two lists of fields are the same, in order too. -/
def decEqFields (fs gs : List (String × Value)) : Decidable (fs = gs) := by
  cases fs <;> cases gs
  case nil.nil => exact isTrue rfl
  case cons.cons f fs g gs =>
    obtain ⟨k, v⟩ := f
    obtain ⟨l, w⟩ := g
    have := decEq v w
    have := decEqFields fs gs
    exact decidable_of_iff (k = l ∧ v = w ∧ fs = gs) (by simp [and_assoc])
  all_goals exact isFalse nofun

end

instance : DecidableEq Value := decEq

/-! ### Equality -/

mutual

/-- Equality of values: an integer and a number are compared as numbers, lists element by element,
and maps as sets of fields, whatever their order. -/
def equals : Value → Value → Bool
  | .null, .null => true
  | .bool a, .bool b => a == b
  | .number x, .number y => x == y
  | .int i, .int j => i == j
  | .int i, .number x => x == Binary64.ofInt64 i
  | .number x, .int i => x == Binary64.ofInt64 i
  | .string s, .string t => s == t
  | .list xs, .list ys => equalsAll xs ys
  | .map fs, .map gs => fs.length == gs.length && equalsFields fs gs
  | _, _ => false

/-- Equality of lists of values. -/
def equalsAll : List Value → List Value → Bool
  | [], [] => true
  | x :: xs, y :: ys => equals x y && equalsAll xs ys
  | _, _ => false

/-- Whether each field's key is found in the other fields with an equal value. -/
def equalsFields : List (String × Value) → Fields → Bool
  | [], _ => true
  | (k, v) :: rest, gs =>
    (match Fields.get? gs k with
      | some w => equals v w
      | none => false) && equalsFields rest gs

end

instance : BEq Value := ⟨equals⟩

/-! ### Deep merge -/

mutual

/-- The base with the overlay merged over it. -/
def merge (base : Value) : Value → Value
  | .map overlay =>
    match base with
    | .map fields => .map (mergeFields fields overlay)
    | _ => .map overlay
  | overlay => overlay

/-- The fields of a base with those of an overlay merged over them one after the other. -/
def mergeFields (base : Fields) : List (String × Value) → Fields
  | [] => base
  | (key, overlay) :: rest =>
    let merged := match Fields.get? base key with
      | some value => merge value overlay
      | none => overlay
    mergeFields (Fields.put base key merged) rest

end

end Value

/-! ### Paths -/

/-- The keys that lead from a value to one inside it. -/
abbrev KeyPath := List String

/-- The keys of a dotted path. -/
def KeyPath.ofText (path : String) : KeyPath := (Text.split '.' path.toList).map String.ofList

namespace Value

/-- The value at a path. -/
def get? (value : Value) : KeyPath → Option Value
  | [] => some value
  | key :: rest => (Fields.get? value.fields key).bind fun inner => get? inner rest

/-- Writes a value at a path. What stands in the way and is no map is replaced by a map. -/
def set (value new : Value) : KeyPath → Value
  | [] => new
  | key :: rest =>
    let inner := (Fields.get? value.fields key).getD .empty
    .map (Fields.put value.fields key (set inner new rest))

end Value

end ChartRender
