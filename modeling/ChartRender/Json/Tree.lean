import ChartRender.Json.Basic
/-!
# JSON trees

The other way to decode a document: into a tree of its own, in which objects are sorted by key, and
from there into a value. A tree keeps the three kinds of numbers apart and has no place for a number
that is not finite, which becomes null.

Key definitions: `Fields.sorted`, `JsonTree`, `Json.toTree`, `JsonTree.toValue`,
`Json.toSortedValue`.
-/

namespace ChartRender

namespace Fields

/-- Puts something under a key in fields that are sorted by key. -/
def putSorted {α : Type} (fields : List (String × α)) (key : String) (value : α) :
    List (String × α) :=
  match fields with
  | [] => [(key, value)]
  | (k, v) :: rest =>
    if k = key then (k, value) :: rest
    else if key < k then (key, value) :: (k, v) :: rest
    else (k, v) :: putSorted rest key value

/-- The same fields sorted by key; of a repeated key the last value counts. -/
def sorted {α : Type} (fields : List (String × α)) : List (String × α) :=
  fields.foldl (fun sorted p => putSorted sorted p.1 p.2) []

end Fields

/-- A decoded document. -/
inductive JsonTree where
  | null
  | bool (b : Bool)
  | number (n : JsonNumber)
  | string (s : String)
  | array (items : List JsonTree)
  | object (members : List (String × JsonTree))
  deriving Inhabited, Repr

/-- The nearest binary number, if there is one. -/
def JsonNumber.binary64? : JsonNumber → Option Binary64
  | .unsigned n => some (.ofInt n.toNat)
  | .negative i => some (.ofInt64 i)
  | .float x => some x

namespace JsonTree

/-- A number in a tree. -/
def ofNumber : JsonNumber → JsonTree
  | .float x => if x.isFinite then .number (.float x) else .null
  | n => .number n

mutual

/-- The value of a tree. -/
def toValue : JsonTree → Value
  | .null => .null
  | .bool b => .bool b
  | .number n => .number (n.binary64?.getD .nan)
  | .string s => .string s
  | .array items => .list (toValues items)
  | .object members => .map (Fields.ofPairs (toPairs members))

/-- The values of the elements of an array. -/
def toValues : List JsonTree → List Value
  | [] => []
  | t :: rest => toValue t :: toValues rest

/-- The values of the members of an object. -/
def toPairs : List (String × JsonTree) → List (String × Value)
  | [] => []
  | (key, t) :: rest => (key, toValue t) :: toPairs rest

end

end JsonTree

namespace Json

mutual

/-- The tree of a document. -/
def toTree : Json → JsonTree
  | .null => .null
  | .bool b => .bool b
  | .number n => .ofNumber n
  | .string s => .string s
  | .array items => .array (toTrees items)
  | .object members => .object (Fields.sorted (toTreeMembers members))

/-- The trees of the elements of an array. -/
def toTrees : List Json → List JsonTree
  | [] => []
  | j :: rest => toTree j :: toTrees rest

/-- The trees of the members of an object. -/
def toTreeMembers : List (String × Json) → List (String × JsonTree)
  | [] => []
  | (key, j) :: rest => (key, toTree j) :: toTreeMembers rest

end

/-- The value of a document that is decoded into a tree first. -/
def toSortedValue (j : Json) : Value := j.toTree.toValue

end Json

end ChartRender
