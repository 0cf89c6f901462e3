import ChartRender.Decimal.Basic
import ChartRender.Value.Basic
/-!
# JSON documents

The document that a JSON text spells, with every member of every object in the order of the text, and
the value that it is decoded into: keys stand in order of arrival, a repeated key takes its last
value, and every number becomes the nearest binary one.

A number of a JSON text is a 64-bit integer if it is spelled as one, with neither a point nor an
exponent, and else the nearest binary number. Integers without a sign may take all 64 bits, and
negative zero is no integer.

Key definitions: `JsonNumber`, `JsonNumber.ofNumeral`, `JsonNumber.toBinary64`, `Json`,
`Json.toValue`.
-/

namespace ChartRender

/-! ### Numbers -/

/-- A number as it is read. -/
inductive JsonNumber where
  | unsigned (n : UInt64)
  | negative (i : Int64)
  | float (x : Binary64)
  deriving DecidableEq, Repr

namespace JsonNumber

/-- The integer that digits with a sign spell, if it has 64 bits. -/
def ofDigits? (negative : Bool) (digits : List Char) : Option JsonNumber :=
  let n : Int := Decimal.ofDigits digits
  if negative then
    if n ≠ 0 ∧ Width.isSigned 64 (-n) then some (.negative (.ofInt (-n))) else none
  else if Width.isUnsigned 64 n then some (.unsigned (.ofNat n.toNat)) else none

/-- The number that a numeral spells; `plain` says that it has neither a point nor an exponent. -/
def ofNumeral (plain : Bool) (n : Decimal.Numeral) : JsonNumber :=
  let integer? := if plain then ofDigits? n.negative n.whole else none
  integer?.getD (.float n.toBinary64)

/-- The nearest binary number. -/
def toBinary64 : JsonNumber → Binary64
  | .unsigned n => .ofInt n.toNat
  | .negative i => .ofInt64 i
  | .float x => x

end JsonNumber

/-! ### Documents -/

/-- A JSON document. -/
inductive Json where
  | null
  | bool (b : Bool)
  | number (n : JsonNumber)
  | string (s : String)
  | array (items : List Json)
  | object (members : List (String × Json))
  deriving Inhabited, Repr

namespace Json

mutual

/-- The value of a document. A key keeps the place of its first occurrence. -/
def toValue : Json → Value
  | .null => .null
  | .bool b => .bool b
  | .number n => .number n.toBinary64
  | .string s => .string s
  | .array items => .list (toValues items)
  | .object members => .map (Fields.ofPairs (toPairs members))

/-- The values of the elements of an array. -/
def toValues : List Json → List Value
  | [] => []
  | j :: rest => toValue j :: toValues rest

/-- The values of the members of an object. -/
def toPairs : List (String × Json) → List (String × Value)
  | [] => []
  | (key, j) :: rest => (key, toValue j) :: toPairs rest

end

end Json

end ChartRender
