import ChartRender.Decimal.Layout
import ChartRender.Value.Basic
/-!
# Writing JSON

Values as JSON text: numbers with the fewest digits that read back, integers as they are, and `null`
for what JSON has no number for. The compact form has no white space; the indented form sets each
element and member on a line of its own, two blanks deeper than its container.

Key definitions: `Json.numberLayout`, `Json.quoted`, `Value.toJson`, `Value.toIndentedJson`.
-/

namespace ChartRender

namespace Json

/-- Numbers whose leading digit has an exponent from -5 to 15 are written positionally, with `.0` if
they are whole; the others show a sign on the exponent. -/
def numberLayout : Layout := ⟨.toEven, some (-5), some 15, true⟩

/-- The text of a number. -/
def numberText (x : Binary64) : String :=
  if x.isFinite then String.ofList (numberLayout.text x) else "null"

/-- The way a character is written in a string. -/
def escaped (c : Char) : List Char :=
  match c with
  | '"' => ['\\', '"']
  | '\\' => ['\\', '\\']
  | '\x08' => ['\\', 'b']
  | '\x0c' => ['\\', 'f']
  | '\n' => ['\\', 'n']
  | '\r' => ['\\', 'r']
  | '\t' => ['\\', 't']
  | c =>
    if c.toNat < 0x20 then
      ['\\', 'u', '0', '0', Nat.digitChar (c.toNat / 16), Nat.digitChar (c.toNat % 16)]
    else [c]

/-- A string in quotes. -/
def quoted (s : String) : String := String.ofList ('"' :: (s.toList.flatMap escaped ++ ['"']))

end Json

namespace Value

mutual

/-- The compact JSON text of a value. -/
def toJson : Value → String
  | .null => "null"
  | .bool b => if b then "true" else "false"
  | .number x => Json.numberText x
  | .int i => toString i.toInt
  | .string s => Json.quoted s
  | .list items => "[" ++ toJsonItems items ++ "]"
  | .map fields => "\x7b" ++ toJsonFields fields ++ "\x7d"

/-- The texts of values, with commas between them. -/
def toJsonItems : List Value → String
  | [] => ""
  | [v] => toJson v
  | v :: rest => toJson v ++ "," ++ toJsonItems rest

/-- The texts of fields, with commas between them. -/
def toJsonFields : List (String × Value) → String
  | [] => ""
  | [(k, v)] => Json.quoted k ++ ":" ++ toJson v
  | (k, v) :: rest => Json.quoted k ++ ":" ++ toJson v ++ "," ++ toJsonFields rest

end

/-- A line break and the indentation of a level. -/
def lineBreak (level : Nat) : String := String.ofList ('\n' :: List.replicate (2 * level) ' ')

mutual

/-- The indented JSON text of a value that stands at some level. -/
def toIndentedJson (level : Nat) : Value → String
  | .null => "null"
  | .bool b => if b then "true" else "false"
  | .number x => Json.numberText x
  | .int i => toString i.toInt
  | .string s => Json.quoted s
  | .list [] => "[]"
  | .list (v :: rest) =>
    "[" ++ toIndentedItems (level + 1) (v :: rest) ++ lineBreak level ++ "]"
  | .map [] => "\x7b\x7d"
  | .map (p :: rest) =>
    "\x7b" ++ toIndentedFields (level + 1) (p :: rest) ++ lineBreak level ++ "\x7d"

/-- The texts of values, each on a line of its own. -/
def toIndentedItems (level : Nat) : List Value → String
  | [] => ""
  | [v] => lineBreak level ++ toIndentedJson level v
  | v :: rest => lineBreak level ++ toIndentedJson level v ++ "," ++ toIndentedItems level rest

/-- The texts of fields, each on a line of its own. -/
def toIndentedFields (level : Nat) : List (String × Value) → String
  | [] => ""
  | [(k, v)] => lineBreak level ++ Json.quoted k ++ ": " ++ toIndentedJson level v
  | (k, v) :: rest =>
    lineBreak level ++ Json.quoted k ++ ": " ++ toIndentedJson level v ++ "," ++
      toIndentedFields level rest

end

end Value

end ChartRender
