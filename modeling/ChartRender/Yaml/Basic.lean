import ChartRender.Binary64.Basic
import ChartRender.Decimal.Basic
import ChartRender.Value.Basic
/-!
# YAML documents

The tree of nodes that a YAML text spells, with aliases already replaced by what they refer to, and
the value of a tree. What an untagged plain scalar stands for is decided by its text: null, a
boolean, an integer, a floating-point number or a string. Keys are texts, whatever they look like.

Key definitions: `Yaml`, `Yaml.ofPlain?`, `Yaml.ofScalar?`, `Yaml.toValue?`.
-/

namespace ChartRender

/-- A node of a YAML document. -/
inductive Yaml where
  | scalar (tag : Option String) (plain : Bool) (text : String)
  | sequence (tag : Option String) (items : List Yaml)
  | mapping (tag : Option String) (entries : List (Yaml × Yaml))
  deriving Inhabited, Repr

namespace Yaml

/-- The node that stands where nothing is written. -/
def nothing : Yaml := .scalar none true ""

/-! ### Plain scalars -/

def isNullText (text : String) : Bool :=
  text == "null" || text == "Null" || text == "NULL" || text == "~"

def bool? (text : String) : Option Bool :=
  if text == "true" || text == "True" || text == "TRUE" then some true
  else if text == "false" || text == "False" || text == "FALSE" then some false
  else none

/-- The value of a digit in a base of at most 16. -/
def digit? (base : Nat) (c : Char) : Option Nat :=
  let d :=
    if c.isDigit then c.toNat - '0'.toNat
    else if 'a' ≤ c ∧ c ≤ 'f' then c.toNat - 'a'.toNat + 10
    else if 'A' ≤ c ∧ c ≤ 'F' then c.toNat - 'A'.toNat + 10
    else base
  if d < base then some d else none

/-- The natural number that digits write in a base, if there are digits and nothing else. -/
def natural? (base : Nat) (cs : List Char) : Option Nat :=
  if cs.isEmpty then none
  else cs.foldlM (fun n c => (digit? base c).map (n * base + ·)) 0

/-- The natural number behind a sign, in base ten or in the base that a mark in front names. -/
def magnitude? : List Char → Option Nat
  | '0' :: 'x' :: cs => natural? 16 cs
  | '0' :: 'o' :: cs => natural? 8 cs
  | '0' :: 'b' :: cs => natural? 2 cs
  | cs => if cs.head? = some '0' ∧ 1 < cs.length then none else natural? 10 cs

/-- The integer that a text writes. -/
def integer? (cs : List Char) : Option Int :=
  match cs with
  | '-' :: cs => (magnitude? cs).map fun n => -(n : Int)
  | '+' :: cs => (magnitude? cs).map fun n => (n : Int)
  | cs => (magnitude? cs).map fun n => (n : Int)

/-- Whether a text is a row of digits with a zero in front, which is no number. -/
def hasLeadingZero (cs : List Char) : Bool :=
  let digits := match cs with
    | '-' :: cs => cs
    | '+' :: cs => cs
    | cs => cs
  1 < digits.length && digits.head? == some '0' && digits.all Char.isDigit

/-- The floating-point number that a text writes; one too large for the format is none. -/
def float? (cs : List Char) : Option Binary64 :=
  let (plus, unsigned) := match cs with
    | '+' :: cs => (true, cs)
    | cs => (false, cs)
  let text := String.ofList unsigned
  if plus && (unsigned.head? == some '+' || unsigned.head? == some '-') then none
  else if text == ".inf" || text == ".Inf" || text == ".INF" then some .infinity
  else if !plus && (text == "-.inf" || text == "-.Inf" || text == "-.INF") then some .negInfinity
  else if !plus && (text == ".nan" || text == ".NaN" || text == ".NAN") then some .nan
  else match Binary64.ofChars? unsigned with
    | some x => if x.isFinite then some x else none
    | none => none

/-- The value of an integer; one that needs more than 64 bits but fits into 128 is refused. -/
def ofInteger? (i : Int) : Option Value :=
  if Width.fits 64 i then some (.number (.ofInt i)) else none

/-- The value of an untagged plain scalar. -/
def ofPlain? (text : String) : Option Value :=
  let cs := text.toList
  if cs.isEmpty || isNullText text then some .null
  else match bool? text with
    | some b => some (.bool b)
    | none =>
      match (integer? cs).filter (Width.fits 128) with
      | some i => ofInteger? i
      | none =>
        if hasLeadingZero cs then some (.string text)
        else match float? cs with
          | some x => some (.number x)
          | none => some (.string text)

/-! ### Nodes -/

/-- Whether a tag is of the application's own making. -/
def isLocalTag (tag : String) : Bool := tag.toList.head? == some '!'

/-- The value of a scalar. A tag of the core schema fixes its type, and other tags but those of the
application's own leave it a string. -/
def ofScalar? (tag : Option String) (plain : Bool) (text : String) : Option Value :=
  match tag with
  | none => if plain then ofPlain? text else some (.string text)
  | some tag =>
    if isLocalTag tag then none
    else if tag == "tag:yaml.org,2002:bool" then (bool? text).map .bool
    else if tag == "tag:yaml.org,2002:int" then
      ((integer? text.toList).filter (Width.fits 128)).bind ofInteger?
    else if tag == "tag:yaml.org,2002:float" then (float? text.toList).map .number
    else if tag == "tag:yaml.org,2002:null" then if isNullText text then some .null else none
    else some (.string text)

/-- Whether a collection bears no tag of the application's own. -/
def isUsualTag (tag : Option String) : Bool := tag.all fun t => !isLocalTag t

/-- How many collections may enclose one another. -/
def maxDepth : Nat := 128

/-- The text of a node that is a key. -/
def key? : Yaml → Option String
  | .scalar _ _ text => some text
  | _ => none

mutual

/-- The value of a node with at most `depth` collections around one another. -/
def toValueAt? : Nat → Yaml → Option Value
  | _, .scalar tag plain text => ofScalar? tag plain text
  | 0, _ => none
  | depth + 1, .sequence tag items =>
    if isUsualTag tag then (toValuesAt? depth items).map .list else none
  | depth + 1, .mapping tag entries =>
    if isUsualTag tag then
      (toPairsAt? depth entries).map fun pairs => .map (Fields.ofPairs pairs)
    else none

/-- The values of the items of a sequence. -/
def toValuesAt? (depth : Nat) : List Yaml → Option (List Value)
  | [] => some []
  | y :: rest => do
    let v ← toValueAt? depth y
    let vs ← toValuesAt? depth rest
    return v :: vs

/-- The keys and values of the entries of a mapping. -/
def toPairsAt? (depth : Nat) : List (Yaml × Yaml) → Option (List (String × Value))
  | [] => some []
  | (k, y) :: rest => do
    let key ← k.key?
    let v ← toValueAt? depth y
    let ps ← toPairsAt? depth rest
    return (key, v) :: ps

end

/-- The value of a document. -/
def toValue? (y : Yaml) : Option Value := toValueAt? maxDepth y

end Yaml

end ChartRender
