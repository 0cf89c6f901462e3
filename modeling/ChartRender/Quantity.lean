import ChartRender.Decimal.Basic
import ChartRender.Failure
import ChartRender.Value.Basic
/-!
# Resource quantities

Quantities such as `500m`, `2Gi` or `1.5G` are texts that are read on demand: a mantissa and a unit,
the longest run of letters at the end. Decimal units scale by powers of 1000 (`m` is a thousandth),
binary ones by powers of 1024. A well-formed quantity has at most one fractional digit and no
exponent.

Key definitions: `Quantity.Unit`, `Quantity.split`, `Quantity.isWellFormed`, `Quantity.validate`,
`Quantity.toInt64`.
-/

namespace ChartRender.Quantity

/-- The units of quantities. -/
inductive Unit where
  | one
  | milli
  | kilo
  | mega
  | giga
  | tera
  | peta
  | kibi
  | mebi
  | gibi
  | tebi
  | pebi
  deriving DecidableEq, Repr

namespace Unit

/-- All units, each with the letters that stand for it. -/
def names : List (String × Unit) :=
  [("", .one), ("m", .milli), ("k", .kilo), ("M", .mega), ("G", .giga), ("T", .tera), ("P", .peta),
   ("Ki", .kibi), ("Mi", .mebi), ("Gi", .gibi), ("Ti", .tebi), ("Pi", .pebi)]

def ofText? (text : String) : Option Unit := names.lookup text

/-- How often a unit holds one; `m` is not a multiple of one. -/
def multiple? : Unit → Option Nat
  | .one => some 1
  | .milli => none
  | .kilo => some (1000)
  | .mega => some (1000 * 1000)
  | .giga => some (1000 * 1000 * 1000)
  | .tera => some (1000 * 1000 * 1000 * 1000)
  | .peta => some (1000 * 1000 * 1000 * 1000 * 1000)
  | .kibi => some (1024)
  | .mebi => some (1024 * 1024)
  | .gibi => some (1024 * 1024 * 1024)
  | .tebi => some (1024 * 1024 * 1024 * 1024)
  | .pebi => some (1024 * 1024 * 1024 * 1024 * 1024)

/-- The factor of a unit as a binary number. -/
def scale (u : Unit) : Binary64 :=
  match u.multiple? with
  | some n => Binary64.ofInt n
  | none => Decimal.toBinary64 false ⟨1, -3⟩

end Unit

/-- Splits a text before the longest run of ASCII letters at its end. -/
def splitChars (cs : List Char) : List Char × List Char :=
  let (letters, rest) := cs.reverse.span Char.isAlpha
  (rest.reverse, letters.reverse)

/-- The mantissa and the unit of a quantity. -/
def split (quantity : String) : String × String :=
  let (mantissa, unit) := splitChars quantity.toList
  (String.ofList mantissa, String.ofList unit)

/-- Whether characters are a mantissa of at most one fractional digit and a known unit. -/
def isWellFormedChars (cs : List Char) : Bool :=
  let (digits, rest) := cs.span Char.isDigit
  let unit := match rest with
    | '.' :: c :: rest' => if c.isDigit then rest' else rest
    | rest => rest
  !digits.isEmpty && (Unit.ofText? (String.ofList unit)).isSome

/-- Whether a text is a well-formed quantity. -/
def isWellFormed (quantity : String) : Bool := isWellFormedChars quantity.toList

/-- The value itself if it is a well-formed quantity; it is neither normalised nor scaled. -/
def validate (v : Value) : Except Failure Value :=
  match v with
  | .string s => if isWellFormed s then .ok v else .error (.quantityFormat s)
  | v => .error (.quantityType "string" v.kindName)

/-- The count that a text stands for. The second part says whether the unit allows one: thousandths
do not. -/
def ofText (quantity : String) : Except Failure (Int64 × Bool) :=
  let (mantissa, unit) := split quantity
  match Binary64.ofText? mantissa with
  | none => .error (.quantityFormat quantity)
  | some x =>
    match Unit.ofText? unit with
    | none => .error (.unknownUnit unit quantity)
    | some .milli => .ok (0, false)
    | some u => .ok ((u.scale.mul x).toInt64, true)

/-- The count that a value stands for: a number without its fraction, or the count of a text. -/
def toInt64 : Value → Except Failure (Int64 × Bool)
  | .number x => .ok (x.toInt64, true)
  | .int i => .ok (i, true)
  | .string s => ofText s
  | v => .error (.quantityType "string or number" v.kindName)

end ChartRender.Quantity
