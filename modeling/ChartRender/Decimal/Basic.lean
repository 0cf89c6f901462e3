import ChartRender.Binary64.Basic
/-!
# Decimal numbers and numerals

`Decimal` is a magnitude `digits * 10 ^ exponent`. `Decimal.rank` is the binary magnitude nearest to
it. The digits are exact naturals of any size, so nothing is lost before that one rounding.

The text of a floating-point number has an optional sign, digits with an optional point (at least one
digit on one side of it) and an optional exponent, or is one of the words for infinity and
not-a-number in any case. Nothing may stand before or after, and the exponent may be of any size.

Key definitions: `Decimal`, `Decimal.rank`, `Decimal.toBinary64`, `Decimal.ofDigits`,
`Decimal.Numeral`, `Decimal.Numeral.ofChars?`, `Binary64.ofText?`.
-/

namespace ChartRender

/-- The magnitude `digits * 10 ^ exponent`. -/
structure Decimal where
  digits : Nat
  exponent : Int
  deriving DecidableEq, Repr

namespace Decimal

/-- The number written by a row of decimal digits. -/
def ofDigits (digits : List Char) : Nat := Nat.ofDigitChars 10 digits 0

/-- The rank of the binary magnitude nearest to the exact value. -/
def exactRank (d : Decimal) : Fin (Binary64.topRank + 1) :=
  Binary64.nearestRank (d.digits * Nat.pow 10 d.exponent.toNat * Binary64.unit)
    (Nat.pow 10 (-d.exponent).toNat)

/-- The rank of the binary magnitude nearest to a decimal. Exponents far outside the binary range
are decided without computing the power of ten: above 400 every magnitude but zero is infinite, and
where even the power of two above the digits, with 8 put for each 10, stays below `2 ^ -1080`, the
result is zero. -/
def rank (d : Decimal) : Fin (Binary64.topRank + 1) :=
  if d.digits = 0 then Binary64.zeroRank
  else if 400 < d.exponent then Binary64.infiniteRank
  else if d.exponent < 0 ∧ (d.digits.log2 : Int) + 1 + 3 * d.exponent < -1080 then Binary64.zeroRank
  else d.exactRank

/-- The binary number nearest to a decimal with a sign. -/
def toBinary64 (negative : Bool) (d : Decimal) : Binary64 := .signed negative d.rank

/-- The same magnitude with no zero at the end of the digits; `fuel` bounds the zeros dropped. -/
def dropZeros : Nat → Decimal → Decimal
  | 0, d => d
  | fuel + 1, d =>
    if d.digits ≠ 0 ∧ d.digits % 10 = 0 then dropZeros fuel ⟨d.digits / 10, d.exponent + 1⟩ else d

/-- The same magnitude written with as few digits as possible. -/
def normalize (d : Decimal) : Decimal := dropZeros d.digits.log2 d

end Decimal

/-! ### Numerals -/

/-- The parts of a numeral: its sign, the digits before and after the point, and the exponent. -/
structure Decimal.Numeral where
  negative : Bool
  whole : List Char
  fraction : List Char
  exponent : Int
  deriving DecidableEq, Repr

namespace Decimal.Numeral

/-- The magnitude of a numeral: the digits on both sides of the point, scaled. -/
def magnitude (n : Numeral) : Decimal :=
  ⟨ofDigits (n.whole ++ n.fraction), n.exponent - n.fraction.length⟩

def toBinary64 (n : Numeral) : Binary64 := n.magnitude.toBinary64 n.negative

/-- Splits the sign from the rest of a text. -/
def splitSign : List Char → Bool × List Char
  | '-' :: cs => (true, cs)
  | '+' :: cs => (false, cs)
  | cs => (false, cs)

/-- The exponent that a text writes: an optional sign and at least one digit. -/
def exponent? (cs : List Char) : Option Int :=
  let (negative, digits) := splitSign cs
  if digits.isEmpty || !digits.all Char.isDigit then none
  else
    let e : Int := ofDigits digits
    some (if negative then -e else e)

/-- The exponent at the end of a numeral, zero if there is nothing left. -/
def exponentPart? : List Char → Option Int
  | [] => some 0
  | c :: cs => if c = 'e' ∨ c = 'E' then exponent? cs else none

/-- The digits behind the point, if there is a point, and what follows. -/
def splitFraction : List Char → List Char × List Char
  | '.' :: cs => cs.span Char.isDigit
  | cs => ([], cs)

/-- Reads the text of a numeral. -/
def ofChars? (cs : List Char) : Option Numeral :=
  let (negative, cs) := splitSign cs
  let (whole, cs) := cs.span Char.isDigit
  let (fraction, cs) := splitFraction cs
  if whole.isEmpty && fraction.isEmpty then none
  else (exponentPart? cs).map fun e => ⟨negative, whole, fraction, e⟩

end Decimal.Numeral

namespace Binary64

/-- The magnitude that a word stands for, the case of its letters ignored. -/
def ofWord? (cs : List Char) : Option Binary64 :=
  let word := cs.map Char.toLower
  if word = ['i', 'n', 'f'] ∨ word = ['i', 'n', 'f', 'i', 'n', 'i', 't', 'y'] then some infinity
  else if word = ['n', 'a', 'n'] then some .nan
  else none

/-- Reads a floating-point number: a numeral or a word with an optional sign. -/
def ofChars? (cs : List Char) : Option Binary64 :=
  match Decimal.Numeral.ofChars? cs with
  | some n => some n.toBinary64
  | none =>
    let (negative, word) := Decimal.Numeral.splitSign cs
    (ofWord? word).map fun x => if negative then x.neg else x

/-- Reads a floating-point number from text. -/
def ofText? (s : String) : Option Binary64 := ofChars? s.toList

end Binary64

end ChartRender
