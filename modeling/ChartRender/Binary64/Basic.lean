/-!
# Binary floating-point numbers of 64 bits

The magnitudes of the format are ranked: rank 0 is zero, each next rank is the next larger
magnitude, and the last rank is infinity. A number is then a sign and a rank, or `nan`. Every finite
magnitude is a whole number of quanta, the quantum being the least positive number `2 ^ -1074`, so
that arithmetic is exact arithmetic on naturals followed by one rounding, `nearestRank`.

The widths of integers come first, as numbers are converted to integers of 64 bits and compared with
integers of other widths.

Key definitions: `Width.isSigned`, `Width.isUnsigned`, `Binary64`, `Binary64.quanta`, `Binary64.nearestRank`, `Binary64.isIntegral`,
`Binary64.toInt64`.
-/

namespace ChartRender

namespace Width

/-- How many integers there are of so many bits. -/
def count (bits : Nat) : Nat := Nat.pow 2 bits

/-- Whether an integer is one of so many bits, one of which is its sign. -/
def isSigned (bits : Nat) (i : Int) : Bool :=
  decide (-(count (bits - 1) : Int) ≤ i ∧ i < (count (bits - 1) : Int))

/-- Whether an integer is one of so many bits without a sign. -/
def isUnsigned (bits : Nat) (i : Int) : Bool := decide (0 ≤ i ∧ i < (count bits : Int))

/-- Whether an integer fits into so many bits, be it with a sign or without. -/
def fits (bits : Nat) (i : Int) : Bool := isSigned bits i || isUnsigned bits i

end Width

/-- The number of magnitudes from one power of two to the next, which is `2 ^ 52`. -/
def Binary64.binade : Nat := 0x10000000000000

/-- The greatest rank, that of infinity; every smaller rank is a finite magnitude. -/
def Binary64.topRank : Nat := 2047 * binade

/-- A number of the format: not a number, or a sign and the rank of its magnitude. -/
inductive Binary64 where
  | nan
  | signed (negative : Bool) (rank : Fin (Binary64.topRank + 1))
  deriving DecidableEq, Repr

namespace Binary64

/-! ### Ranks and the magnitudes they stand for -/

/-- The rank of zero. -/
def zeroRank : Fin (topRank + 1) := ⟨0, by decide⟩

/-- The rank of infinity. -/
def infiniteRank : Fin (topRank + 1) := ⟨topRank, by omega⟩

/-- The significant digits, in base two, of the magnitude of a rank. -/
def mantissa (rank : Nat) : Nat :=
  if rank < binade then rank else binade + rank % binade

/-- The power of two that scales the mantissa of a rank to quanta. -/
def shift (rank : Nat) : Nat := rank / binade - 1

/-- The magnitude of a rank, counted in quanta of `2 ^ -1074`. -/
def quanta (rank : Nat) : Nat := mantissa rank * Nat.pow 2 (shift rank)

/-- The number of quanta in one. -/
def unit : Nat := Nat.pow 2 1074

/-- Rounds a quotient to the nearest natural, a tie going to the even neighbour. -/
def roundHalfEven (num den : Nat) : Nat :=
  let q := num / den
  match compare (2 * (num % den)) den with
  | .lt => q
  | .gt => q + 1
  | .eq => if q % 2 = 0 then q else q + 1

/-- The rank nearest to `num / den` quanta. A tie goes to the even rank, and all that lies beyond
the largest finite magnitude by half a step or more is infinity. -/
def nearestRank (num den : Nat) : Fin (topRank + 1) :=
  let s := (num / den).log2 - 52
  ⟨min (s * binade + roundHalfEven num (den * Nat.pow 2 s)) topRank, by omega⟩

/-! ### Distinguished numbers -/

def zero : Binary64 := .signed false zeroRank

def infinity : Binary64 := .signed false infiniteRank

def negInfinity : Binary64 := .signed true infiniteRank

def isFinite : Binary64 → Bool
  | .nan => false
  | .signed _ r => r.val < topRank

def neg : Binary64 → Binary64
  | .nan => .nan
  | .signed s r => .signed (!s) r

/-! ### Conversions -/

/-- The number nearest to an integer. -/
def ofInt (i : Int) : Binary64 := .signed (i < 0) (nearestRank (i.natAbs * unit) 1)

/-- The number nearest to a 64-bit integer. -/
def ofInt64 (i : Int64) : Binary64 := ofInt i.toInt

/-- The magnitude without its fraction. Infinity counts as `2 ^ 1024`. -/
def wholePart (rank : Nat) : Nat := quanta rank / unit

/-- The integer that remains when the fraction is dropped. Infinity counts as `2 ^ 1024`. -/
def truncate : Binary64 → Int
  | .nan => 0
  | .signed s r => if s then -(wholePart r : Int) else wholePart r

/-- The number as a 64-bit integer: the fraction is dropped, what lies out of range becomes the
nearest bound, and not-a-number becomes zero. -/
def toInt64 (x : Binary64) : Int64 := Int64.ofIntClamp x.truncate

/-- Whether the number is finite and has no fractional part. -/
def isIntegral : Binary64 → Bool
  | .nan => false
  | .signed _ r => r.val < topRank && quanta r % unit == 0

/-- The integer that the number is, if it is one and lies in the range of 64-bit integers. -/
def toInt64? (x : Binary64) : Option Int64 :=
  if x.isIntegral && Width.isSigned 64 x.truncate then
    some (Int64.ofInt x.truncate)
  else none

/-! ### Comparison -/

/-- Numeric equality: not-a-number equals nothing, and the two zeros are equal. -/
def eq : Binary64 → Binary64 → Bool
  | .signed s r, .signed s' r' => r == r' && (s == s' || r.val == 0)
  | _, _ => false

instance : BEq Binary64 := ⟨eq⟩

/-! ### Arithmetic -/

/-- The value in quanta; meant for finite numbers. -/
def signedQuanta (negative : Bool) (rank : Nat) : Int :=
  if negative then -(quanta rank : Int) else quanta rank

/-- The sum, rounded once. A zero sum is negative only if both terms are negative zeros. -/
def add : Binary64 → Binary64 → Binary64
  | .signed s r, .signed s' r' =>
    if r.val = topRank then
      if r'.val = topRank ∧ s ≠ s' then .nan else .signed s r
    else if r'.val = topRank then .signed s' r'
    else
      let q := signedQuanta s r + signedQuanta s' r'
      .signed (if q = 0 then s && s' && r.val == 0 else q < 0) (nearestRank q.natAbs 1)
  | _, _ => .nan

/-- The difference, rounded once. -/
def sub (x y : Binary64) : Binary64 := x.add y.neg

/-- The product, rounded once. Zero times infinity is not a number. -/
def mul : Binary64 → Binary64 → Binary64
  | .signed s r, .signed s' r' =>
    if r.val = topRank ∨ r'.val = topRank then
      if r.val = 0 ∨ r'.val = 0 then .nan else .signed (s != s') infiniteRank
    else .signed (s != s') (nearestRank (quanta r * quanta r') unit)
  | _, _ => .nan

/-! ### Interchange bits -/

/-- The value of the sign's bit, which is `2 ^ 63`. -/
def signBit : Nat := 0x8000000000000000

/-- The 64 bits of the interchange format; all that is not a number shares one pattern. -/
def toBits : Binary64 → Nat
  | .nan => 0x7FF8000000000000
  | .signed s r => (if s then signBit else 0) + r.val

/-- The number with the given interchange bits. -/
def ofBits (bits : Nat) : Binary64 :=
  let r := bits % signBit
  if h : r ≤ topRank then .signed (bits / signBit % 2 == 1) ⟨r, by omega⟩ else .nan

end Binary64

end ChartRender
