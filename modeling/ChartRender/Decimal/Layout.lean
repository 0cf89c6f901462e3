import ChartRender.Decimal.Basic
/-!
# The fewest digits, and their layout

For a binary magnitude, `Decimal.shortest` is the decimal with the fewest digits among those whose
nearest binary magnitude it is, and of these the one nearest to it. The search tries 1, 2, up to 17
digits; on each of these grids only the two neighbours of the magnitude can qualify. Every candidate
is tested by reading it back, and the exact decimal expansion stands in if none passes, so the
result reads back by construction.

The digits are set out as text positionally, with `.0` behind a whole number, or as a leading digit
with an exponent. A `Layout` says which exponents of the leading digit are written positionally and
whether a positive exponent shows its sign.

Key definitions: `Decimal.neighbours`, `Decimal.ofRank`, `Decimal.shortest`, `Layout`,
`Layout.magnitude`, `Layout.text`.
-/

namespace ChartRender

/-! ### The fewest digits that read back -/

namespace Decimal

/-- Which of two equally near decimals is preferred. -/
inductive Tie where
  | toEven
  | upward
  deriving DecidableEq, Repr

/-- The number of digits before the point of a magnitude, negative if zeros follow the point first:
the least `k` such that the magnitude is below `10 ^ k`, found among the three integers that the
binary logarithm leaves. -/
def pointPosition (rank : Nat) : Int :=
  let q := Binary64.quanta rank
  let below (k : Int) : Bool := q * Nat.pow 10 (-k).toNat < Binary64.unit * Nat.pow 10 k.toNat
  let k := ((q.log2 : Int) - 1074) * 30103 / 100000
  if below k then k else if below (k + 1) then k + 1 else k + 2

/-- The two multiples of `10 ^ grid` around a magnitude, the nearer one first. -/
def neighbours (tie : Tie) (rank : Nat) (grid : Int) : List Decimal :=
  let num := Binary64.quanta rank * Nat.pow 10 (-grid).toNat
  let den := Binary64.unit * Nat.pow 10 grid.toNat
  let c := num / den
  let upperFirst := match compare (2 * (num % den)) den with
    | .lt => false
    | .gt => true
    | .eq => match tie with
      | .toEven => c % 2 == 1
      | .upward => true
  if upperFirst then [⟨c + 1, grid⟩, ⟨c, grid⟩] else [⟨c, grid⟩, ⟨c + 1, grid⟩]

/-- The exact decimal expansion of a finite magnitude. -/
def ofRank (rank : Nat) : Decimal := ⟨Binary64.quanta rank * Nat.pow 5 1074, -1074⟩

/-- The shortest decimal that reads back to the magnitude of a rank. -/
def shortest (tie : Tie) (rank : Nat) : Decimal :=
  let k := pointPosition rank
  let found := (List.range 17).findSome? fun n : Nat =>
    (neighbours tie rank (k - (n + 1 : Nat))).find? fun d => d.rank.val == rank
  (found.getD (ofRank rank)).normalize

end Decimal

/-! ### Layouts -/

/-- The decisions of a number format. Exponents of the leading digit below `least` or above
`greatest` are written behind an `e`; a bound that is missing excludes nothing. -/
structure Layout where
  tie : Decimal.Tie
  least : Option Int
  greatest : Option Int
  plusSign : Bool
  deriving DecidableEq, Repr

namespace Layout

/-- Digits scaled by a power of ten, written without an exponent and always with a point. -/
def positional (digits : List Char) (exponent : Int) : List Char :=
  let point := digits.length + exponent
  if 0 ≤ exponent then digits ++ List.replicate exponent.toNat '0' ++ ['.', '0']
  else if 0 < point then digits.take point.toNat ++ '.' :: digits.drop point.toNat
  else '0' :: '.' :: (List.replicate (-point).toNat '0' ++ digits)

/-- Digits with the exponent of their leading digit. -/
def scientific (plusSign : Bool) (digits : List Char) (leading : Int) : List Char :=
  let sign := if leading < 0 then ['-'] else if plusSign then ['+'] else []
  let fraction := if digits.length ≤ 1 then [] else '.' :: digits.drop 1
  digits.take 1 ++ fraction ++ 'e' :: (sign ++ Nat.toDigits 10 leading.natAbs)

/-- Whether a number with this exponent of its leading digit is written positionally. -/
def isPositional (l : Layout) (leading : Int) : Bool :=
  l.least.all (· ≤ leading) && l.greatest.all (leading ≤ ·)

/-- The text of a decimal. -/
def decimal (l : Layout) (d : Decimal) : List Char :=
  let digits := Nat.toDigits 10 d.digits
  let leading := digits.length - 1 + d.exponent
  if l.isPositional leading then positional digits d.exponent
  else scientific l.plusSign digits leading

/-- The text of a finite binary magnitude: its shortest decimal, or `0.0`. -/
def magnitude (l : Layout) (rank : Nat) : List Char :=
  l.decimal (if rank = 0 then ⟨0, 0⟩ else Decimal.shortest l.tie rank)

/-- The text of a number, with words for what is not finite. -/
def text (l : Layout) : Binary64 → List Char
  | .nan => ['N', 'a', 'N']
  | .signed s r =>
    let digits := if r.val = Binary64.topRank then ['i', 'n', 'f'] else l.magnitude r
    if s then '-' :: digits else digits

end Layout

end ChartRender
