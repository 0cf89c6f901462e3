import ChartRender.Proofs.Binary64.Integer
import ChartRender.Proofs.Decimal.Spelling
/-!
# The values of numerals

Digits count for the places where they stand, before the point or behind it, and an exponent moves
them. So every numeral has a rational value, that of its decimal (`Decimal.positionalValue_eq`), and
this value alone decides which binary number is the nearest, however many digits there are. A numeral
of an integer value is read as the nearest number to that integer, but for the sign of zero
(`Decimal.Numeral.dropZeroSign_toBinary64`).

Key definitions: `Decimal.positionalValue`, `Decimal.textValue`, `Decimal.Numeral.value`.
Key theorems: `Decimal.positionalValue_eq`, `Decimal.Numeral.value_eq`,
`Decimal.Numeral.dropZeroSign_toBinary64`.
-/

namespace ChartRender
namespace Decimal

open Binary64

/-- The rank of an integer value is that of the integer. -/
theorem exactRank_of_value_eq {d : Decimal} {k : ℕ} (h : d.value = k) :
    d.exactRank = nearestRank (k * unit) 1 := by
  have hk : value ⟨k, 0⟩ = k := by simp [value]
  rw [exactRank_congr (h.trans hk.symm)]
  change nearestRank (k * 1 * unit) 1 = _
  rw [Nat.mul_one]

/-! ### Places -/

/-- The value of digits before and behind a point. -/
def positionalValue (whole fraction : List Char) : ℚ :=
  ofDigits whole + ofDigits fraction / 10 ^ fraction.length

/-- The value of digits with at most one point among them. -/
def textValue (cs : List Char) : ℚ :=
  positionalValue (cs.takeWhile (· ≠ '.')) ((cs.dropWhile (· ≠ '.')).drop 1)

/-- **Without their point the digits are a decimal**, scaled by their number behind it. -/
theorem positionalValue_eq (whole fraction : List Char) :
    positionalValue whole fraction = value ⟨ofDigits (whole ++ fraction), -fraction.length⟩ := by
  have hten : (10 : ℚ) ^ fraction.length ≠ 0 := by positivity
  have happend : ofDigits (whole ++ fraction) =
      10 ^ fraction.length * ofDigits whole + ofDigits fraction := by
    rw [ofDigits, Nat.ofDigitChars_append]
    exact Nat.ofDigitChars_eq_ofDigitChars_zero
  rw [positionalValue, value, happend, zpow_neg, zpow_natCast]
  push_cast
  field_simp

theorem textValue_append_pointed {whole fraction : List Char}
    (hwhole : ∀ c ∈ whole, c.isDigit = true) :
    textValue (whole ++ pointed fraction) = positionalValue whole fraction := by
  have hfront : ∀ c ∈ whole, decide (c ≠ '.') = true := by
    intro c hc
    refine decide_eq_true fun hpoint => ?_
    have hdigit := hwhole c hc
    rw [hpoint] at hdigit
    cases hdigit
  rw [textValue, List.takeWhile_append_of_pos hfront, List.dropWhile_append_of_pos hfront]
  cases fraction with
  | nil => simp [pointed]
  | cons c cs => simp [pointed]

end Decimal

/-! ### Numerals -/

namespace Decimal.Numeral

open Binary64

/-- The exact value of a numeral. -/
def value (n : Numeral) : ℚ :=
  (if n.negative then -1 else 1) * positionalValue n.whole n.fraction * 10 ^ n.exponent

theorem value_eq (n : Numeral) :
    n.value = (if n.negative then -1 else 1) * n.magnitude.value := by
  have hten : (10 : ℚ) ≠ 0 := by norm_num
  rw [value, positionalValue_eq, magnitude, Decimal.value, Decimal.value, mul_assoc, mul_assoc,
    ← zpow_add₀ hten, neg_add_eq_sub]

/-- The digits of an integer behind its sign have its value. -/
theorem value_int (z : ℤ) : value ⟨decide (z < 0), Nat.toDigits 10 z.natAbs, [], 0⟩ = z := by
  have hdigits : positionalValue (Nat.toDigits 10 z.natAbs) [] = z.natAbs := by
    rw [positionalValue, ofDigits_toDigits]
    simp [ofDigits]
  rw [value, hdigits, Nat.cast_natAbs, zpow_zero, mul_one, Int.cast_abs]
  by_cases hz : z < 0
  · rw [if_pos (decide_eq_true hz), abs_of_neg (by exact_mod_cast hz), neg_one_mul, neg_neg]
  · rw [if_neg (by simpa using hz), abs_of_nonneg (by exact_mod_cast not_lt.mp hz), one_mul]

/-- **A numeral of an integer value is read as the nearest number to it**, or as negative zero. -/
theorem dropZeroSign_toBinary64 {n : Numeral} {z : ℤ} (h : n.value = z) :
    n.toBinary64.dropZeroSign = ofInt z := by
  have hnonneg := n.magnitude.value_nonneg
  rw [value_eq] at h
  have habs : n.magnitude.value = z.natAbs := by
    rw [Nat.cast_natAbs, Int.cast_abs, ← h, abs_mul, abs_of_nonneg hnonneg]
    split_ifs <;> simp
  have hrank : n.magnitude.rank = nearestRank (z.natAbs * unit) 1 := by
    rw [rank_eq_exactRank, exactRank_of_value_eq habs]
  have hsign : (n.negative && (nearestRank (z.natAbs * unit) 1).val != 0) = decide (z < 0) := by
    by_cases hz : z = 0
    · rw [hz, Int.natAbs_zero, Nat.zero_mul, nearestRank_zero Nat.one_pos]
      simp [zeroRank]
    · have hne := nearestRank_natCast_ne_zero (Int.natAbs_ne_zero.mpr hz)
      rw [bne_iff_ne.mpr hne, Bool.and_true]
      cases hn : n.negative with
      | false =>
        rw [hn, if_neg Bool.false_ne_true, one_mul] at h
        have hz0 : 0 ≤ z := by exact_mod_cast h ▸ hnonneg
        exact (decide_eq_false (not_lt.mpr hz0)).symm
      | true =>
        rw [hn, if_pos rfl, neg_one_mul] at h
        have hz0 : z ≤ 0 := by
          have := neg_nonpos.mpr hnonneg
          exact_mod_cast h ▸ this
        exact (decide_eq_true (lt_of_le_of_ne hz0 hz)).symm
  rw [toBinary64, Decimal.toBinary64, hrank, dropZeroSign, hsign, ofInt]

end Decimal.Numeral
end ChartRender
