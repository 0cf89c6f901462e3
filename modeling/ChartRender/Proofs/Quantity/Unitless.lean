import ChartRender.Proofs.Json.Numeral
import ChartRender.Proofs.Quantity.Conversion
/-!
# Quantities without a unit

A count may stand in configuration data as a number or as a string. A number is read with the document
and cast. A string is split before the letters at its end, read as a number, and multiplied by its unit
before the cast. What ends with a digit has no letters at its end, though there may be one in front of
an exponent, and its unit is one, which changes no number. So both count the same
(`Quantity.toInt64_number_eq_string`).

Key theorems: `Quantity.Unit.scale_one_mul`, `Quantity.toInt64_of_digit_at_end`,
`Quantity.toInt64_number_eq_string`.
-/

namespace ChartRender
namespace Quantity

open Binary64

/-- **The unit of one changes no number**, be it finite or not. -/
theorem Unit.scale_one_mul (x : Binary64) : Unit.one.scale.mul x = x := by
  obtain ⟨s, hs, h0, htop, hone⟩ := Unit.exists_scale (u := .one) rfl
  rw [hs]
  cases x with
  | nan => rfl
  | signed negative r =>
    by_cases hr : r.val = topRank
    · have hr0 : r.val ≠ 0 := by
        rw [hr]
        decide
      have hinfinite : infiniteRank = r := Fin.ext hr.symm
      rw [mul, if_pos (Or.inr hr), if_neg (by tauto), Bool.false_bne, hinfinite]
    · have hrank : nearestRank (quanta s * quanta r) unit = r := by
        rw [hone, Nat.one_mul, Nat.mul_comm, nearestRank_mul_unit, nearestRank_quanta]
      rw [mul, if_neg (by omega), Bool.false_bne, hrank]

section
variable {text : String} (h : ∀ c, text.toList.getLast? = some c → c.isDigit = true)
include h

/-- Nothing is split off behind a digit. -/
theorem split_of_digit_at_end : split text = (text, "") := by
  have hend := fun c hc => Decimal.not_isAlpha_of_isDigit (h c hc)
  have hsplit : splitChars (text.toList ++ []) = (text.toList, []) := splitChars_append hend (by simp)
  rw [List.append_nil] at hsplit
  simp [split, hsplit]

/-- **What ends with a digit counts the number that it is**, without its fraction. -/
theorem toInt64_of_digit_at_end {x : Binary64} (hx : Binary64.ofText? text = some x) :
    toInt64 (.string text) = .ok (x.toInt64, true) := by
  have hmantissa : Binary64.ofText? (split text).1 = some x := by rw [split_of_digit_at_end h, hx]
  have hnone : Unit.ofText? "" = some .one := by decide +kernel
  have hunit : Unit.ofText? (split text).2 = some .one := by rw [split_of_digit_at_end h, hnone]
  rw [toInt64, ofText_of_some hmantissa hunit, if_neg (by decide), Unit.scale_one_mul]

end

/-- **A quantity without a unit counts the same as a number and as a string.** Every finite JSON number
can be converted, whether it is decoded with the document or taken as text, and the results are the
same: whatever its sign, its fraction and its exponent, and also beyond the 64-bit integers. -/
theorem toInt64_number_eq_string {text : String} {n : Decimal.Numeral}
    (h : Json.IsNumeral n text.toList) (hn : n.toBinary64.isFinite = true) :
    ∃ x count, (Json.parse? text).map Json.toValue = some (.number x) ∧
      toInt64 (.number x) = .ok (count, true) ∧ toInt64 (.string text) = .ok (count, true) := by
  have hstring := toInt64_of_digit_at_end (fun c hc => h.isDigit_of_getLast? hc) h.ofText?
  exact ⟨n.toBinary64, n.toBinary64.toInt64, h.parse? hn, rfl, hstring⟩

/-- The letter in front of an exponent is no unit. -/
theorem toInt64_number_eq_string_exponent :
    toInt64 (.string "-1.5E+03") = .ok (-1500, true) ∧
    ∃ x, (Json.parse? "-1.5E+03").map Json.toValue = some (.number x) ∧
      toInt64 (.number x) = .ok (-1500, true) := by
  have hcount : toInt64 (.string "-1.5E+03") = .ok (-1500, true) := by decide +kernel
  have hexponent : Decimal.IsExponent 3 ['E', '+', '0', '3'] :=
    @Decimal.IsExponent.some 'E' ['+'] ['0', '3'] (by simp) (by simp) (by simp) (by simp)
  have hnumeral : Json.IsNumeral ⟨true, ['1'], ['5'], 3⟩ "-1.5E+03".toList :=
    { whole := Decimal.isWhole_toDigits 1
      fraction := by simp
      eq := ⟨_, hexponent, rfl⟩ }
  obtain ⟨x, count, hparse, hnumber, hstring⟩ :=
    toInt64_number_eq_string hnumeral (by decide +kernel)
  obtain rfl : count = -1500 := by
    rw [hcount] at hstring
    exact (Prod.mk.inj (Except.ok.inj hstring)).1.symm
  exact ⟨hcount, x, hparse, hnumber⟩

end Quantity
end ChartRender
