import ChartRender.Proofs.Decimal.Value
import ChartRender.Proofs.Quantity.Conversion
import ChartRender.Proofs.Quantity.Grammar
/-!
# Greater quantities count no less

Between the digits of a quantity and its count there are three steps: the mantissa becomes the nearest
number, that is multiplied by the unit, and the product is cast to 64 bits. All of them lose something,
and the first may end at infinity, the last at the greatest integer. But each keeps the order of what
it is given, and so does the whole (`Quantity.toInt64_mono`).

Key definitions: `Quantity.mantissa`.
Key theorems: `Quantity.truncate_scale_mul_mono`, `Quantity.toInt64_mono`.
-/

namespace ChartRender

/-- **The cast to 64 bits keeps the order**, also where it cuts off. -/
theorem Binary64.toInt64_le {x y : Binary64} (h : x.truncate ≤ y.truncate) :
    x.toInt64 ≤ y.toInt64 := by
  rw [Int64.le_iff_toInt_le, toInt_toInt64, toInt_toInt64]
  omega

namespace Quantity

open Binary64
open Decimal (pointed textValue)
open scoped Computability

/-! ### Mantissas -/

/-- One or more digits, then perhaps a point and exactly one digit: a quantity without its unit. -/
def mantissa : Language Char := digit * digit∗ * (1 + {['.']} * digit)

theorem mem_mantissa {w : List Char} : w ∈ mantissa ↔
    ∃ whole fraction : List Char, whole ≠ [] ∧ (∀ c ∈ whole, c.isDigit = true) ∧
      fraction.length ≤ 1 ∧ (∀ c ∈ fraction, c.isDigit = true) ∧ whole ++ pointed fraction = w := by
  rw [mantissa, Language.mem_mul]
  constructor
  · rintro ⟨whole, hwhole, last, hlast, rfl⟩
    obtain ⟨hne, hdigits⟩ := mem_digits.mp hwhole
    obtain ⟨fraction, hlen, hfraction, rfl⟩ := mem_fraction.mp hlast
    exact ⟨whole, fraction, hne, hdigits, hlen, hfraction, rfl⟩
  · rintro ⟨whole, fraction, hne, hdigits, hlen, hfraction, rfl⟩
    exact ⟨whole, mem_digits.mpr ⟨hne, hdigits⟩, pointed fraction,
      mem_fraction.mpr ⟨fraction, hlen, hfraction, rfl⟩, rfl⟩

/-- The value of a mantissa is that of the decimal that it is read as. -/
theorem Spells.textValue_eq {cs whole fraction letters : List Char} {u : Unit}
    (h : Spells cs whole fraction letters u) : textValue (whole ++ pointed fraction) =
      Decimal.value ⟨Decimal.ofDigits (whole ++ fraction), -fraction.length⟩ := by
  rw [Decimal.textValue_append_pointed h.whole_digits, Decimal.positionalValue_eq]

/-! ### Products and counts -/

/-- **A greater mantissa makes no smaller product** with a unit, whether it is rounded up or down or
to infinity. -/
theorem truncate_scale_mul_mono {u : Unit} (hu : u ≠ .milli) {d d' : Decimal}
    (h : d.value ≤ d'.value) : (u.scale.mul (d.toBinary64 false)).truncate ≤
      (u.scale.mul (d'.toBinary64 false)).truncate := by
  obtain ⟨S, hS⟩ := Unit.exists_multiple hu
  obtain ⟨s, hs, h0, htop, -⟩ := Unit.exists_scale hS
  have hrank : d.rank ≤ d'.rank := by
    rw [Decimal.rank_eq_exactRank, Decimal.rank_eq_exactRank]
    exact Decimal.exactRank_mono h
  rw [hs, Decimal.toBinary64, Decimal.toBinary64]
  exact truncate_mul_mono h0 htop hrank

/-- **A mantissa with a unit behind it counts their product**, unless the unit is `m`. -/
theorem exists_count_of_mem_mantissa {x letters : String} {u : Unit}
    (hu : Unit.ofText? letters = some u) (hm : u ≠ .milli) (hx : x.toList ∈ mantissa) :
    ∃ d : Decimal, d.value = textValue x.toList ∧
      toInt64 (.string (x ++ letters)) = .ok ((u.scale.mul (d.toBinary64 false)).toInt64, true) := by
  obtain ⟨whole, fraction, hne, hwhole, hlen, hfraction, htext⟩ := mem_mantissa.mp hx
  have hspells : Spells (x ++ letters).toList whole fraction letters.toList u :=
    { eq := by rw [String.toList_append, htext]
      whole_ne_nil := hne
      whole_digits := hwhole
      fraction_digits := hfraction
      fraction_length := hlen
      unit := by rwa [String.ofList_toList] }
  refine ⟨⟨Decimal.ofDigits (whole ++ fraction), -fraction.length⟩, ?_, ?_⟩
  · rw [← htext, hspells.textValue_eq]
  · rw [toInt64, ofText_of_spells hspells, if_neg hm]

/-- **Of two mantissas the greater one counts no less**, with the same unit behind both. They may have
any number of digits: what is rounded to infinity, or cut off, counts as the greatest integer. -/
theorem toInt64_mono {letters : String} {u : Unit} (hu : Unit.ofText? letters = some u)
    (hm : u ≠ .milli) {x y : String} (hx : x.toList ∈ mantissa) (hy : y.toList ∈ mantissa)
    (h : textValue x.toList ≤ textValue y.toList) :
    ∃ i j, toInt64 (.string (x ++ letters)) = .ok (i, true) ∧
      toInt64 (.string (y ++ letters)) = .ok (j, true) ∧ i ≤ j := by
  obtain ⟨d, hd, hi⟩ := exists_count_of_mem_mantissa hu hm hx
  obtain ⟨d', hd', hj⟩ := exists_count_of_mem_mantissa hu hm hy
  have hvalue : d.value ≤ d'.value := (hd.le.trans h).trans hd'.ge
  have hproduct := truncate_scale_mul_mono hm hvalue
  exact ⟨_, _, hi, hj, Binary64.toInt64_le hproduct⟩

/-- A quantity that loses a whole one to rounding still counts no more than the next. -/
theorem toInt64_mono_kilo : toInt64 (.string "32.3k") = .ok (32299, true) ∧
    ∃ i j, toInt64 (.string ("32.3" ++ "k")) = .ok (i, true) ∧
      toInt64 (.string ("32.4" ++ "k")) = .ok (j, true) ∧ i ≤ j := by
  have hcount : toInt64 (.string "32.3k") = .ok (32299, true) := by decide +kernel
  have hu : Unit.ofText? "k" = some .kilo := by decide +kernel
  have hmem : ∀ c : Char, c.isDigit = true → ['3', '2', '.', c] ∈ mantissa := fun c hc =>
    mem_mantissa.mpr ⟨['3', '2'], [c], by simp, by simp, by simp, by simpa using hc, rfl⟩
  have hx : "32.3".toList ∈ mantissa := hmem '3' rfl
  have hy : "32.4".toList ∈ mantissa := hmem '4' rfl
  have hle : textValue "32.3".toList ≤ textValue "32.4".toList := by decide +kernel
  exact ⟨hcount, toInt64_mono hu (by decide) hx hy hle⟩

end Quantity
end ChartRender
