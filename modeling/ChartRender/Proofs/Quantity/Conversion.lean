import ChartRender.Proofs.Binary64.Integer
import ChartRender.Proofs.Quantity.Reading
/-!
# Converting quantities

A well-formed quantity counts the product of its unit with its mantissa (`Quantity.product`), both of
which are rounded to binary numbers, and so is the product. The product of a quantity grows with the
mantissa, up to infinity for one of some hundred digits, and the cast to 64 bits cuts it off at the
greatest integer. So a quantity that is too large counts as that, none wraps around, and none is
negative (`Quantity.toInt64_saturates`).

Key definitions: `Quantity.product`.
Key theorems: `Quantity.toInt64_of_spells`, `Quantity.truncate_product_mono`,
`Quantity.le_truncate_product`, `Quantity.toInt64_saturates`.
-/

namespace ChartRender
namespace Quantity

open Binary64

/-! ### Units -/

theorem Unit.multiple_cases {u : Unit} {S : Nat} (h : u.multiple? = some S) :
    0 < S ∧ S < 2 ^ 53 ∧ ((∃ j, S = 2 ^ j) ∨ 1000 ∣ S ∧ 5 * 2 ^ S.log2 < 4 * S) := by
  cases u
  case milli => cases h
  all_goals obtain rfl := Option.some.inj h
  case one => exact ⟨by decide, by decide, Or.inl ⟨0, rfl⟩⟩
  case kibi => exact ⟨by decide, by decide, Or.inl ⟨10, rfl⟩⟩
  case mebi => exact ⟨by decide, by decide, Or.inl ⟨20, rfl⟩⟩
  case gibi => exact ⟨by decide, by decide, Or.inl ⟨30, rfl⟩⟩
  case tebi => exact ⟨by decide, by decide, Or.inl ⟨40, rfl⟩⟩
  case pebi => exact ⟨by decide, by decide, Or.inl ⟨50, rfl⟩⟩
  all_goals exact ⟨by decide, by decide, Or.inr ⟨by decide, by decide⟩⟩

theorem Unit.exists_multiple {u : Unit} (h : u ≠ .milli) : ∃ S, u.multiple? = some S := by
  cases u
  case milli => exact absurd rfl h
  all_goals exact ⟨_, rfl⟩

/-- The units but `m` hold whole numbers of ones, which are binary numbers. -/
theorem Unit.exists_scale {u : Unit} {S : Nat} (hS : u.multiple? = some S) :
    ∃ s : Fin (topRank + 1), u.scale = .signed false s ∧ s.val ≠ 0 ∧ s.val < topRank ∧
      quanta s = S * unit := by
  obtain ⟨hS0, hS53, -⟩ := Unit.multiple_cases hS
  refine ⟨nearestRank (S * unit) 1, by simp [Unit.scale, hS, Binary64.ofInt],
    nearestRank_natCast_ne_zero hS0.ne', nearestRank_lt_topRank ?_,
    quanta_nearestRank_mul_unit (by rwa [binade_eq])⟩
  have hlog := log2_mul_two_pow_div (a := S) (d := 1) 1074 (by simpa using hS0)
  rw [unit_eq, hlog, Nat.div_one]
  have := (Nat.log2_lt hS0.ne').mpr hS53
  omega

/-- A quantity ends in `m` exactly if that is its unit. -/
theorem Spells.getLast?_eq_m_iff {cs whole fraction letters : List Char} {u : Unit}
    (h : Spells cs whole fraction letters u) : cs.getLast? = some 'm' ↔ u = .milli := by
  have hnames : ∀ p ∈ Unit.names, p.1.toList.getLast? = some 'm' ↔ p.2 = .milli := by decide
  have hletters : letters.getLast? = some 'm' ↔ u = .milli := by
    simpa using hnames _ (Unit.mem_names h.unit)
  rw [h.eq, List.getLast?_append]
  cases hl : letters.getLast? with
  | some c => rwa [hl] at hletters
  | none =>
    rw [Option.none_or]
    refine iff_of_false (fun hm => ?_) (fun hu => ?_)
    · exact absurd (h.digit_at_end hm) (by decide)
    · rw [hletters.mpr hu] at hl
      cases hl

/-! ### Products -/

/-- The product of a unit with a mantissa of `t` tenths, as it is computed. -/
def product (u : Unit) (t : Nat) : Binary64 := u.scale.mul (.signed false (nearestRank (t * unit) 10))

/-- A mantissa with at most one fractional digit is rounded once. -/
theorem rank_tenths (d : Nat) {k : Nat} (hk : k ≤ 1) :
    Decimal.rank ⟨d, -k⟩ = nearestRank (10 ^ (1 - k) * d * unit) 10 := by
  unfold Decimal.rank
  by_cases hd : d = 0
  · rw [if_pos hd, hd, Nat.mul_zero, Nat.zero_mul]
    decide
  · rw [if_neg hd, if_neg (by simp), if_neg (by simp; omega), Decimal.exactRank]
    generalize unit = one
    obtain rfl | rfl : k = 0 ∨ k = 1 := by omega
    · rw [← nearestRank_mul _ _ (show 0 < 10 by norm_num)]
      congr 1
      simp
      ring
    · congr 1
      simp

/-- **A well-formed quantity counts the product** of its unit and its mantissa, cast to 64 bits. -/
theorem toInt64_of_spells {quantity : String} {whole fraction letters : List Char} {u : Unit}
    (h : Spells quantity.toList whole fraction letters u) : toInt64 (.string quantity) =
      .ok (if u = .milli then (0, false) else ((product u (tenths quantity)).toInt64, true)) := by
  rw [toInt64, ofText_of_spells h, product, tenths_of_spells h, ← rank_tenths _ h.fraction_length]
  rfl

section
variable {u : Unit} {S t t' : Nat} (hS : u.multiple? = some S)
include hS

theorem truncate_product_nonneg (t : Nat) : 0 ≤ (product u t).truncate := by
  obtain ⟨s, hs, h0, htop, -⟩ := Unit.exists_scale hS
  rw [product, hs, mul_positive h0 htop, truncate_nonnegative]
  exact Int.natCast_nonneg _

/-- **A greater mantissa makes a greater product**, or the same. -/
theorem truncate_product_mono (h : t ≤ t') : (product u t).truncate ≤ (product u t').truncate := by
  obtain ⟨s, hs, h0, htop, -⟩ := Unit.exists_scale hS
  rw [product, product, hs]
  exact truncate_mul_mono h0 htop (nearestRank_mono 10 (Nat.mul_le_mul_right _ h))

/-- **What is too large for 64 bits has too large a product**: no rounding brings it back. -/
theorem le_truncate_product (h : 10 * 2 ^ 63 ≤ t * S) : 2 ^ 63 ≤ (product u t).truncate := by
  -- the least mantissa that is too large for the unit
  have hleast : 2 ^ 63 ≤ (product u ((10 * 2 ^ 63 + S - 1) / S)).truncate := by
    cases u
    case milli => cases hS
    all_goals
      obtain rfl := Option.some.inj hS
      decide +kernel
  refine hleast.trans (truncate_product_mono hS (Nat.le_of_lt_succ ?_))
  have hS0 : 0 < S := Nat.pos_of_ne_zero fun hz => by
    rw [hz, Nat.mul_zero] at h
    exact absurd h (by decide)
  rw [Nat.div_lt_iff_lt_mul hS0, Nat.succ_mul t]
  omega

end

/-! ### Counts -/

/-- **A well-formed quantity can be converted.** One of thousandths has no count. All others count the
product of unit and mantissa, cut off at the greatest integer of 64 bits: a quantity that is too large
counts as that integer, and no count is negative. -/
theorem toInt64_saturates {quantity : String} {w : Value}
    (hv : validate (.string quantity) = .ok w) :
    ∃ count ok, toInt64 (.string quantity) = .ok (count, ok) ∧
      ((count, ok) = (0, false) ↔ quantity.toList.getLast? = some 'm') ∧
      (quantity.toList.getLast? ≠ some 'm' →
        ok = true ∧ 0 ≤ count.toInt ∧ count.toInt ≤ 2 ^ 63 - 1) ∧
      ∀ u S, Unit.ofText? (split quantity).2 = some u → u.multiple? = some S →
        count.toInt = min (product u (tenths quantity)).truncate (2 ^ 63 - 1) ∧
        (10 * 2 ^ 63 ≤ tenths quantity * S → count = Int64.maxValue) := by
  obtain ⟨-, whole, fraction, letters, u, h⟩ := validate_eq_ok_iff.mp hv
  have hu : ∀ v, Unit.ofText? (split quantity).2 = some v → v = u := fun v hv => by
    rw [split_of_spells h, h.unit] at hv
    exact (Option.some.inj hv).symm
  simp only [toInt64_of_spells h, ne_eq, h.getLast?_eq_m_iff]
  by_cases hm : u = .milli
  · refine ⟨0, false, by rw [if_pos hm], by simp [hm], fun hne => absurd hm hne, ?_⟩
    rintro v S hv hS
    rw [hu v hv, hm] at hS
    cases hS
  · obtain ⟨S, hS⟩ := Unit.exists_multiple hm
    have h0 := truncate_product_nonneg hS (tenths quantity)
    have hcast := toInt_toInt64 (product u (tenths quantity))
    refine ⟨_, true, by rw [if_neg hm], by simp [hm], fun _ => ⟨rfl, by omega, by omega⟩, ?_⟩
    rintro v S' hv hS'
    obtain rfl := hu v hv
    refine ⟨by omega, fun hlarge => Int64.toInt_inj.mp ?_⟩
    have := le_truncate_product hS' hlarge
    rw [hcast, Int64.toInt_maxValue]
    omega

/-- A little more than `2 ^ 63` becomes the greatest integer. -/
theorem toInt64_saturates_peta :
    toInt64 (.string "9223.4P") = .ok (Int64.maxValue, true) := by
  have hv : validate (.string "9223.4P") = .ok (.string "9223.4P") := by decide +kernel
  have hu : Unit.ofText? (split "9223.4P").2 = some .peta := by decide +kernel
  obtain ⟨count, ok, h, -, hok, hcount⟩ := toInt64_saturates hv
  obtain ⟨rfl, -, -⟩ := hok (by decide +kernel)
  rw [h, (hcount .peta _ hu rfl).2 (by decide +kernel)]

end Quantity
end ChartRender
