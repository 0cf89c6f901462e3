import ChartRender.Decimal.Layout
import ChartRender.Proofs.Binary64.Rounding
/-!
# Decimals that read back

The rank of a decimal is that of its exact value: the two ways in which `Decimal.rank` spares itself
a power of ten change no result (`rank_eq_exactRank`). So it grows with the value (`exactRank_mono`)
and depends on nothing else, as on how the value is split into digits and a power of ten, and dropping
zeros from the digits changes nothing. From this the decimal chosen for a magnitude is one that reads
back (`exactRank_shortest`).

Key definitions: `Decimal.value`.
Key theorems: `Decimal.rank_eq_exactRank`, `Decimal.exactRank_mono`, `Decimal.exactRank_congr`,
`Decimal.exactRank_shortest`.
-/

namespace ChartRender

namespace Binary64

section
variable {num den num' den' : Nat} (hd : 0 < den) (hd' : 0 < den')
include hd hd'

/-- A greater quotient has no smaller rank, however the two are written. -/
theorem nearestRank_le (h : num * den' ≤ num' * den) :
    nearestRank num den ≤ nearestRank num' den' := by
  rw [← nearestRank_mul num den hd', ← nearestRank_mul num' den' hd, Nat.mul_comm den']
  exact nearestRank_mono _ h

/-- The nearest rank depends on the quotient alone. -/
theorem nearestRank_congr (h : num * den' = num' * den) :
    nearestRank num den = nearestRank num' den' :=
  le_antisymm (nearestRank_le hd hd' h.le) (nearestRank_le hd' hd h.ge)

end

/-- What is as great as the first magnitude beyond the finite ones is rounded to infinity. -/
theorem nearestRank_eq_infinite {num k : Nat} (hk : 972 ≤ k) (h : binade * 2 ^ k * unit ≤ num) :
    nearestRank num 1 = infiniteRank := by
  have hq : quanta topRank ≤ binade * 2 ^ k * unit := by
    rw [show topRank = 2046 * binade + binade by rw [topRank]; omega,
      quanta_add (by omega) (Or.inr (Nat.le_refl _)), unit_eq, Nat.mul_assoc, ← Nat.pow_add]
    have hexponent : 2046 ≤ k + 1074 := by omega
    generalize 2046 = e at hexponent ⊢
    exact Nat.mul_le_mul_left _ (Nat.pow_le_pow_right (by norm_num) hexponent)
  have hle : nearestRank (quanta topRank) 1 ≤ nearestRank num 1 := nearestRank_mono 1 (hq.trans h)
  have htop : nearestRank (quanta topRank) 1 = infiniteRank := nearestRank_quanta infiniteRank
  rw [htop] at hle
  exact Fin.ext (Nat.le_antisymm (nearestRank num 1).is_le (Fin.le_def.mp hle))

/-- Less than half a quantum is rounded to zero. -/
theorem nearestRank_eq_zero {num den : Nat} (h : 2 * num < den) :
    nearestRank num den = zeroRank := by
  have hs : scaleOf num den = 0 := by
    rw [scaleOf, Nat.div_eq_of_lt (by omega)]
    rfl
  have hr : roundHalfEven (0 * den + num) den = 0 := roundHalfEven_add 0 h
  apply Fin.ext
  rw [nearestRank_val, digitsOf, hs, Nat.pow_zero, Nat.mul_one, Nat.zero_mul, Nat.zero_add]
  rw [Nat.zero_mul, Nat.zero_add] at hr
  rw [hr]
  rfl

end Binary64

namespace Decimal

open Binary64

theorem two_pow_le_ten_pow (k : Nat) : 2 ^ (3 * k) ≤ 10 ^ k := by
  rw [Nat.pow_mul]
  exact Nat.pow_le_pow_left (by norm_num) k

/-- Powers of ten above the four hundredth are beyond the binary range. -/
theorem exactRank_of_lt {d : Decimal} (hd : d.digits ≠ 0) (he : 400 < d.exponent) :
    d.exactRank = infiniteRank := by
  have hden : Nat.pow 10 (-d.exponent).toNat = 1 := by
    rw [Int.toNat_of_nonpos (by omega), Nat.pow_eq, Nat.pow_zero]
  rw [exactRank, hden, Nat.pow_eq]
  obtain ⟨k, hk⟩ : ∃ k, 3 * d.exponent.toNat = 52 + k := ⟨3 * d.exponent.toNat - 52, by omega⟩
  have hp : binade * 2 ^ k ≤ 10 ^ d.exponent.toNat := by
    have := two_pow_le_ten_pow d.exponent.toNat
    rwa [hk, Nat.pow_add, ← binade_eq] at this
  exact nearestRank_eq_infinite (show 972 ≤ k by omega)
    (Nat.mul_le_mul_right _ (hp.trans (Nat.le_mul_of_pos_left _ (Nat.pos_of_ne_zero hd))))

/-- Digits too few for their negative power of ten leave less than half a quantum. -/
theorem exactRank_of_log2_lt {d : Decimal} (he : d.exponent < 0)
    (hl : (d.digits.log2 : Int) + 1 + 3 * d.exponent < -1080) : d.exactRank = zeroRank := by
  obtain ⟨k, hk⟩ : ∃ k : Nat, d.exponent = -k := ⟨(-d.exponent).toNat, by omega⟩
  have hnum : Nat.pow 10 d.exponent.toNat = 1 := by
    rw [Int.toNat_of_nonpos he.le, Nat.pow_eq, Nat.pow_zero]
  rw [exactRank, hnum, Nat.mul_one, hk, Int.neg_neg, Int.toNat_natCast, Nat.pow_eq]
  refine nearestRank_eq_zero ?_
  have hd : 2 * d.digits < 2 ^ (d.digits.log2 + 2) := by
    have := Nat.lt_log2_self (n := d.digits)
    rw [Nat.pow_succ] at this ⊢
    omega
  calc 2 * (d.digits * unit) = 2 * d.digits * unit := (Nat.mul_assoc ..).symm
    _ < 2 ^ (d.digits.log2 + 2) * unit := Nat.mul_lt_mul_of_pos_right hd unit_pos
    _ ≤ 2 ^ (3 * k) := by
      rw [unit_eq, ← Nat.pow_add]
      exact Nat.pow_le_pow_right (by norm_num) (by omega)
    _ ≤ 10 ^ k := two_pow_le_ten_pow k

/-- **The rank of a decimal is that of its exact value.** -/
theorem rank_eq_exactRank (d : Decimal) : d.rank = d.exactRank := by
  unfold rank
  split_ifs with hd hlarge hsmall
  · rw [exactRank, hd, Nat.zero_mul, Nat.zero_mul, Nat.pow_eq,
      nearestRank_zero (Nat.pow_pos (by norm_num))]
  · exact (exactRank_of_lt hd hlarge).symm
  · exact (exactRank_of_log2_lt hsmall.1 hsmall.2).symm
  · rfl

/-- The exact value of a decimal. -/
def value (d : Decimal) : ℚ := d.digits * 10 ^ d.exponent

theorem value_nonneg (d : Decimal) : 0 ≤ d.value := by
  unfold value
  positivity

/-- The value as a quotient of naturals, the divisor a power of ten. -/
theorem value_eq_div (d : Decimal) :
    d.value = (d.digits * 10 ^ d.exponent.toNat : ℕ) / (10 ^ (-d.exponent).toNat : ℕ) := by
  have hten : (10 : ℚ) ≠ 0 := by norm_num
  have hsplit : d.exponent = (d.exponent.toNat : ℤ) - ((-d.exponent).toNat : ℤ) := by omega
  unfold value
  conv_lhs => rw [hsplit, zpow_sub₀ hten, zpow_natCast, zpow_natCast]
  push_cast
  rw [mul_div_assoc]

/-- **A greater value has no smaller rank.** -/
theorem exactRank_mono {d d' : Decimal} (h : d.value ≤ d'.value) : d.exactRank ≤ d'.exactRank := by
  have hpos (k : ℕ) : 0 < 10 ^ k := Nat.pow_pos (by norm_num)
  rw [value_eq_div, value_eq_div, div_le_div_iff₀ (by positivity) (by positivity)] at h
  have hcross : d.digits * 10 ^ d.exponent.toNat * 10 ^ (-d'.exponent).toNat ≤
      d'.digits * 10 ^ d'.exponent.toNat * 10 ^ (-d.exponent).toNat := by exact_mod_cast h
  refine nearestRank_le (hpos _) (hpos _) ?_
  calc d.digits * 10 ^ d.exponent.toNat * unit * 10 ^ (-d'.exponent).toNat
      = d.digits * 10 ^ d.exponent.toNat * 10 ^ (-d'.exponent).toNat * unit :=
        Nat.mul_right_comm _ _ _
    _ ≤ d'.digits * 10 ^ d'.exponent.toNat * 10 ^ (-d.exponent).toNat * unit :=
        Nat.mul_le_mul_right unit hcross
    _ = d'.digits * 10 ^ d'.exponent.toNat * unit * 10 ^ (-d.exponent).toNat :=
        Nat.mul_right_comm _ _ _

/-- **The rank depends on the value alone.** -/
theorem exactRank_congr {d d' : Decimal} (h : d.value = d'.value) : d.exactRank = d'.exactRank :=
  le_antisymm (exactRank_mono h.le) (exactRank_mono h.ge)

/-- It does not matter where the power of ten stands. -/
theorem exactRank_mul_pow (digits k : Nat) (exponent : Int) :
    exactRank ⟨digits * 10 ^ k, exponent⟩ = exactRank ⟨digits, exponent + k⟩ := by
  refine exactRank_congr ?_
  have hten : (10 : ℚ) ≠ 0 := by norm_num
  simp only [value]
  rw [zpow_add₀ hten, zpow_natCast]
  push_cast
  ring

/-- Zeros at the end of the digits do not matter. -/
theorem exactRank_dropZeros : ∀ (fuel : Nat) (d : Decimal),
    (dropZeros fuel d).exactRank = d.exactRank
  | 0, _ => rfl
  | fuel + 1, ⟨digits, exponent⟩ => by
    rw [dropZeros]
    split_ifs with h
    · rw [exactRank_dropZeros fuel]
      have hd : digits / 10 * 10 ^ 1 = digits := Nat.div_mul_cancel (Nat.dvd_of_mod_eq_zero h.2)
      have := exactRank_mul_pow (digits / 10) 1 exponent
      rw [hd] at this
      exact this.symm
    · rfl

/-- The exact expansion of a finite magnitude reads back. -/
theorem exactRank_ofRank (rank : Fin (topRank + 1)) : (ofRank rank).exactRank = rank := by
  refine (nearestRank_congr (Nat.pow_pos (by norm_num)) Nat.one_pos ?_).trans
    (nearestRank_quanta rank)
  unfold ofRank unit
  rw [show (-1074 : Int).toNat = 0 from rfl, show (- -1074 : Int).toNat = 1074 from rfl]
  generalize 1074 = n
  simp only [Nat.pow_eq]
  rw [show 10 = 5 * 2 from rfl, Nat.mul_pow 5 2 n]
  ring

/-- **The shortest decimal of a magnitude reads back.** -/
theorem exactRank_shortest (tie : Tie) (rank : Fin (topRank + 1)) :
    (shortest tie rank).exactRank = rank := by
  unfold shortest normalize
  rw [exactRank_dropZeros]
  generalize hf : List.findSome? _ _ = found
  cases found with
  | none => exact exactRank_ofRank rank
  | some d =>
    obtain ⟨n, -, hn⟩ := List.exists_of_findSome?_eq_some hf
    have hd : d.rank.val = rank.val := by simpa using List.find?_some hn
    rw [Option.getD_some, ← rank_eq_exactRank]
    exact Fin.ext hd

/-- A magnitude that is not zero has digits. -/
theorem digits_shortest_ne_zero (tie : Tie) {rank : Fin (topRank + 1)} (hr : rank.val ≠ 0) :
    (shortest tie rank).digits ≠ 0 := by
  intro hd
  have h := exactRank_shortest tie rank
  rw [← rank_eq_exactRank, Decimal.rank, if_pos hd] at h
  exact hr (congrArg Fin.val h.symm)

end Decimal
end ChartRender
