import ChartRender.Proofs.Binary64.Integer
/-!
# Integers that come back from their numbers

A 64-bit integer is rounded to the nearest number, and that is cast to a 64-bit integer again. Most
integers beyond `2 ^ 53` are no numbers, and come back as others. Those that a number was cast to come
back as they are (`isSettled_toInt64`): a cast drops the fraction, which leaves a number, and cuts off
at the least integer, which is a number, or at the greatest. That one is rounded up to `2 ^ 63`, and
is there again when that is cut off.

Key definitions: `Binary64.IsSettled`.
Key theorems: `isIntegral_ofInt64`, `truncate_ofInt_truncate`, `isSettled_toInt64`,
`isSettled_of_natAbs_le`.
-/

namespace ChartRender
namespace Binary64

/-! ### Fractions -/

/-- The quanta of the nearest number to a natural are a multiple of one. -/
theorem unit_dvd_quanta_nearestRank {n : Nat} (hn : n < 2 ^ 64) :
    unit ∣ quanta (nearestRank (n * unit) 1) := by
  rcases Nat.lt_or_ge n (2 * binade) with hsmall | hlarge
  · rw [quanta_nearestRank_mul_unit hsmall]
    exact Nat.dvd_mul_left unit n
  · -- all 53 digits are taken, and their last one stands for one or more
    rw [binade_eq] at hlarge
    have hlow : 53 ≤ n.log2 := (Nat.le_log2 (by omega)).mpr (by omega)
    have hhigh : n.log2 < 64 := (Nat.log2_lt (by omega)).mpr hn
    have hlog : (n / 1).log2 = 52 + (n.log2 - 52) := by
      rw [Nat.div_one]
      omega
    rw [unit_eq, quanta_nearestRank_of_log2 hlog (by omega), Nat.pow_add _ (n.log2 - 52)]
    generalize 1074 = k
    exact (Nat.dvd_mul_left (2 ^ k) _).mul_left _

/-- **The nearest number to an integer has no fraction.** -/
theorem isIntegral_ofInt {i : Int} (hi : i.natAbs < 2 ^ 64) : (ofInt i).isIntegral = true := by
  have hfinite := isFinite_ofInt hi
  have hdvd := unit_dvd_quanta_nearestRank hi
  rw [ofInt, isFinite] at hfinite
  rw [ofInt, isIntegral, hfinite, Bool.true_and, beq_iff_eq]
  exact Nat.mod_eq_zero_of_dvd hdvd

theorem isIntegral_ofInt64 (i : Int64) : (ofInt64 i).isIntegral = true := by
  have := i.le_toInt
  have := i.toInt_lt
  exact isIntegral_ofInt (by omega)

/-- Only magnitudes below `2 ^ 53` have a fraction. -/
theorem wholePart_lt_of_fraction {rank : Nat} (h : quanta rank % unit ≠ 0) :
    wholePart rank < 2 * binade := by
  have hshift : shift rank < 1074 := by
    by_contra hge
    obtain ⟨more, hmore⟩ := Nat.exists_eq_add_of_le (Nat.le_of_not_lt hge)
    refine h (Nat.mod_eq_zero_of_dvd ?_)
    rw [quanta, hmore, Nat.pow_eq, Nat.pow_add, unit_eq]
    generalize 1074 = k
    exact (Nat.dvd_mul_right (2 ^ k) _).mul_left _
  have hscale : 2 ^ shift rank ≤ unit := by
    rw [unit_eq]
    generalize 1074 = k at hshift ⊢
    exact Nat.pow_le_pow_right (by norm_num) hshift.le
  rw [wholePart, Nat.div_lt_iff_lt_mul unit_pos]
  calc quanta rank = mantissa rank * 2 ^ shift rank := rfl
    _ ≤ mantissa rank * unit := Nat.mul_le_mul_left _ hscale
    _ < 2 * binade * unit := Nat.mul_lt_mul_of_pos_right (mantissa_lt rank) unit_pos

/-- **What is left of a finite number without its fraction is a number.** -/
theorem truncate_ofInt_truncate {x : Binary64} (hx : x.isFinite = true) :
    (ofInt x.truncate).truncate = x.truncate := by
  by_cases hi : x.isIntegral = true
  · rw [ofInt_truncate hi, truncate_dropZeroSign]
  · cases x with
    | nan => cases hx
    | signed s r =>
      have hfraction : quanta r % unit ≠ 0 := by
        intro hz
        rw [isFinite] at hx
        simp [isIntegral, hx, hz] at hi
      refine truncate_ofInt ?_
      rw [natAbs_truncate]
      exact (wholePart_lt_of_fraction hfraction).le

/-! ### Casts -/

/-- An integer that its nearest number is cast to. -/
def IsSettled (i : Int64) : Prop := (ofInt64 i).toInt64 = i

instance (i : Int64) : Decidable (IsSettled i) := inferInstanceAs (Decidable (_ = _))

theorem isSettled_of_truncate {i : Int64} (h : (ofInt64 i).truncate = i.toInt) :
    IsSettled i := by
  have hl := i.le_toInt
  have hr := i.toInt_lt
  rw [IsSettled, ← Int64.toInt_inj, toInt_toInt64_of_mem (h ▸ hl) (h ▸ hr), h]

/-- Infinity is beyond all 64-bit integers. -/
theorem isFinite_of_natAbs_truncate_le {x : Binary64} (hn : x ≠ .nan)
    (h : x.truncate.natAbs ≤ 2 ^ 63) : x.isFinite = true := by
  cases x with
  | nan => exact absurd rfl hn
  | signed s r =>
    rw [natAbs_truncate] at h
    by_contra htop
    have hr : topRank ≤ r.val := by
      rw [isFinite, decide_eq_true_eq] at htop
      omega
    have hlarge : 2 ^ 63 < wholePart topRank := by decide +kernel
    have := wholePart_mono hr
    omega

/-- **What a number is cast to is cast to itself**, also where the cast cuts off. -/
theorem isSettled_toInt64 (x : Binary64) : IsSettled x.toInt64 := by
  by_cases hn : x = .nan
  · rw [hn]
    decide +kernel
  rcases lt_or_ge x.truncate (-2 ^ 63) with hl | hl
  · rw [toInt64_of_lt hl]
    decide +kernel
  rcases lt_or_ge x.truncate (2 ^ 63) with hr | hr
  · have hfinite : x.isFinite = true := isFinite_of_natAbs_truncate_le hn (by omega)
    have hself : x.toInt64.toInt = x.truncate := toInt_toInt64_of_mem hl hr
    refine isSettled_of_truncate ?_
    rw [ofInt64, hself, truncate_ofInt_truncate hfinite]
  · rw [toInt64_of_le hr]
    decide +kernel

/-- Integers up to `2 ^ 53` are numbers themselves. -/
theorem isSettled_of_natAbs_le {i : Int64} (h : i.toInt.natAbs ≤ 2 ^ 53) : IsSettled i :=
  isSettled_of_truncate (truncate_ofInt h)

-- The next integer is no number and is rounded to one below it.
example : ¬ IsSettled (2 ^ 53 + 1) := by decide +kernel

end Binary64
end ChartRender
