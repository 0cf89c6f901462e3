import ChartRender.Proofs.Decimal.Spelling
import ChartRender.Proofs.Values.Integers
/-!
# How numbers without a fraction are written

A number without a fraction that is a 64-bit integer enters a template as that integer, and is written
with its digits. Beyond these integers it enters as the number that it is. Then the fewest digits that
read back are written, with zeros behind them up to the point, so that it is written as an integer
too, one that is read as the same number, and with `.0` behind it
(`Template.Datum.output_ofValue_of_isIntegral`).

The point never stands among the digits, for a number of this size has more than 17 digits in front of
it (`Decimal.le_pointPosition`), and if no 17 of them read back, all that are not zero stand in front of
it as well (`Decimal.exponent_shortest_nonneg`).

Key theorems: `Decimal.toDigits_mul_pow`, `Decimal.exponent_shortest_nonneg`,
`Template.Datum.output_ofValue_of_isIntegral`, `Template.Datum.output_ofValue_hugeNumber`.
-/

namespace ChartRender
namespace Decimal

open Binary64

/-! ### Digits -/

/-- Zeros behind the digits of a number multiply it by a power of ten. -/
theorem toDigits_mul_pow {n : Nat} (hn : n ≠ 0) (k : Nat) :
    Nat.toDigits 10 (n * 10 ^ k) = Nat.toDigits 10 n ++ List.replicate k '0' := by
  induction k with
  | zero => simp
  | succ k ih =>
    have hpos : 0 < n * 10 ^ k := Nat.mul_pos (Nat.pos_of_ne_zero hn) (Nat.pow_pos (by norm_num))
    have happend : Nat.toDigits 10 (n * 10 ^ k) ++ Nat.toDigits 10 0 =
        Nat.toDigits 10 (10 * (n * 10 ^ k) + 0) :=
      Nat.toDigits_append_toDigits (by norm_num) hpos (by norm_num)
    rw [List.replicate_succ', ← List.append_assoc, ← ih, pow_succ, ← mul_assoc, mul_comm _ 10]
    exact happend.symm

/-! ### Zeros that are dropped -/

theorem exponent_le_dropZeros : ∀ (fuel : Nat) (d : Decimal),
    d.exponent ≤ (dropZeros fuel d).exponent
  | 0, _ => le_rfl
  | fuel + 1, d => by
    rw [dropZeros]
    split_ifs with h
    · have := exponent_le_dropZeros fuel ⟨d.digits / 10, d.exponent + 1⟩
      exact (Int.le_add_one le_rfl).trans this
    · exact le_rfl

/-- As many zeros are dropped as there are. -/
theorem exponent_dropZeros_mul_pow {m : Nat} (hm : m ≠ 0) (fuel : Nat) : ∀ (j : Nat) (e : Int),
    e + j ≤ (dropZeros (fuel + j) ⟨m * 10 ^ j, e⟩).exponent
  | 0, e => by
    have := exponent_le_dropZeros fuel ⟨m * 10 ^ 0, e⟩
    rwa [Int.natCast_zero, Int.add_zero]
  | j + 1, e => by
    have hne : m * 10 ^ (j + 1) ≠ 0 := Nat.mul_ne_zero hm (by positivity)
    have hmod : m * 10 ^ (j + 1) % 10 = 0 := by rw [pow_succ, ← mul_assoc, Nat.mul_mod_left]
    have hdiv : m * 10 ^ (j + 1) / 10 = m * 10 ^ j := by
      rw [pow_succ, ← mul_assoc, Nat.mul_div_cancel _ (by norm_num)]
    rw [← Nat.add_assoc, dropZeros, if_pos ⟨hne, hmod⟩, hdiv]
    have := exponent_dropZeros_mul_pow hm fuel j (e + 1)
    push_cast at this ⊢
    omega

theorem le_log2_mul_pow {m : Nat} (hm : m ≠ 0) (j : Nat) : j ≤ (m * 10 ^ j).log2 := by
  rw [Nat.le_log2 (Nat.mul_ne_zero hm (by positivity))]
  calc 2 ^ j ≤ 10 ^ j := Nat.pow_le_pow_left (by norm_num) j
    _ ≤ m * 10 ^ j := Nat.le_mul_of_pos_left _ (Nat.pos_of_ne_zero hm)

/-- Normal decimals have no zeros at the end that there is an exponent for. -/
theorem exponent_normalize_mul_pow {m : Nat} (hm : m ≠ 0) (j : Nat) (e : Int) :
    e + j ≤ (normalize ⟨m * 10 ^ j, e⟩).exponent := by
  obtain ⟨fuel, hfuel⟩ := Nat.exists_eq_add_of_le' (le_log2_mul_pow hm j)
  rw [normalize, hfuel]
  exact exponent_dropZeros_mul_pow hm fuel j e

/-! ### Where the point stands -/

/-- The exact expansion of a whole number of units has zeros for all digits behind the point. -/
theorem ofRank_of_quanta {rank w : Nat} (h : quanta rank = w * unit) :
    ofRank rank = ⟨w * 10 ^ 1074, -1074⟩ := by
  unfold unit at h
  rw [ofRank, h]
  generalize 1074 = n
  simp only [Nat.pow_eq]
  rw [Nat.mul_assoc, ← Nat.mul_pow]

theorem exponent_of_mem_neighbours {tie : Tie} {rank : Nat} {grid : Int} {d : Decimal}
    (h : d ∈ neighbours tie rank grid) : d.exponent = grid := by
  have hpair : ∀ c c' : Nat, d ∈ [(⟨c, grid⟩ : Decimal), ⟨c', grid⟩] → d.exponent = grid := by
    intro c c' hd
    rcases List.mem_pair.mp hd with rfl | rfl
    · rfl
    · rfl
  unfold neighbours at h
  dsimp only at h
  split_ifs at h
  · exact hpair _ _ h
  · exact hpair _ _ h

theorem add_le_log2 {j k q : Nat} (h : 2 ^ j * 2 ^ k ≤ q) : j + k ≤ q.log2 := by
  have hq : q ≠ 0 := Nat.ne_of_gt ((Nat.mul_pos (by positivity) (by positivity)).trans_le h)
  rw [Nat.le_log2 hq, Nat.pow_add]
  exact h

section
variable {rank : Nat} (h : 2 ^ 63 * unit ≤ quanta rank)
include h

/-- From `2 ^ 63` on there are at least 19 digits before the point. -/
theorem le_pointPosition : 19 ≤ pointPosition rank := by
  have hlog : 63 + 1074 ≤ (quanta rank).log2 := by
    refine add_le_log2 ?_
    rw [← unit_eq]
    exact h
  unfold pointPosition
  dsimp only
  have hk : 18 ≤ ((quanta rank).log2 - 1074 : Int) * 30103 / 100000 := by omega
  generalize ((quanta rank).log2 - 1074 : Int) * 30103 / 100000 = k at hk ⊢
  split_ifs with hbelow
  · -- the first guess is 18 at the least, and `10 ^ 18` is not enough
    refine lt_of_le_of_ne hk ?_
    rintro rfl
    rw [decide_eq_true_eq] at hbelow
    have hlt : quanta rank < 10 ^ 18 * unit := by
      rw [Nat.mul_comm]
      simpa using hbelow
    exact absurd (Nat.lt_of_mul_lt_mul_right (h.trans_lt hlt)) (by norm_num)
  · omega
  · omega

/-- **The shortest digits of a whole number from `2 ^ 63` on** stand in front of the point. -/
theorem exponent_shortest_nonneg (tie : Tie) (hdvd : unit ∣ quanta rank) :
    0 ≤ (shortest tie rank).exponent := by
  unfold shortest
  dsimp only
  generalize hf : List.findSome? _ _ = found
  cases found with
  | none =>
    obtain ⟨w, hw⟩ := hdvd
    have hne : w ≠ 0 := by
      rintro rfl
      rw [hw, Nat.mul_zero, Nat.le_zero] at h
      exact absurd h (Nat.mul_ne_zero (by norm_num) unit_pos.ne')
    have := exponent_normalize_mul_pow hne 1074 (-1074)
    rw [Option.getD_none, ofRank_of_quanta (hw.trans (Nat.mul_comm _ _))]
    exact this
  | some d =>
    obtain ⟨n, hn, hd⟩ := List.exists_of_findSome?_eq_some hf
    have he := exponent_of_mem_neighbours (List.mem_of_find?_eq_some hd)
    have hpoint := le_pointPosition h
    have hlt := List.mem_range.mp hn
    have hle := exponent_le_dropZeros d.digits.log2 d
    rw [Option.getD_some, normalize]
    omega

end

end Decimal

/-! ### Texts -/

namespace Template

open Binary64 Decimal

/-- A decimal with all its digits in front of the point is written as an integer, with `.0` behind
it. -/
theorem decimal_plainLayout {d : Decimal} {k : Nat} (hd : d.digits ≠ 0) (hk : d.exponent = k) :
    plainLayout.decimal d = Nat.toDigits 10 (d.digits * 10 ^ k) ++ ['.', '0'] := by
  have hpositional : plainLayout.decimal d =
      Layout.positional (Nat.toDigits 10 d.digits) d.exponent := rfl
  rw [hpositional, Layout.positional, hk, if_pos (Int.natCast_nonneg k), Int.toNat_natCast,
    toDigits_mul_pow hd]

/-- **A magnitude of a whole number from `2 ^ 63` on is written as a natural** whose nearest magnitude
it is, with `.0` behind it. -/
theorem exists_magnitude_plainLayout {r : Fin (topRank + 1)} (h : 2 ^ 63 * unit ≤ quanta r)
    (hdvd : unit ∣ quanta r) : ∃ n : Nat, n ≠ 0 ∧ nearestRank (n * unit) 1 = r ∧
      plainLayout.magnitude r = Nat.toDigits 10 n ++ ['.', '0'] := by
  have hr : r.val ≠ 0 := by
    intro hr
    rw [hr, quanta_zero, Nat.le_zero] at h
    exact absurd h (Nat.mul_ne_zero (by norm_num) unit_pos.ne')
  obtain ⟨k, hk⟩ := Int.eq_ofNat_of_zero_le (exponent_shortest_nonneg h .upward hdvd)
  have hd := digits_shortest_ne_zero .upward hr
  have hread := exactRank_shortest .upward r
  rw [exactRank, hk, Int.toNat_natCast, Int.toNat_neg_natCast, Nat.pow_eq, Nat.pow_eq,
    Nat.pow_zero] at hread
  refine ⟨_, Nat.mul_ne_zero hd (by positivity), hread, ?_⟩
  rw [Layout.magnitude, if_neg hr]
  exact decimal_plainLayout hd hk

/-- **A whole number from `2 ^ 63` on is written as an integer** that is read as this number, with `.0`
behind it. -/
theorem exists_text_plainLayout {x : Binary64} (h : x.isIntegral = true)
    (hx : 2 ^ 63 ≤ x.truncate.natAbs) :
    ∃ m : ℤ, ofInt m = x ∧ plainLayout.text x = (toString m).toList ++ ['.', '0'] := by
  cases x with
  | nan => cases h
  | signed s r =>
    rw [isIntegral, Bool.and_eq_true, decide_eq_true_eq, beq_iff_eq] at h
    rw [natAbs_truncate, wholePart, Nat.le_div_iff_mul_le unit_pos] at hx
    obtain ⟨n, hn, hread, htext⟩ := exists_magnitude_plainLayout hx (Nat.dvd_of_mod_eq_zero h.2)
    have hpos := Nat.pos_of_ne_zero hn
    refine ⟨if s then -n else n, ?_, ?_⟩
    · cases s with
      | false => simp [ofInt, hread]
      | true => simp [ofInt, hread, hpos]
    · rw [Layout.text, if_neg h.1.ne, htext, Numeral.toList_toString_int]
      cases s with
      | false => simp [withSign]
      | true => simp [withSign, hpos]

namespace Datum

/-- **Numbers without a fraction are written as integers**: those of 64 bits with their digits, and all
others as one whose nearest number they are, with `.0` behind it. No exponent is written. -/
theorem output_ofValue_of_isIntegral (markup : Bool) {x : Binary64} (h : x.isIntegral = true) :
    (-2 ^ 63 ≤ x.truncate ∧ x.truncate < 2 ^ 63 →
      (ofValue (.number x)).output markup = toString x.truncate) ∧
    (¬ (-2 ^ 63 ≤ x.truncate ∧ x.truncate < 2 ^ 63) →
      ∃ m : ℤ, ofInt m = x ∧ (ofValue (.number x)).output markup = toString m ++ ".0") := by
  constructor
  · rintro ⟨hl, hr⟩
    rw [ofValue, Values.ofNumber_of_isIntegral h hl hr]
    rfl
  · intro hx
    have hnone : x.toInt64? = none := by
      have hsigned : Width.isSigned 64 x.truncate = false := decide_eq_false hx
      rw [toInt64?, hsigned, Bool.and_false]
      rfl
    obtain ⟨m, hm, ht⟩ := exists_text_plainLayout h (by omega)
    refine ⟨m, hm, ?_⟩
    rw [ofValue, ofNumber, hnone]
    change String.ofList (plainLayout.text x) = _
    rw [ht, String.ofList_append, String.ofList_toList]

/-- Negative zero loses its sign, the least 64-bit integer is written in full, and the number nearest to
`10 ^ 23` is written as that, which it is not. -/
theorem output_ofValue_of_isIntegral_ends :
    (ofValue (.number (.signed true zeroRank))).output false = "0" ∧
    (ofValue (.number (ofInt (-2 ^ 63)))).output false = "-9223372036854775808" ∧
    (∃ m : ℤ, ofInt m = ofInt (10 ^ 23) ∧
      (ofValue (.number (ofInt (10 ^ 23)))).output false = toString m ++ ".0") ∧
    (ofInt (10 ^ 23)).truncate = 99999999999999991611392 ∧
    (ofValue (.number (ofInt (10 ^ 23)))).output false = "100000000000000000000000.0" := by
  have hzero : truncate (.signed true zeroRank) = 0 := by decide +kernel
  have hleast : (ofInt (-2 ^ 63)).truncate = -9223372036854775808 := by decide +kernel
  have hlarge : (ofInt (10 ^ 23)).truncate = 99999999999999991611392 := by decide +kernel
  refine ⟨?_, ?_, ?_, hlarge, by decide +kernel⟩
  · rw [(output_ofValue_of_isIntegral false (by decide +kernel)).1 (by omega), hzero]
    rfl
  · rw [(output_ofValue_of_isIntegral false (by decide +kernel)).1 (by omega), hleast]
    decide +kernel
  · exact (output_ofValue_of_isIntegral false (by decide +kernel)).2 (by omega)

/-- Not every number without a fraction is written without one: `10 ^ 20` has `.0` behind it. -/
theorem output_ofValue_hugeNumber :
    ¬ ∀ (markup : Bool) (x : Binary64), x.isIntegral = true →
      (ofValue (.number x)).output markup = toString x.truncate := by
  intro h
  have := h false (ofInt (10 ^ 20)) (by decide +kernel)
  exact absurd this (by decide +kernel)

end Datum
end Template
end ChartRender
