import ChartRender.Proofs.Binary64.Rounding
/-!
# Integers among binary numbers

Every number without a fraction comes back from the integer that it is, but for the sign of zero
(`ofInt_truncate`), and two numbers are equal exactly if they are the same but for that sign
(`beq_iff_dropZeroSign`). The other way round, every integer up to `2 ^ 53` is a number
(`truncate_ofInt`); from there on several of them share their nearest number, and no others do
(`le_natAbs_of_ofInt_eq`).

Key definitions: `Binary64.dropZeroSign`.
Key theorems: `ofInt_truncate`, `dropZeroSign_ofInt`, `beq_iff_dropZeroSign`, `truncate_ofInt`,
`le_natAbs_of_ofInt_eq`, `beq_ofInt64_toInt64_iff`.
-/

namespace ChartRender
namespace Binary64

/-- The number, with positive zero for negative zero. -/
def dropZeroSign : Binary64 → Binary64
  | .nan => .nan
  | .signed s r => .signed (s && r.val != 0) r

@[simp] theorem dropZeroSign_dropZeroSign (x : Binary64) :
    x.dropZeroSign.dropZeroSign = x.dropZeroSign := by
  cases x with
  | nan => rfl
  | signed s r => simp [dropZeroSign]

@[simp] theorem isFinite_dropZeroSign (x : Binary64) : x.dropZeroSign.isFinite = x.isFinite := by
  cases x <;> rfl

@[simp] theorem isIntegral_dropZeroSign (x : Binary64) :
    x.dropZeroSign.isIntegral = x.isIntegral := by
  cases x <;> rfl

theorem wholePart_zero : wholePart 0 = 0 := by
  rw [wholePart, quanta_zero, Nat.zero_div]

@[simp] theorem truncate_dropZeroSign (x : Binary64) : x.dropZeroSign.truncate = x.truncate := by
  cases x with
  | nan => rfl
  | signed s r =>
    by_cases hr : r.val = 0
    · simp [dropZeroSign, truncate, hr, wholePart_zero]
    · rw [dropZeroSign, bne_iff_ne.mpr hr, Bool.and_true]

@[simp] theorem toInt64_dropZeroSign (x : Binary64) : x.dropZeroSign.toInt64 = x.toInt64 := by
  rw [toInt64, toInt64, truncate_dropZeroSign]

/-- **Numbers are equal exactly if they are the same but for the sign of zero**, and are numbers. -/
theorem beq_iff {x y : Binary64} :
    (x == y) = true ↔ x ≠ .nan ∧ x.dropZeroSign = y.dropZeroSign := by
  change eq x y = true ↔ _
  cases x with
  | nan => simp [eq]
  | signed s r =>
    cases y with
    | nan => simp [eq, dropZeroSign]
    | signed s' r' =>
      simp only [eq, dropZeroSign, Bool.and_eq_true, beq_iff_eq, Bool.or_eq_true, signed.injEq,
        ne_eq, reduceCtorEq, not_false_eq_true, true_and]
      constructor
      · rintro ⟨rfl, hs⟩
        refine ⟨?_, rfl⟩
        rcases hs with rfl | hr
        · rfl
        · simp [hr]
      · rintro ⟨hs, rfl⟩
        refine ⟨rfl, ?_⟩
        by_cases hr : r.val = 0
        · exact Or.inr hr
        · rw [bne_iff_ne.mpr hr, Bool.and_true, Bool.and_true] at hs
          exact Or.inl hs

theorem beq_iff_dropZeroSign {x y : Binary64} (hx : x.isFinite = true) :
    (x == y) = true ↔ x.dropZeroSign = y.dropZeroSign := by
  have hn : x ≠ .nan := by
    rintro rfl
    cases hx
  rw [beq_iff, and_iff_right hn]

theorem ne_nan_of_dropZeroSign_eq {x y : Binary64} (h : x.dropZeroSign = y.dropZeroSign)
    (hx : x ≠ .nan) : y ≠ .nan := by
  rintro rfl
  cases x with
  | nan => exact hx rfl
  | signed s r => cases h

theorem beq_symm {x y : Binary64} (h : (x == y) = true) : (y == x) = true := by
  obtain ⟨hx, he⟩ := beq_iff.mp h
  exact beq_iff.mpr ⟨ne_nan_of_dropZeroSign_eq he hx, he.symm⟩

theorem beq_trans {x y z : Binary64} (h : (x == y) = true) (h' : (y == z) = true) :
    (x == z) = true := by
  obtain ⟨hx, he⟩ := beq_iff.mp h
  exact beq_iff.mpr ⟨hx, he.trans (beq_iff.mp h').2⟩

theorem isIntegral_of_beq {x y : Binary64} (h : (x == y) = true) :
    x.isIntegral = y.isIntegral := by
  rw [← isIntegral_dropZeroSign, (beq_iff.mp h).2, isIntegral_dropZeroSign]

theorem toInt64_of_beq {x y : Binary64} (h : (x == y) = true) : x.toInt64 = y.toInt64 := by
  rw [← toInt64_dropZeroSign, (beq_iff.mp h).2, toInt64_dropZeroSign]

theorem truncate_of_beq {x y : Binary64} (h : (x == y) = true) : x.truncate = y.truncate := by
  rw [← truncate_dropZeroSign, (beq_iff.mp h).2, truncate_dropZeroSign]

/-! ### From integers and back -/

theorem nearestRank_natCast_ne_zero {n : Nat} (hn : n ≠ 0) :
    (nearestRank (n * unit) 1).val ≠ 0 := by
  have hq : quanta (nearestRank (1 * unit) 1) = 1 * unit :=
    quanta_nearestRank_mul_unit (by decide)
  have hle : nearestRank (1 * unit) 1 ≤ nearestRank (n * unit) 1 :=
    nearestRank_mono 1 (Nat.mul_le_mul_right _ (Nat.pos_of_ne_zero hn))
  intro h0
  have h1 : (nearestRank (1 * unit) 1).val = 0 := Nat.le_zero.mp (h0 ▸ Fin.le_def.mp hle)
  rw [h1, quanta_zero, Nat.one_mul] at hq
  exact unit_pos.ne hq

@[simp] theorem ofInt_ne_nan (i : Int) : ofInt i ≠ .nan := by
  rw [ofInt]
  exact nofun

/-- No integer becomes negative zero. -/
@[simp] theorem dropZeroSign_ofInt (i : Int) : (ofInt i).dropZeroSign = ofInt i := by
  rw [ofInt, dropZeroSign]
  by_cases hi : i < 0
  · have := nearestRank_natCast_ne_zero (n := i.natAbs) (by omega)
    simp [hi, this]
  · simp [hi]

/-- Integers of 64 bits are far below the largest number. -/
theorem isFinite_ofInt {i : Int} (hlt : i.natAbs < 2 ^ 64) : (ofInt i).isFinite = true := by
  rw [ofInt, isFinite, decide_eq_true_eq]
  apply nearestRank_lt_topRank
  rw [Nat.div_one]
  by_cases hz : i.natAbs = 0
  · simp [hz]
  · have hpos : 0 < i.natAbs / 1 := by omega
    have := log2_mul_two_pow_div 1074 hpos
    have := (Nat.log2_lt hz).mpr hlt
    rw [Nat.div_one, Nat.div_one] at *
    rw [unit_eq]
    omega

theorem isFinite_ofInt64 (i : Int64) : (ofInt64 i).isFinite = true := by
  have := i.le_toInt
  have := i.toInt_lt
  exact isFinite_ofInt (by omega)

theorem natAbs_truncate (negative : Bool) (rank : Fin (topRank + 1)) :
    (truncate (.signed negative rank)).natAbs = wholePart rank := by
  cases negative <;> simp [truncate]

/-- **A number without a fraction is the nearest to the integer that it is.** -/
theorem ofInt_truncate {x : Binary64} (h : x.isIntegral = true) :
    ofInt x.truncate = x.dropZeroSign := by
  cases x with
  | nan => cases h
  | signed s r =>
    rw [isIntegral, Bool.and_eq_true, beq_iff_eq] at h
    have hw : wholePart r * unit = quanta r := Nat.div_mul_cancel (Nat.dvd_of_mod_eq_zero h.2)
    have hz : wholePart r = 0 ↔ r.val = 0 := by
      constructor
      · intro h0
        rw [h0, Nat.zero_mul, ← quanta_zero] at hw
        exact (quanta_strictMono.injective hw).symm
      · intro h0
        rw [h0, wholePart_zero]
    have hs : decide (truncate (.signed s r) < 0) = (s && r.val != 0) := by
      cases s
      · simp [truncate]
      · by_cases hr : r.val = 0
        · rw [truncate, if_pos rfl, hz.mpr hr, show (r.val != 0) = false by rw [hr]; rfl]
          rfl
        · have := Nat.pos_of_ne_zero (mt hz.mp hr)
          rw [bne_iff_ne.mpr hr, truncate, if_pos rfl]
          simpa using this
    rw [ofInt, natAbs_truncate, hw, nearestRank_quanta, hs, dropZeroSign]

/-! ### Integers that are numbers -/

/-- Naturals up to `2 ^ 53` are magnitudes. -/
theorem wholePart_nearestRank {n : Nat} (hn : n ≤ 2 * binade) :
    wholePart (nearestRank (n * unit) 1) = n := by
  have hq : quanta (nearestRank (n * unit) 1) = n * unit := by
    rcases Nat.lt_or_ge n (2 * binade) with hlt | hge
    · exact quanta_nearestRank_mul_unit hlt
    · have hb := binade_pos
      have hdouble (k : Nat) : 2 * binade * 2 ^ k = binade * 2 ^ (k + 1) := by ring
      rw [le_antisymm hn hge, unit_eq, hdouble]
      exact quanta_nearestRank_scaled (by omega) (by norm_num)
  rw [wholePart, hq, Nat.mul_div_cancel _ unit_pos]

/-- **Integers up to `2 ^ 53` are numbers**, whatever their sign. -/
theorem truncate_ofInt {i : Int} (h : i.natAbs ≤ 2 * binade) : (ofInt i).truncate = i := by
  have hw := wholePart_nearestRank h
  rw [ofInt, truncate, hw]
  by_cases hi : i < 0
  · rw [if_pos (decide_eq_true hi)]
    omega
  · rw [decide_eq_false hi, if_neg Bool.false_ne_true]
    omega

/-- No integer from `2 ^ 53` on is rounded to below it. -/
theorem le_natAbs_truncate_ofInt {i : Int} (h : 2 * binade ≤ i.natAbs) :
    2 * binade ≤ (ofInt i).truncate.natAbs := by
  have hle : nearestRank (2 * binade * unit) 1 ≤ nearestRank (i.natAbs * unit) 1 :=
    nearestRank_mono 1 (Nat.mul_le_mul_right _ h)
  have hw := wholePart_mono (Fin.le_def.mp hle)
  rw [wholePart_nearestRank le_rfl] at hw
  rwa [ofInt, natAbs_truncate]

/-- **Only integers from `2 ^ 53` on share their nearest number** with another. -/
theorem le_natAbs_of_ofInt_eq {i j : Int} (hij : i ≠ j) (h : ofInt i = ofInt j) :
    2 * binade ≤ i.natAbs := by
  by_contra hlt
  have hi : (ofInt i).truncate = i := truncate_ofInt (by omega)
  rcases Nat.lt_or_ge j.natAbs (2 * binade) with hj | hj
  · have hj : (ofInt j).truncate = j := truncate_ofInt hj.le
    exact hij (by rw [← hi, h, hj])
  · have := le_natAbs_truncate_ofInt hj
    rw [← h, hi] at this
    exact hlt this

/-! ### 64-bit integers -/

/-- Integers that one number is equal to are the same or far from zero. -/
theorem le_natAbs_of_beq_ofInt64 {x : Binary64} {i j : Int64} (hij : i ≠ j)
    (hi : (x == ofInt64 i) = true) (hj : (x == ofInt64 j) = true) : 2 ^ 53 ≤ i.toInt.natAbs := by
  have he : ofInt i.toInt = ofInt j.toInt := by
    have := (beq_iff.mp (beq_trans (beq_symm hi) hj)).2
    rwa [ofInt64, ofInt64, dropZeroSign_ofInt, dropZeroSign_ofInt] at this
  exact le_natAbs_of_ofInt_eq (fun h => hij (Int64.toInt_inj.mp h)) he

theorem toInt64?_eq_some {x : Binary64} {i : Int64} (h : x.toInt64? = some i) :
    x.isIntegral = true ∧ i.toInt = x.truncate := by
  unfold toInt64? at h
  split_ifs at h with hc
  rw [Bool.and_eq_true, Width.isSigned, decide_eq_true_eq] at hc
  obtain rfl := Option.some.inj h
  exact ⟨hc.1, Int64.toInt_ofInt_of_le hc.2.1 hc.2.2⟩

/-- **The cast to 64 bits cuts off** what lies beyond the least and the greatest integer. -/
theorem toInt_toInt64 (x : Binary64) :
    x.toInt64.toInt = max (-2 ^ 63) (min x.truncate (2 ^ 63 - 1)) := by
  unfold toInt64 Int64.ofIntClamp
  have hmin : Int64.minValue.toInt = -2 ^ 63 := Int64.toInt_minValue
  have hmax : Int64.maxValue.toInt = 2 ^ 63 - 1 := Int64.toInt_maxValue
  split_ifs with hl hr
  · rw [Int64.toInt_ofIntLE]
    omega
  · omega
  · omega

theorem toInt_toInt64_of_mem {x : Binary64} (hl : -2 ^ 63 ≤ x.truncate)
    (hr : x.truncate < 2 ^ 63) : x.toInt64.toInt = x.truncate := by
  rw [toInt_toInt64]
  omega

theorem toInt64_of_lt {x : Binary64} (h : x.truncate < -2 ^ 63) :
    x.toInt64 = Int64.minValue := by
  rw [← Int64.toInt_inj, toInt_toInt64, Int64.toInt_minValue]
  omega

theorem toInt64_of_le {x : Binary64} (h : 2 ^ 63 ≤ x.truncate) :
    x.toInt64 = Int64.maxValue := by
  rw [← Int64.toInt_inj, toInt_toInt64, Int64.toInt_maxValue]
  omega

/-- **A number without a fraction survives the cast to 64 bits exactly if it is in their range**, or
is the next integer above, to which the greatest of them is rounded. -/
theorem beq_ofInt64_toInt64_iff {x : Binary64} (h : x.isIntegral = true) :
    (x == ofInt64 x.toInt64) = true ↔ -2 ^ 63 ≤ x.truncate ∧ x.truncate ≤ 2 ^ 63 := by
  have hmin : (ofInt64 Int64.minValue).truncate = -2 ^ 63 := by decide +kernel
  have hmax : (ofInt64 Int64.maxValue).truncate = 2 ^ 63 := by decide +kernel
  have hround : ofInt64 Int64.maxValue = ofInt (2 ^ 63) := by decide +kernel
  have hne : x ≠ .nan := by
    rintro rfl
    cases h
  have hself : (x == ofInt x.truncate) = true := by
    rw [beq_iff, dropZeroSign_ofInt, ofInt_truncate h]
    exact ⟨hne, rfl⟩
  rcases lt_or_ge x.truncate (-2 ^ 63) with hl | hl
  · rw [toInt64_of_lt hl]
    refine iff_of_false (fun he => ?_) (by omega)
    rw [truncate_of_beq he, hmin] at hl
    omega
  rcases lt_or_ge x.truncate (2 ^ 63) with hr | hr
  · rw [ofInt64, toInt_toInt64_of_mem hl hr]
    exact iff_of_true hself ⟨hl, hr.le⟩
  · rw [toInt64_of_le hr]
    constructor
    · intro he
      rw [truncate_of_beq he, hmax]
      decide
    · intro hle
      rw [hround, ← le_antisymm hle.2 hr]
      exact hself

/-- What is no 64-bit integer has no sign of zero to lose. -/
theorem dropZeroSign_of_toInt64?_none {x : Binary64} (h : x.toInt64? = none) :
    x.dropZeroSign = x := by
  cases x with
  | nan => rfl
  | signed s r =>
    have hr : r.val ≠ 0 := by
      intro hr
      have hi : isIntegral (.signed s r) = true := by
        rw [isIntegral, hr, quanta_zero, Nat.zero_mod]
        decide
      have ht : truncate (.signed s r) = 0 := by
        rw [truncate, hr, wholePart_zero]
        cases s <;> rfl
      rw [toInt64?, hi, ht, if_pos (by decide)] at h
      cases h
    rw [dropZeroSign, bne_iff_ne.mpr hr, Bool.and_true]

end Binary64
end ChartRender
