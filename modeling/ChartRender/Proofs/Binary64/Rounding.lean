import ChartRender.Binary64.Basic
import Mathlib
/-!
# Ranks and rounding

Every rank splits into a scale and at most 53 digits, and the magnitude is those digits times the
power of two (`quanta_add`, `shift_add_mantissa`). So ranks are ordered as their magnitudes are,
rounding keeps the order of quotients (`nearestRank_mono`), and what is a magnitude already is not
changed by rounding (`nearestRank_quanta`).

Key theorems: `quanta_strictMono`, `quanta_nearestRank`, `nearestRank_mono`, `nearestRank_quanta`,
`quanta_nearestRank_scaled`.
-/

namespace ChartRender
namespace Binary64

/-! ### The nearest natural -/

/-- A quotient is rounded to its whole part or one above, whichever is not farther. -/
theorem roundHalfEven_cases (num den : Nat) :
    (roundHalfEven num den = num / den ∧ 2 * (num % den) ≤ den) ∨
      (roundHalfEven num den = num / den + 1 ∧ den ≤ 2 * (num % den)) := by
  unfold roundHalfEven
  dsimp only
  split
  · rename_i h
    exact Or.inl ⟨rfl, (Nat.compare_eq_lt.mp h).le⟩
  · rename_i h
    exact Or.inr ⟨rfl, (Nat.compare_eq_gt.mp h).le⟩
  · rename_i h
    have he := Nat.compare_eq_eq.mp h
    split_ifs
    · exact Or.inl ⟨rfl, he.le⟩
    · exact Or.inr ⟨rfl, he.ge⟩

theorem roundHalfEven_down {num den : Nat} (h : 2 * (num % den) < den) :
    roundHalfEven num den = num / den := by
  rcases roundHalfEven_cases num den with ⟨hr, -⟩ | ⟨-, hd⟩
  · exact hr
  · omega

theorem roundHalfEven_up {num den : Nat} (h : den < 2 * (num % den)) :
    roundHalfEven num den = num / den + 1 := by
  rcases roundHalfEven_cases num den with ⟨-, hd⟩ | ⟨hr, -⟩
  · omega
  · exact hr

/-- Rounding depends on the quotient alone. -/
theorem roundHalfEven_mul (num den : Nat) {k : Nat} (hk : 0 < k) :
    roundHalfEven (num * k) (den * k) = roundHalfEven num den := by
  unfold roundHalfEven
  rw [Nat.mul_div_mul_right _ _ hk, Nat.mul_mod_mul_right, ← Nat.mul_assoc]
  have : compare (2 * (num % den) * k) (den * k) = compare (2 * (num % den)) den := by
    simp only [compare, compareOfLessAndEq, Nat.mul_lt_mul_right hk, Nat.mul_right_cancel_iff hk]
  rw [this]

/-- A multiple with less than half of the step above it is rounded down to it. -/
theorem roundHalfEven_add {x den : Nat} (q : Nat) (h : 2 * x < den) :
    roundHalfEven (q * den + x) den = q := by
  have hm : (q * den + x) % den = x := by
    rw [Nat.mul_add_mod_self_right, Nat.mod_eq_of_lt (by omega)]
  rw [roundHalfEven_down (by rwa [hm]), Nat.add_comm, Nat.add_mul_div_right _ _ (by omega),
    Nat.div_eq_of_lt (by omega), Nat.zero_add]

/-- A multiple with more than half of the step above it is rounded up to the next. -/
theorem roundHalfEven_add_up {x den : Nat} (q : Nat) (h : den < 2 * x) (hx : x < den) :
    roundHalfEven (q * den + x) den = q + 1 := by
  have hm : (q * den + x) % den = x := by
    rw [Nat.mul_add_mod_self_right, Nat.mod_eq_of_lt hx]
  rw [roundHalfEven_up (by rwa [hm]), Nat.add_comm (q * den), Nat.add_mul_div_right _ _ (by omega),
    Nat.div_eq_of_lt hx, Nat.zero_add]

/-- What falls short of a multiple is rounded up to it, or down to the one before. -/
theorem roundHalfEven_of_add_eq {p y q den : Nat} (hp : p + y = (q + 1) * den) (hy : y < den)
    (hne : 2 * y ≠ den) : roundHalfEven p den = if den < 2 * y then q else q + 1 := by
  rw [Nat.succ_mul] at hp
  obtain rfl : p = q * den + (den - y) := by omega
  split_ifs with hfar
  · exact roundHalfEven_add q (by omega)
  · by_cases h0 : y = 0
    · rw [h0, Nat.sub_zero, ← Nat.succ_mul]
      exact roundHalfEven_add (x := 0) (q + 1) (by omega)
    · exact roundHalfEven_add_up q (by omega) (by omega)

theorem roundHalfEven_mul_self (q : Nat) {den : Nat} (hd : 0 < den) :
    roundHalfEven (q * den) den = q := roundHalfEven_add (x := 0) q hd

theorem roundHalfEven_mono {num num' : Nat} (den : Nat) (h : num ≤ num') :
    roundHalfEven num den ≤ roundHalfEven num' den := by
  have hq : num / den ≤ num' / den := Nat.div_le_div_right h
  by_cases he : num / den = num' / den
  · have hm : num % den ≤ num' % den := by
      have := Nat.div_add_mod num den
      have := Nat.div_add_mod num' den
      rw [he] at *
      omega
    rcases lt_trichotomy (2 * (num % den)) den with hl | hl | hl
    · rw [roundHalfEven_down hl, he]
      rcases roundHalfEven_cases num' den with ⟨hr, -⟩ | ⟨hr, -⟩ <;> omega
    · rcases hm.eq_or_lt with hm | hm
      · have hn : num = num' := by rw [← Nat.div_add_mod num den, ← Nat.div_add_mod num' den, he, hm]
        rw [hn]
      · rw [roundHalfEven_up (show den < 2 * (num' % den) by omega)]
        rcases roundHalfEven_cases num den with ⟨hr, -⟩ | ⟨hr, -⟩ <;> omega
    · rw [roundHalfEven_up hl, roundHalfEven_up (show den < 2 * (num' % den) by omega), he]
  · rcases roundHalfEven_cases num den with ⟨hr, -⟩ | ⟨hr, -⟩ <;>
      rcases roundHalfEven_cases num' den with ⟨hr', -⟩ | ⟨hr', -⟩ <;> omega

/-! ### Ranks as scaled digits -/

theorem binade_eq : binade = 2 ^ 52 := by decide

theorem binade_pos : 0 < binade := by decide

theorem unit_eq : unit = 2 ^ 1074 := by
  unfold unit
  generalize 1074 = n
  rfl

theorem unit_pos : 0 < unit := (Nat.two_pow_pos _).trans_eq unit_eq.symm

/-- The magnitude of a rank that is put together from a scale and digits. -/
theorem quanta_add {s m : Nat} (hm : m ≤ 2 * binade) (h : s = 0 ∨ binade ≤ m) :
    quanta (s * binade + m) = m * 2 ^ s := by
  have hb := binade_pos
  unfold quanta mantissa shift
  rw [Nat.pow_eq]
  by_cases hl : m < binade
  · obtain rfl : s = 0 := by omega
    rw [if_pos (by omega), Nat.zero_mul, Nat.zero_add, Nat.div_eq_of_lt hl]
  · rw [if_neg (by nlinarith)]
    rcases hm.eq_or_lt with rfl | hm
    · rw [← Nat.add_mul, Nat.mul_mod_left, Nat.mul_div_cancel _ hb,
        show s + 2 - 1 = s + 1 by omega, Nat.pow_succ]
      ring
    · obtain ⟨k, rfl⟩ := Nat.exists_eq_add_of_le (Nat.le_of_not_lt hl)
      have hk : k < binade := by omega
      rw [← Nat.add_assoc, ← Nat.succ_mul, Nat.add_comm (s.succ * binade),
        Nat.add_mul_mod_self_right, Nat.add_mul_div_right _ _ hb, Nat.mod_eq_of_lt hk,
        Nat.div_eq_of_lt hk, Nat.zero_add]
      rfl

theorem shift_add_mantissa (rank : Nat) : shift rank * binade + mantissa rank = rank := by
  have hb := binade_pos
  unfold shift mantissa
  split_ifs with h
  · rw [Nat.div_eq_of_lt h]
    omega
  · have hq : 1 ≤ rank / binade := (Nat.one_le_div_iff hb).mpr (by omega)
    have := Nat.div_add_mod' rank binade
    rw [Nat.sub_mul]
    have : 1 * binade ≤ rank / binade * binade := Nat.mul_le_mul_right _ hq
    omega

theorem mantissa_lt (rank : Nat) : mantissa rank < 2 * binade := by
  have := Nat.mod_lt rank binade_pos
  unfold mantissa
  split_ifs <;> omega

/-- The digits of a magnitude are all there, unless the scale is the least. -/
theorem shift_eq_zero_or (rank : Nat) : shift rank = 0 ∨ binade ≤ mantissa rank := by
  unfold shift mantissa
  split_ifs with h
  · rw [Nat.div_eq_of_lt h]
    exact Or.inl rfl
  · exact Or.inr (Nat.le_add_right _ _)

theorem quanta_lt_succ (rank : Nat) : quanta rank < quanta (rank + 1) := by
  obtain ⟨s, m, hm, hs, rfl⟩ : ∃ s m, m < 2 * binade ∧ (s = 0 ∨ binade ≤ m) ∧
      s * binade + m = rank :=
    ⟨_, _, mantissa_lt rank, shift_eq_zero_or rank, shift_add_mantissa rank⟩
  rw [Nat.add_assoc, quanta_add hm.le hs, quanta_add hm (by omega)]
  exact Nat.mul_lt_mul_of_pos_right (Nat.lt_succ_self m) (Nat.two_pow_pos s)

/-- A greater rank is a greater magnitude. -/
theorem quanta_strictMono : StrictMono quanta := strictMono_nat_of_lt_succ quanta_lt_succ

theorem quanta_zero : quanta 0 = 0 := by decide

/-! ### The nearest rank -/

/-- The scale at which a quotient is rounded. -/
def scaleOf (num den : Nat) : Nat := (num / den).log2 - 52

/-- The digits that a quotient is rounded to. -/
def digitsOf (num den : Nat) : Nat := roundHalfEven num (den * 2 ^ scaleOf num den)

theorem nearestRank_val (num den : Nat) : (nearestRank num den).val =
    min (scaleOf num den * binade + digitsOf num den) topRank := rfl

theorem div_lt_scaleOf (num den : Nat) : num / den / 2 ^ scaleOf num den < 2 * binade := by
  rw [Nat.div_lt_iff_lt_mul (Nat.two_pow_pos _), binade_eq, ← Nat.pow_succ', ← Nat.pow_add]
  refine Nat.lt_log2_self.trans_le (Nat.pow_le_pow_right (by norm_num) ?_)
  unfold scaleOf
  omega

theorem scaleOf_eq_zero_or (num den : Nat) :
    scaleOf num den = 0 ∨ binade ≤ num / den / 2 ^ scaleOf num den := by
  rcases Nat.eq_zero_or_pos (scaleOf num den) with h | h
  · exact Or.inl h
  · refine Or.inr ((Nat.le_div_iff_mul_le (Nat.two_pow_pos _)).mpr ?_)
    have hl : 52 + scaleOf num den = (num / den).log2 := by
      unfold scaleOf at h ⊢
      omega
    rw [binade_eq, ← Nat.pow_add, hl]
    refine Nat.log2_self_le fun hz => ?_
    rw [hz] at hl
    simp at hl

theorem digitsOf_le (num den : Nat) : digitsOf num den ≤ 2 * binade := by
  have := div_lt_scaleOf num den
  rw [Nat.div_div_eq_div_mul] at this
  unfold digitsOf
  rcases roundHalfEven_cases num (den * 2 ^ scaleOf num den) with ⟨h, -⟩ | ⟨h, -⟩ <;> omega

theorem scaleOf_eq_zero_or_digitsOf (num den : Nat) :
    scaleOf num den = 0 ∨ binade ≤ digitsOf num den := by
  rcases scaleOf_eq_zero_or num den with h | h
  · exact Or.inl h
  · rw [Nat.div_div_eq_div_mul] at h
    refine Or.inr ?_
    unfold digitsOf
    rcases roundHalfEven_cases num (den * 2 ^ scaleOf num den) with ⟨h, -⟩ | ⟨h, -⟩ <;> omega

/-- No quotient below the greatest binade is rounded to infinity. -/
theorem scale_add_digits_lt {num den : Nat} (h : (num / den).log2 < 2097) :
    scaleOf num den * binade + digitsOf num den < topRank := by
  have hs : scaleOf num den ≤ 2044 := by
    unfold scaleOf
    omega
  have hd := digitsOf_le num den
  have hb := binade_pos
  have : scaleOf num den * binade ≤ 2044 * binade := Nat.mul_le_mul_right _ hs
  unfold topRank
  omega

theorem nearestRank_lt_topRank {num den : Nat} (h : (num / den).log2 < 2097) :
    (nearestRank num den).val < topRank :=
  (Nat.min_le_left _ _).trans_lt (scale_add_digits_lt h)

/-- **The nearest magnitude** is that of the rounded digits, below the
greatest binade. -/
theorem quanta_nearestRank {num den : Nat} (h : (num / den).log2 < 2097) :
    quanta (nearestRank num den) = digitsOf num den * 2 ^ scaleOf num den := by
  rw [← quanta_add (digitsOf_le num den) (scaleOf_eq_zero_or_digitsOf num den), nearestRank_val,
    Nat.min_eq_left (scale_add_digits_lt h).le]

theorem log2_mul_two_pow_div {a d : Nat} (k : Nat) (h : 0 < a / d) :
    (a * 2 ^ k / d).log2 = (a / d).log2 + k := by
  have hd : 0 < d := Nat.pos_of_ne_zero fun hd => by simp [hd] at h
  have hle : 2 ^ (a / d).log2 * d ≤ a :=
    (Nat.le_div_iff_mul_le hd).mp (Nat.log2_self_le (by omega))
  have hlt : a < 2 ^ ((a / d).log2 + 1) * d :=
    (Nat.div_lt_iff_lt_mul hd).mp Nat.lt_log2_self
  have hp := Nat.two_pow_pos k
  have hpos : 0 < a * 2 ^ k / d := by
    refine Nat.div_pos (le_trans ?_ (Nat.le_mul_of_pos_right a hp)) hd
    exact (Nat.le_mul_of_pos_left d (Nat.two_pow_pos _)).trans hle
  rw [Nat.log2_eq_iff (by omega)]
  constructor
  · rw [Nat.le_div_iff_mul_le hd, Nat.pow_add, Nat.mul_right_comm]
    exact Nat.mul_le_mul_right _ hle
  · rw [Nat.div_lt_iff_lt_mul hd, Nat.add_right_comm, Nat.pow_add _ _ k, Nat.mul_right_comm]
    exact Nat.mul_lt_mul_of_pos_right hlt hp

/-- The nearest magnitude to a scaled quotient of which all digits are there. -/
theorem quanta_nearestRank_of_log2 {a d w k : Nat} (h : (a / d).log2 = 52 + w)
    (hk : w + k ≤ 2044) :
    quanta (nearestRank (a * 2 ^ k) d) = roundHalfEven a (d * 2 ^ w) * 2 ^ (w + k) := by
  have hpos : 0 < a / d := Nat.pos_of_ne_zero fun hz => by simp [hz] at h; omega
  have hl := log2_mul_two_pow_div k hpos
  have hs : scaleOf (a * 2 ^ k) d = w + k := by
    unfold scaleOf
    omega
  have hd : d * 2 ^ (w + k) = d * 2 ^ w * 2 ^ k := by
    rw [Nat.pow_add, Nat.mul_assoc]
  rw [quanta_nearestRank (by omega), digitsOf, hs, hd, roundHalfEven_mul _ _ (Nat.two_pow_pos k)]

theorem nearestRank_zero {den : Nat} (hd : 0 < den) : nearestRank 0 den = zeroRank := by
  apply Fin.ext
  have hr := roundHalfEven_mul_self 0 (Nat.mul_pos hd (Nat.two_pow_pos (scaleOf 0 den)))
  rw [Nat.zero_mul] at hr
  rw [nearestRank_val, digitsOf, hr, scaleOf, Nat.zero_div]
  rfl

/-- The nearest rank depends on the quotient alone. -/
theorem nearestRank_mul (num den : Nat) {k : Nat} (hk : 0 < k) :
    nearestRank (num * k) (den * k) = nearestRank num den := by
  have hs : scaleOf (num * k) (den * k) = scaleOf num den := by
    unfold scaleOf
    rw [Nat.mul_div_mul_right _ _ hk]
  apply Fin.ext
  rw [nearestRank_val, nearestRank_val, digitsOf, hs, Nat.mul_right_comm den,
    roundHalfEven_mul _ _ hk]
  rfl

theorem nearestRank_mul_unit (n : Nat) : nearestRank (n * unit) unit = nearestRank n 1 := by
  have := nearestRank_mul n 1 unit_pos
  rw [Nat.one_mul] at this
  exact this

/-- **Rounding keeps the order** of quotients. -/
theorem nearestRank_mono {num num' : Nat} (den : Nat) (h : num ≤ num') :
    nearestRank num den ≤ nearestRank num' den := by
  refine Fin.le_def.mpr (min_le_min_right _ ?_)
  change scaleOf num den * binade + digitsOf num den ≤
    scaleOf num' den * binade + digitsOf num' den
  have hs : scaleOf num den ≤ scaleOf num' den := by
    unfold scaleOf
    have : (num / den).log2 ≤ (num' / den).log2 := by
      rw [Nat.log2_eq_log_two, Nat.log2_eq_log_two]
      exact Nat.log_mono_right (Nat.div_le_div_right h)
    omega
  rcases hs.eq_or_lt with hs | hs
  · unfold digitsOf
    rw [hs]
    exact Nat.add_le_add_left (roundHalfEven_mono _ h) _
  · have hd := digitsOf_le num den
    have hd' := (scaleOf_eq_zero_or_digitsOf num' den).resolve_left (by omega)
    have : (scaleOf num den + 1) * binade ≤ scaleOf num' den * binade := Nat.mul_le_mul_right _ hs
    rw [Nat.succ_mul] at this
    omega

/-- **A magnitude is rounded to itself.** -/
theorem nearestRank_quanta (rank : Fin (topRank + 1)) : nearestRank (quanta rank) 1 = rank := by
  obtain ⟨r, hr⟩ := rank
  obtain ⟨s, m, hm, hs, rfl⟩ : ∃ s m, m < 2 * binade ∧ (s = 0 ∨ binade ≤ m) ∧
      s * binade + m = r := ⟨_, _, mantissa_lt r, shift_eq_zero_or r, shift_add_mantissa r⟩
  have hq : quanta (s * binade + m) = m * 2 ^ s := quanta_add hm.le hs
  have hscale : scaleOf (m * 2 ^ s) 1 = s := by
    unfold scaleOf
    rw [binade_eq] at hm hs
    rw [Nat.div_one]
    rcases hs with rfl | hs
    · by_cases hz : m = 0
      · simp [hz]
      · have := (Nat.log2_lt hz).mpr (show m < 2 ^ 53 by omega)
        simp
        omega
    · have : (m * 2 ^ s).log2 = 52 + s := by
        rw [Nat.log2_eq_iff (by positivity)]
        refine ⟨?_, ?_⟩
        · rw [Nat.pow_add]
          exact Nat.mul_le_mul_right _ hs
        · rw [show 52 + s + 1 = 53 + s by omega, Nat.pow_add]
          exact Nat.mul_lt_mul_of_pos_right (by omega) (Nat.two_pow_pos s)
      omega
  apply Fin.ext
  rw [nearestRank_val, digitsOf, hq, hscale, Nat.one_mul,
    roundHalfEven_mul_self _ (Nat.two_pow_pos s)]
  exact Nat.min_eq_left (by omega)

/-- Digits that are few enough make a magnitude at every scale up to the greatest. -/
theorem exists_quanta_eq : ∀ (s : Nat) {m : Nat}, m < 2 * binade →
    ∃ r, r < (s + 2) * binade ∧ quanta r = m * 2 ^ s
  | 0, m, hm => by
    refine ⟨m, by omega, ?_⟩
    have := quanta_add hm.le (Or.inl rfl : 0 = 0 ∨ binade ≤ m)
    rwa [Nat.zero_mul, Nat.zero_add] at this
  | s + 1, m, hm => by
    by_cases hb : binade ≤ m
    · exact ⟨(s + 1) * binade + m, by rw [Nat.add_mul (s + 1)]; omega,
        quanta_add hm.le (Or.inr hb)⟩
    · obtain ⟨r, hr, hq⟩ := exists_quanta_eq s (m := m * 2) (by omega)
      refine ⟨r, hr.trans_le (Nat.mul_le_mul_right _ (by omega)), ?_⟩
      rw [hq, Nat.pow_succ]
      ring

/-- A number of few digits is rounded to itself at every scale. -/
theorem quanta_nearestRank_scaled {m s : Nat} (hm : m < 2 * binade) (hs : s ≤ 2045) :
    quanta (nearestRank (m * 2 ^ s) 1) = m * 2 ^ s := by
  obtain ⟨r, hr, hq⟩ := exists_quanta_eq s hm
  have hb : (s + 2) * binade ≤ 2047 * binade := Nat.mul_le_mul_right _ (by omega)
  have := nearestRank_quanta ⟨r, by unfold topRank; omega⟩
  rw [← hq, this]

/-- A natural of few digits is a magnitude. -/
theorem quanta_nearestRank_mul_unit {n : Nat} (hn : n < 2 * binade) :
    quanta (nearestRank (n * unit) 1) = n * unit := by
  rw [unit_eq]
  exact quanta_nearestRank_scaled hn (by norm_num)

/-! ### Products -/

theorem truncate_nonnegative (r : Fin (topRank + 1)) : truncate (.signed false r) = wholePart r := rfl

theorem wholePart_mono {r r' : Nat} (h : r ≤ r') : wholePart r ≤ wholePart r' :=
  Nat.div_le_div_right (quanta_strictMono.monotone h)

section
variable {s r r' : Fin (topRank + 1)} (h0 : s.val ≠ 0) (htop : s.val < topRank)
include h0 htop

/-- A product with a positive finite number is one: infinity stays infinity. -/
theorem mul_positive (r : Fin (topRank + 1)) : mul (.signed false s) (.signed false r) =
    .signed false (if r.val = topRank then infiniteRank
      else nearestRank (quanta s * quanta r) unit) := by
  rw [mul]
  by_cases hr : r.val = topRank
  · have hr0 : r.val ≠ 0 := by
      rw [hr]
      decide
    rw [if_pos (Or.inr hr), if_neg (by omega), if_pos hr]
    rfl
  · rw [if_neg (by omega), if_neg hr]
    rfl

/-- **Products with a positive finite number keep the order.** -/
theorem truncate_mul_mono (h : r ≤ r') : (mul (.signed false s) (.signed false r)).truncate ≤
    (mul (.signed false s) (.signed false r')).truncate := by
  rw [mul_positive h0 htop, mul_positive h0 htop, truncate_nonnegative, truncate_nonnegative,
    Int.ofNat_le]
  refine wholePart_mono ?_
  have hle : r.val ≤ r'.val := h
  have hr' := r'.isLt
  split_ifs with ht ht'
  · exact le_rfl
  · omega
  · exact Nat.le_of_lt_succ (nearestRank (quanta s * quanta r) unit).isLt
  · exact Fin.le_def.mp
      (nearestRank_mono unit (Nat.mul_le_mul_left _ (quanta_strictMono.monotone hle)))

end

end Binary64
end ChartRender
