import ChartRender.Proofs.Quantity.Conversion
/-!
# How exact quantities are

A quantity of `t` tenths of a unit that holds `S` ones counts `n`, where `t * S = 10 * n`. Two
roundings lie between the text and the count: that of the mantissa to 53 binary digits, and that of
its product with the unit. What the first is off by is scaled by the unit, and the second mends it or
not. `Quantity.slip` says what is left after the fraction is dropped: nothing, one too few, or, from
`2 ^ 52` on, one too many.

Key definitions: `Quantity.lead`, `Quantity.slip`, `Quantity.IsExact`.
Key theorems: `Quantity.quanta_mantissa`, `Quantity.countOf_decimal`, `Quantity.isExact_two_pow`,
`Quantity.toInt64_exact_iff`.
-/

namespace ChartRender
namespace Quantity
open Binary64

/-- The binade of `t` tenths, counted from that of a sixteenth. -/
def lead (t : Nat) : Nat := (16 * t / 10).log2

/-- What the count of `t` tenths of a unit of `S` ones is off by. The last digit of
`t * 2 ^ (56 - lead t)` shows how the mantissa is rounded: four tenths of a step down at a 4, up at a
6. The product mends that if it lies in a binade above that of its factors together. -/
def slip (t S : Nat) : Int :=
  if (t * S / 10).log2 + 4 ≠ lead t + S.log2 then 0
  else if t * 2 ^ (56 - lead t) % 10 = 4 then -1
  else if t * 2 ^ (56 - lead t) % 10 = 6 ∧ 2 ^ 52 ≤ t * S / 10 then 1
  else 0

/-- When the count is exact: unless it lies in the binade of its factors together, and there the
mantissa is rounded down by four tenths of a step, or, from `2 ^ 52` on, up. -/
def IsExact (t S : Nat) : Prop :=
  (t * S / 10).log2 + 4 = lead t + S.log2 →
    t * 2 ^ (56 - lead t) % 10 ≠ 4 ∧ (t * 2 ^ (56 - lead t) % 10 = 6 → t * S / 10 < 2 ^ 52)

instance (t S : Nat) : Decidable (IsExact t S) := inferInstanceAs (Decidable (_ → _))

theorem slip_eq_zero_iff (t S : Nat) : slip t S = 0 ↔ IsExact t S := by
  unfold slip IsExact
  split_ifs <;> simp <;> omega

@[simp] theorem slip_zero (S : Nat) : slip 0 S = 0 := by simp [slip]

/-- No count is off by more than one, and none is negative. -/
theorem add_slip_mem {t S n : Nat} (hS : 0 < S) (h : t * S = 10 * n) :
    0 ≤ n + slip t S ∧ n + slip t S ≤ n + 1 := by
  rcases Nat.eq_zero_or_pos t with rfl | ht
  · simp
  · have hn : 0 < n := by
      have := Nat.mul_pos ht hS
      omega
    unfold slip
    split_ifs <;> omega

theorem le_lead {t : Nat} (ht : 0 < t) : 2 ^ lead t * 10 ≤ 16 * t :=
  (Nat.le_div_iff_mul_le (by norm_num)).mp (Nat.log2_self_le (by omega))

theorem lt_lead (t : Nat) : 16 * t < 2 ^ (lead t + 1) * 10 :=
  (Nat.div_lt_iff_lt_mul (by norm_num)).mp Nat.lt_log2_self

/-! ### The mantissa -/

theorem log2_mantissa {t : Nat} (ht : 0 < t) : (t * unit / 10).log2 = lead t + 1070 := by
  have hk : ∀ k, t * 2 ^ (4 + k) = 16 * t * 2 ^ k := fun k => by ring
  rw [unit_eq, show 1074 = 4 + 1070 from rfl, hk, log2_mul_two_pow_div 1070 (by omega), lead]

/-- **The mantissa is rounded to 53 digits**, one of which its binade takes. -/
theorem quanta_mantissa {t : Nat} (ht : 0 < t) (hl : lead t ≤ 56) :
    quanta (nearestRank (t * unit) 10) =
      roundHalfEven (t * 2 ^ (56 - lead t)) 10 * 2 ^ (1018 + lead t) := by
  have hmul : ∀ {a b c : Nat}, a + b = c → 2 ^ a * 10 * 2 ^ b = 2 ^ c * 10 := fun h => by
    rw [Nat.mul_right_comm, ← Nat.pow_add, h]
  have hle : 2 ^ 52 * 10 ≤ t * 2 ^ (56 - lead t) := by
    have := Nat.mul_le_mul_right (2 ^ (56 - lead t)) (le_lead ht)
    rw [hmul (show lead t + (56 - lead t) = 56 by omega), Nat.mul_assoc] at this
    omega
  have hlt : t * 2 ^ (56 - lead t) < 2 ^ 53 * 10 := by
    have := Nat.mul_lt_mul_of_pos_right (lt_lead t) (Nat.two_pow_pos (56 - lead t))
    rw [hmul (show lead t + 1 + (56 - lead t) = 57 by omega), Nat.mul_assoc] at this
    omega
  have hlog : (t * 2 ^ (56 - lead t) / 10).log2 = 52 + 0 :=
    (Nat.log2_eq_iff (by omega)).mpr ⟨by omega, by omega⟩
  have hu : t * unit = t * 2 ^ (56 - lead t) * 2 ^ (1018 + lead t) := by
    rw [unit_eq, Nat.mul_assoc, ← Nat.pow_add]
    congr 2
    omega
  rw [hu, quanta_nearestRank_of_log2 hlog (by omega), Nat.pow_zero, Nat.mul_one, Nat.zero_add]

/-! ### The binades of a product -/

section
variable {t S n : Nat}

/-- A product lies in the binade of its factors together or in the next. -/
theorem log2_product (ht : 0 < t) (hS : 0 < S) (h : t * S = 10 * n) :
    n.log2 + 4 = lead t + S.log2 ∨ n.log2 + 4 = lead t + S.log2 + 1 := by
  have hn : n ≠ 0 := fun hz => by simp [hz] at h; omega
  have hle : 2 ^ (lead t + S.log2) ≤ 16 * n := by
    have := Nat.mul_le_mul (le_lead ht) (Nat.log2_self_le hS.ne')
    rw [Nat.pow_add]
    linarith
  have hlt : 16 * n < 2 ^ (lead t + S.log2 + 2) := by
    have := Nat.mul_lt_mul'' (lt_lead t) (Nat.lt_log2_self (n := S))
    rw [show lead t + S.log2 + 2 = lead t + 1 + (S.log2 + 1) by omega, Nat.pow_add]
    linarith
  have hle' : 2 ^ (n.log2 + 4) ≤ 16 * n := by
    have := Nat.log2_self_le hn
    rw [Nat.pow_add]
    omega
  have hlt' : 16 * n < 2 ^ (n.log2 + 5) := by
    have := Nat.lt_log2_self (n := n)
    rw [Nat.pow_succ] at this
    rw [Nat.pow_add]
    omega
  have h1 := (Nat.pow_lt_pow_iff_right (by norm_num)).mp (hle.trans_lt hlt')
  have h2 := (Nat.pow_lt_pow_iff_right (by norm_num)).mp (hle'.trans_lt hlt)
  omega

/-- A count below `2 ^ 53` is the product of factors whose binades leave room for it. -/
theorem lead_add_log2_le (ht : 0 < t) (hS : 0 < S) (h : t * S = 10 * n) (hn : n < 2 ^ 53) :
    lead t + S.log2 ≤ 56 := by
  have : n.log2 < 53 := by
    by_cases hz : n = 0
    · simp [hz]
    · exact (Nat.log2_lt hz).mpr hn
  rcases log2_product ht hS h with h | h <;> omega

/-! ### Rounding a product -/

/-- Where the digits of a count of a binade end below those of its factors' product. -/
def gap (t n : Nat) : Nat := n.log2 + 4 - lead t

/-- The count that is left of a product `p`, in the scale of the mantissa, when it is rounded. -/
def countOf (t p : Nat) : Nat := quanta (nearestRank (p * 2 ^ (1018 + lead t)) 1) / unit

variable {p y : Nat}

theorem log2_le (hn : n < 2 ^ 53) (h0 : n ≠ 0) : n.log2 ≤ 52 :=
  Nat.le_of_lt_succ ((Nat.log2_lt h0).mpr hn)

/-- The mantissa is scaled by what the count leaves of 53 digits and by the gap. -/
theorem scale_eq (hl : lead t ≤ n.log2 + 4) (hL : n.log2 ≤ 52) :
    56 - lead t = 52 - n.log2 + gap t n := by
  unfold gap
  omega

theorem countOf_eq (hl : lead t ≤ n.log2 + 4) (hn : n.log2 ≤ 52) (hp : p.log2 = 52 + gap t n) :
    countOf t p = roundHalfEven p (2 ^ gap t n) / 2 ^ (52 - n.log2) := by
  have hp' : (p / 1).log2 = 52 + gap t n := by rwa [Nat.div_one]
  have hu : unit = 2 ^ (52 - n.log2) * 2 ^ (gap t n + (1018 + lead t)) := by
    have he : 52 - n.log2 + (gap t n + (1018 + lead t)) = 1074 := by
      unfold gap
      omega
    rw [← Nat.pow_add, he, unit_eq]
  rw [countOf, quanta_nearestRank_of_log2 hp' (by unfold gap; omega), hu, Nat.one_mul,
    Nat.mul_div_mul_right _ _ (Nat.two_pow_pos _)]

/-- A scaled number and less than one step of its scale lie in its scaled binade. -/
theorem log2_above {s : Nat} (h0 : n ≠ 0) (hy : y < 2 ^ s) : (n * 2 ^ s + y).log2 = n.log2 + s := by
  have hle := Nat.log2_self_le h0
  have hlt := Nat.lt_log2_self (n := n)
  rw [Nat.log2_eq_iff (by positivity), Nat.add_right_comm, Nat.pow_add, Nat.pow_add]
  exact ⟨by nlinarith, by nlinarith⟩

/-- So does what falls short of a scaled number by less than one step, unless that is a power of
two. -/
theorem log2_below {s : Nat} (h0 : 2 ^ n.log2 < n) (hy : y < 2 ^ s) (hp : p + y = n * 2 ^ s) :
    p.log2 = n.log2 + s := by
  have hlt := Nat.lt_log2_self (n := n)
  have hge : 2 ^ s ≤ n * 2 ^ s := Nat.le_mul_of_pos_left _ (by omega)
  rw [Nat.log2_eq_iff (by omega), Nat.add_right_comm, Nat.pow_add, Nat.pow_add]
  exact ⟨by nlinarith, by nlinarith⟩

section
variable (hl : lead t ≤ n.log2 + 4) (hn : n < 2 ^ 53) (hy : y < 2 ^ gap t n)
  (hne : 2 * y ≠ 2 ^ gap t n)
include hl hn hy hne

/-- A product that is not below a count is rounded to it, or one step up where steps are whole. -/
theorem countOf_above (h0 : n ≠ 0) : countOf t (n * 2 ^ (56 - lead t) + y) =
    if 2 ^ gap t n < 2 * y ∧ 2 ^ 52 ≤ n then n + 1 else n := by
  have hL := log2_le hn h0
  have hs := scale_eq hl hL
  have hy' : y < 2 ^ (56 - lead t) :=
    hy.trans_le (Nat.pow_le_pow_right (by norm_num) (by omega))
  have hlog := log2_above h0 hy'
  have hH := Nat.two_pow_pos (52 - n.log2)
  rw [countOf_eq hl hL (by omega), hs, Nat.pow_add, ← Nat.mul_assoc]
  by_cases hfar : 2 ^ gap t n < 2 * y
  · rw [roundHalfEven_add_up _ hfar hy]
    by_cases hbig : 2 ^ 52 ≤ n
    · have : n.log2 = 52 := Nat.le_antisymm hL ((Nat.le_log2 h0).mpr hbig)
      rw [if_pos ⟨hfar, hbig⟩, this]
      simp
    · have : n.log2 < 52 := (Nat.log2_lt h0).mpr (by omega)
      have hH' : 1 < 2 ^ (52 - n.log2) := Nat.one_lt_two_pow (by omega)
      rw [if_neg fun h => hbig h.2, Nat.add_comm, Nat.add_mul_div_right _ _ hH,
        Nat.div_eq_of_lt hH', Nat.zero_add]
  · rw [roundHalfEven_add _ (by omega), if_neg fun h => hfar h.1, Nat.mul_div_cancel _ hH]

/-- A product below a count is rounded to it, or one step down, which loses a whole one. -/
theorem countOf_below (h0 : 2 ^ n.log2 < n) (hp : p + y = n * 2 ^ (56 - lead t)) :
    countOf t p = if 2 ^ gap t n < 2 * y then n - 1 else n := by
  have hn0 : n ≠ 0 := fun hz => by simp [hz] at h0
  have hL := log2_le hn hn0
  have hs := scale_eq hl hL
  have hy' : y < 2 ^ (56 - lead t) :=
    hy.trans_le (Nat.pow_le_pow_right (by norm_num) (by omega))
  have hlog := log2_below h0 hy' hp
  have hH := Nat.two_pow_pos (52 - n.log2)
  obtain ⟨b, hb⟩ : ∃ b, n * 2 ^ (52 - n.log2) = b + 1 :=
    Nat.exists_eq_add_one.mpr (by positivity)
  rw [hs, Nat.pow_add, ← Nat.mul_assoc, hb] at hp
  rw [countOf_eq hl hL (by omega), roundHalfEven_of_add_eq hp hy hne]
  split_ifs
  · obtain ⟨m, rfl⟩ : ∃ m, n = m + 1 := Nat.exists_eq_add_one.mpr (by omega)
    rw [Nat.succ_mul] at hb
    rw [show b = 2 ^ (52 - (m + 1).log2) - 1 + m * 2 ^ (52 - (m + 1).log2) by omega,
      Nat.add_mul_div_right _ _ hH, Nat.div_eq_of_lt (by omega)]
    omega
  · rw [← hb, Nat.mul_div_cancel _ hH]

end

/-! ### What is off -/

theorem slip_eq (hl : lead t ≤ n.log2 + 4) (h : t * S = 10 * n) : slip t S =
    if gap t n ≠ S.log2 then 0
    else if t * 2 ^ (56 - lead t) % 10 = 4 then -1
    else if t * 2 ^ (56 - lead t) % 10 = 6 ∧ 2 ^ 52 ≤ n then 1
    else 0 := by
  have hg : n.log2 + 4 ≠ lead t + S.log2 ↔ gap t n ≠ S.log2 := by
    unfold gap
    omega
  simp only [slip, h, Nat.mul_div_cancel_left n (show 0 < 10 by norm_num), hg]

/-- A mantissa that needs no rounding loses nothing. -/
theorem countOf_of_dvd (hl : lead t ≤ n.log2 + 4) (h : t * S = 10 * n) (hn : n < 2 ^ 53)
    (h0 : n ≠ 0) (hr : t * 2 ^ (56 - lead t) % 10 = 0) :
    (countOf t (S * roundHalfEven (t * 2 ^ (56 - lead t)) 10) : Int) = n + slip t S := by
  have hp : S * roundHalfEven (t * 2 ^ (56 - lead t)) 10 = n * 2 ^ (56 - lead t) + 0 := by
    obtain ⟨q, hq⟩ := Nat.dvd_of_mod_eq_zero hr
    rw [hq, Nat.mul_comm 10, roundHalfEven_mul_self q (by norm_num)]
    refine Nat.eq_of_mul_eq_mul_left (show 0 < 10 by norm_num) ?_
    calc 10 * (S * q) = S * (t * 2 ^ (56 - lead t)) := by rw [hq]; ring
      _ = t * S * 2 ^ (56 - lead t) := by ring
      _ = 10 * (n * 2 ^ (56 - lead t) + 0) := by rw [h]; ring
  have hg := Nat.two_pow_pos (gap t n)
  rw [hp, countOf_above hl hn hg (by omega) h0, if_neg (by omega), slip_eq hl h, hr]
  simp

section
variable {m x : Nat} (hS : 5 * 2 ^ S.log2 < 4 * S)
  (hgap : gap t n = S.log2 ∨ gap t n = S.log2 + 1) (hx : x = 2 ∨ x = 4)
include hS hgap hx

/-- How far the product with a decimal unit is from a count, against half a step. -/
theorem half_step (hy : 10 * y = S * x) : y < 2 ^ gap t n ∧ 2 * y ≠ 2 ^ gap t n ∧
    (2 ^ gap t n < 2 * y ↔ x = 4 ∧ gap t n = S.log2) := by
  have hlt := Nat.lt_log2_self (n := S)
  rw [Nat.pow_succ] at hlt
  rcases hgap with hg | hg <;> rcases hx with rfl | rfl <;> rw [hg]
  · omega
  · omega
  · rw [Nat.pow_succ]
    omega
  · rw [Nat.pow_succ]
    omega

variable (hd : 10 ∣ S) (hm : S * m = 10 * (n * 2 ^ (56 - lead t)))
  (hl : lead t ≤ n.log2 + 4) (hn : n < 2 ^ 53)
include hd hm hl hn

theorem countOf_down (h0 : 2 ^ n.log2 < n) (hr : m % 10 = x) :
    countOf t (S * roundHalfEven m 10) =
      if x = 4 ∧ gap t n = S.log2 then n - 1 else n := by
  obtain ⟨u, rfl⟩ := hd
  obtain ⟨hlt, hne, hhalf⟩ := half_step hS hgap hx (show 10 * (u * x) = 10 * u * x by ring)
  have hp : 10 * u * (m / 10) + u * x = n * 2 ^ (56 - lead t) := by
    have := Nat.div_add_mod m 10
    nlinarith
  rw [roundHalfEven_down (by omega), countOf_below hl hn hlt hne h0 hp]
  simp only [hhalf]

theorem countOf_up (h0 : n ≠ 0) (hr : m % 10 + x = 10) :
    countOf t (S * roundHalfEven m 10) =
      if (x = 4 ∧ gap t n = S.log2) ∧ 2 ^ 52 ≤ n then n + 1 else n := by
  obtain ⟨u, rfl⟩ := hd
  obtain ⟨hlt, hne, hhalf⟩ := half_step hS hgap hx (show 10 * (u * x) = 10 * u * x by ring)
  have hp : 10 * u * (m / 10 + 1) = n * 2 ^ (56 - lead t) + u * x := by
    have := Nat.div_add_mod m 10
    nlinarith
  rw [roundHalfEven_up (by omega), hp, countOf_above hl hn hlt hne h0]
  simp only [hhalf]

end

/-- **A decimal unit loses one, or counts one too many**, where the mantissa is rounded by four
tenths of a step and the product lies in no higher binade. -/
theorem countOf_decimal (ht : 0 < t) (hd : 1000 ∣ S) (hS : 5 * 2 ^ S.log2 < 4 * S)
    (h : t * S = 10 * n) (hn : n < 2 ^ 53) :
    (countOf t (S * roundHalfEven (t * 2 ^ (56 - lead t)) 10) : Int) = n + slip t S := by
  have hS0 : 0 < S := by omega
  have hn0 : n ≠ 0 := fun hz => by simp [hz] at h; omega
  have hlog := log2_product ht hS0 h
  have hl : lead t ≤ n.log2 + 4 := by omega
  have hgap : gap t n = S.log2 ∨ gap t n = S.log2 + 1 := by
    unfold gap
    omega
  have hd' : 10 ∣ S := Dvd.dvd.trans (by norm_num) hd
  -- the mantissa is scaled by a power of two, so that its last digit is even
  have heven : t * 2 ^ (56 - lead t) % 2 = 0 := by
    have := lead_add_log2_le ht hS0 h hn
    have : 9 ≤ S.log2 := (Nat.le_log2 (by omega)).mpr (by omega)
    obtain ⟨s, hs⟩ : ∃ s, 56 - lead t = s + 1 := Nat.exists_eq_add_one.mpr (by omega)
    rw [hs, Nat.pow_succ, ← Nat.mul_assoc, Nat.mul_mod_left]
  -- the count is a multiple of five, so that it is no power of two
  have hpow : 2 ^ n.log2 < n := by
    refine lt_of_le_of_ne (Nat.log2_self_le hn0) fun he => ?_
    obtain ⟨u, rfl⟩ := hd
    have h5 : 5 ∣ n := ⟨20 * (t * u), by linarith⟩
    have : 5 ∣ 2 := Nat.prime_five.dvd_of_dvd_pow (he ▸ h5)
    omega
  have hm : S * (t * 2 ^ (56 - lead t)) = 10 * (n * 2 ^ (56 - lead t)) := by
    rw [← Nat.mul_assoc, Nat.mul_comm S, h, Nat.mul_assoc]
  by_cases hr : t * 2 ^ (56 - lead t) % 10 = 0
  · exact countOf_of_dvd hl h hn hn0 hr
  rw [slip_eq hl h]
  generalize t * 2 ^ (56 - lead t) = m at *
  obtain hr | hr | hr | hr : m % 10 = 2 ∨ m % 10 = 4 ∨ m % 10 = 6 ∨ m % 10 = 8 := by omega
  · rw [countOf_down hS hgap (Or.inl rfl) hd' hm hl hn hpow hr, hr]
    simp
  · rw [countOf_down hS hgap (Or.inr rfl) hd' hm hl hn hpow hr, hr]
    by_cases hg : gap t n = S.log2 <;> simp [hg]
    omega
  · rw [countOf_up hS hgap (Or.inr rfl) hd' hm hl hn hn0 (by omega), hr]
    by_cases hg : gap t n = S.log2
    · simp only [hg, ne_eq, not_true_eq_false, if_false, and_self, true_and, Nat.reduceEqDiff]
      split_ifs <;> omega
    · simp [hg]
  · rw [countOf_up hS hgap (Or.inl rfl) hd' hm hl hn hn0 (by omega), hr]
    simp

/-- The mantissas that are whole or end in a half need no rounding. -/
theorem mod_ten_of_five_dvd (h5 : 5 ∣ t) (hl : lead t < 56) :
    t * 2 ^ (56 - lead t) % 10 = 0 := by
  obtain ⟨s, hs⟩ : ∃ s, 56 - lead t = s + 1 := Nat.exists_eq_add_one.mpr (by omega)
  obtain ⟨q, rfl⟩ := h5
  rw [hs, Nat.pow_succ, show 5 * q * (2 ^ s * 2) = q * 2 ^ s * 10 by ring, Nat.mul_mod_left]

theorem mod_ten_of_two_pow (ht : 0 < t) {j : Nat} (h : t * 2 ^ j = 10 * n) (hn : n < 2 ^ 53) :
    t * 2 ^ (56 - lead t) % 10 = 0 := by
  have hle := lead_add_log2_le ht (Nat.two_pow_pos j) h hn
  rw [Nat.log2_two_pow] at hle
  rcases (Nat.le_of_add_right_le hle).eq_or_lt with he | hlt
  · obtain rfl : j = 0 := by omega
    rw [he, Nat.sub_self, Nat.pow_zero, Nat.mul_one]
    omega
  · refine mod_ten_of_five_dvd ?_ hlt
    have h5 : 5 ∣ t * 2 ^ j := ⟨2 * n, by omega⟩
    exact Nat.Coprime.dvd_of_dvd_mul_right (Nat.Coprime.pow_right j (by norm_num)) h5

theorem isExact_of_mod_ten (S : Nat) (h : t * 2 ^ (56 - lead t) % 10 = 0) : IsExact t S :=
  fun _ => by omega

/-- **Counts of binary units are exact**, and those without a unit. -/
theorem isExact_two_pow {j : Nat} (h : t * 2 ^ j = 10 * n) (hn : n < 2 ^ 53) :
    IsExact t (2 ^ j) := by
  rcases Nat.eq_zero_or_pos t with rfl | ht
  · exact isExact_of_mod_ten _ (by rw [Nat.zero_mul])
  · exact isExact_of_mod_ten _ (mod_ten_of_two_pow ht h hn)

end

/-! ### Units -/

theorem countOf_unit {u : Unit} {S t n : Nat} (ht : 0 < t) (hS : u.multiple? = some S)
    (h : t * S = 10 * n) (hn : n < 2 ^ 53) :
    (countOf t (S * roundHalfEven (t * 2 ^ (56 - lead t)) 10) : Int) = n + slip t S := by
  obtain ⟨-, -, ⟨j, rfl⟩ | ⟨hd, hσ⟩⟩ := Unit.multiple_cases hS
  · have hn0 : n ≠ 0 := fun hz => by
      have := Nat.mul_pos ht (Nat.two_pow_pos j)
      omega
    have hl : lead t ≤ n.log2 + 4 := by
      rcases log2_product ht (Nat.two_pow_pos j) h with hl | hl <;> omega
    exact countOf_of_dvd hl h hn hn0 (mod_ten_of_two_pow ht h hn)
  · exact countOf_decimal ht hd hσ h hn

/-- **What a product with a unit counts.** -/
theorem toInt64_scale_mul {u : Unit} {S t n : Nat} (hS : u.multiple? = some S)
    (h : t * S = 10 * n) (hn : n < 2 ^ 53) :
    (u.scale.mul (.signed false (nearestRank (t * unit) 10))).truncate = n + slip t S := by
  have hS0 := (Unit.multiple_cases hS).1
  obtain ⟨s, hs, -, hStop, hS'⟩ := Unit.exists_scale hS
  rw [hs]
  rcases Nat.eq_zero_or_pos t with rfl | ht
  · obtain rfl : n = 0 := by omega
    have htop : zeroRank.val ≠ topRank := by decide
    rw [Nat.zero_mul, nearestRank_zero (by norm_num), Binary64.mul, if_neg (by omega)]
    simp [zeroRank, quanta_zero, nearestRank_zero unit_pos, truncate, wholePart]
  · have hle := lead_add_log2_le ht hS0 h hn
    have htop : (nearestRank (t * unit) 10).val < topRank :=
      nearestRank_lt_topRank (by rw [log2_mantissa ht]; omega)
    have hprod : ∀ one r e : Nat, S * one * (r * e) = S * r * e * one := fun one r e => by ring
    rw [Binary64.mul, if_neg (by omega), hS', quanta_mantissa ht (by omega), hprod,
      nearestRank_mul_unit, truncate]
    exact countOf_unit ht hS h hn

theorem toInt_ofIntClamp {i : Int} (hl : 0 ≤ i) (hr : i ≤ 2 ^ 53) :
    (Int64.ofIntClamp i).toInt = i :=
  Int64.toInt_ofIntClamp (le_trans (by decide) hl) (hr.trans (by decide))

/-- **Well-formed quantities are off by a slip.** A count below `2 ^ 53` is returned as it is, or one
away from it where the two roundings slip; it is exact under the condition `IsExact` alone. -/
theorem toInt64_exact_iff {quantity : String} {u : Unit} {S n : Nat}
    (hv : validate (.string quantity) = .ok (.string quantity))
    (hu : Unit.ofText? (split quantity).2 = some u) (hS : u.multiple? = some S)
    (hn : tenths quantity * S = 10 * n) (hlt : n < 2 ^ 53) :
    ∃ i : Int64, toInt64 (.string quantity) = .ok (i, true) ∧
      i.toInt = n + slip (tenths quantity) S ∧
      (i.toInt = n ↔ IsExact (tenths quantity) S) := by
  have hw : isWellFormedChars quantity.toList = true := by
    rw [validate] at hv
    split_ifs at hv with h
    exact h
  obtain ⟨whole, fraction, letters, v, hs⟩ := exists_spells hw
  obtain rfl : v = u := by
    rw [split_of_spells hs, hs.unit] at hu
    exact Option.some.inj hu
  have hm : v ≠ .milli := fun h => by
    rw [h] at hS
    cases hS
  have ht := toInt64_scale_mul hS hn hlt
  rw [tenths_of_spells hs, ← rank_tenths _ hs.fraction_length, ← tenths_of_spells hs] at ht
  refine ⟨_, by rw [toInt64, ofText_of_spells hs, if_neg hm], ?_⟩
  have hi : Int64.toInt (Binary64.toInt64 (v.scale.mul (Decimal.toBinary64 false
      ⟨Decimal.ofDigits (whole ++ fraction), -fraction.length⟩))) =
      n + slip (tenths quantity) S := by
    obtain ⟨hl, hr⟩ := add_slip_mem (Unit.multiple_cases hS).1 hn
    rw [Binary64.toInt64, Decimal.toBinary64, ht, toInt_ofIntClamp hl (by omega)]
  exact ⟨hi, by rw [hi, ← slip_eq_zero_iff]; omega⟩

/-- Of a quantity whose roundings cancel out nothing is lost. -/
theorem toInt64_giga : ∃ i : Int64, toInt64 (.string "1.5G") = .ok (i, true) ∧
    i.toInt = 1500000000 := by
  have hv : validate (.string "1.5G") = .ok (.string "1.5G") := by decide +kernel
  have hu : Unit.ofText? (split "1.5G").2 = some .giga := by decide +kernel
  have hn : tenths "1.5G" * (1000 * 1000 * 1000) = 10 * 1500000000 := by decide +kernel
  obtain ⟨i, hi, -, he⟩ := toInt64_exact_iff hv hu rfl hn (by decide)
  exact ⟨i, hi, he.mpr (by decide +kernel)⟩

/-- Not every count below `2 ^ 53` is exact: of 32.3 thousands one is lost. -/
theorem toInt64_loses_one :
    ¬ ∀ (quantity : String) (u : Unit) (S n : Nat),
      validate (.string quantity) = .ok (.string quantity) →
      Unit.ofText? (split quantity).2 = some u → u.multiple? = some S →
      tenths quantity * S = 10 * n → n < 2 ^ 53 →
      toInt64 (.string quantity) = .ok (Int64.ofNat n, true) := by
  intro h
  have hc : toInt64 (.string "32.3k") = .ok (32299, true) := by decide +kernel
  have := h "32.3k" .kilo 1000 32300 (by decide +kernel) (by decide +kernel) rfl
    (by decide +kernel) (by decide)
  rw [hc] at this
  exact absurd this (by decide)

end Quantity
end ChartRender
