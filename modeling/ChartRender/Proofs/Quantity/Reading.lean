import ChartRender.Proofs.Decimal.Spelling
import ChartRender.Quantity
/-!
# Reading quantities

A well-formed quantity is spelled with digits, at most one more digit behind a point, and the
letters of a unit (`Quantity.Spells`). Where it is split, what its mantissa is read as and what it
counts follow from that spelling.

Key definitions: `Quantity.Spells`, `Quantity.IsSpelled`, `Quantity.tenths`.
Key theorems: `Quantity.exists_spells`, `Quantity.isWellFormed_iff`, `Quantity.split_of_spells`,
`Quantity.ofText_of_spells`.
-/

namespace ChartRender
namespace Quantity

open Decimal (not_isAlpha_of_isDigit pointed span_append)

/-! ### Spellings -/

/-- How a well-formed quantity is spelled: digits, at most one more behind a point, and the letters
of a unit. -/
structure Spells (cs whole fraction letters : List Char) (u : Unit) : Prop where
  eq : cs = whole ++ pointed fraction ++ letters
  whole_ne_nil : whole ≠ []
  whole_digits : ∀ c ∈ whole, c.isDigit = true
  fraction_digits : ∀ c ∈ fraction, c.isDigit = true
  fraction_length : fraction.length ≤ 1
  unit : Unit.ofText? (String.ofList letters) = some u

/-- **What is well formed is spelled so.** -/
theorem exists_spells {cs : List Char} (h : isWellFormedChars cs = true) :
    ∃ whole fraction letters u, Spells cs whole fraction letters u := by
  unfold isWellFormedChars at h
  have hcs : cs.takeWhile Char.isDigit ++ cs.dropWhile Char.isDigit = cs :=
    List.takeWhile_append_dropWhile
  have hw : ∀ c ∈ cs.takeWhile Char.isDigit, c.isDigit = true := fun c hc =>
    List.mem_takeWhile_imp hc
  rw [List.span_eq_takeWhile_dropWhile] at h
  generalize cs.takeWhile Char.isDigit = whole at *
  generalize cs.dropWhile Char.isDigit = rest at *
  simp only [Bool.and_eq_true, Bool.not_eq_true', List.isEmpty_eq_false_iff,
    Option.isSome_iff_exists] at h
  obtain ⟨hne, u, hu⟩ := h
  -- either there is a point with a digit behind it, or all of the rest is the unit
  by_cases hp : ∃ c rest', rest = '.' :: c :: rest' ∧ c.isDigit = true
  · obtain ⟨c, rest', rfl, hc⟩ := hp
    refine ⟨whole, [c], rest', u, by simp [pointed, ← hcs], hne, hw, by simpa using hc, by simp, ?_⟩
    simpa [hc] using hu
  · refine ⟨whole, [], rest, u, by simp [pointed, hcs], hne, hw, by simp, by simp, ?_⟩
    split at hu
    · rename_i c rest'
      rwa [if_neg fun hc => hp ⟨c, rest', rfl, hc⟩] at hu
    · exact hu

theorem Unit.mem_names {letters : List Char} {u : Unit}
    (h : Unit.ofText? (String.ofList letters) = some u) : (String.ofList letters, u) ∈ Unit.names := by
  obtain ⟨front, back, hn, -⟩ := List.lookup_eq_some_iff.mp h
  rw [hn]
  simp

/-- The letters that units are written with. -/
def Unit.letters : List Char := ['k', 'm', 'M', 'G', 'T', 'P', 'K', 'i']

theorem Unit.mem_letters {letters : List Char} {u : Unit}
    (h : Unit.ofText? (String.ofList letters) = some u) : ∀ c ∈ letters, c ∈ Unit.letters := by
  have ha : ∀ p ∈ Unit.names, p.1.toList.all (Unit.letters.contains ·) = true := by decide
  simpa using ha _ (Unit.mem_names h)

theorem isAlpha_of_unit {letters : List Char} {u : Unit}
    (h : Unit.ofText? (String.ofList letters) = some u) : ∀ c ∈ letters, c.isAlpha = true :=
  fun c hc => List.all_eq_true.mp (by decide : Unit.letters.all Char.isAlpha = true) c
    (Unit.mem_letters h c hc)

/-- **Whatever is spelled so is well formed.** -/
theorem isWellFormedChars_of_spells {cs whole fraction letters : List Char} {u : Unit}
    (h : Spells cs whole fraction letters u) : isWellFormedChars cs = true := by
  have halpha := isAlpha_of_unit h.unit
  have hspan : cs.span Char.isDigit = (whole, pointed fraction ++ letters) := by
    rw [h.eq, List.append_assoc]
    refine span_append h.whole_digits fun c hc => ?_
    cases fraction with
    | nil =>
      have ha := halpha c (List.mem_of_head? hc)
      by_contra hd
      rw [not_isAlpha_of_isDigit (Bool.eq_true_of_not_eq_false hd)] at ha
      cases ha
    | cons d ds =>
      obtain rfl : '.' = c := by simpa [pointed] using hc
      rfl
  unfold isWellFormedChars
  rw [hspan]
  have hne : whole.isEmpty = false := List.isEmpty_eq_false_iff.mpr h.whole_ne_nil
  cases fraction with
  | nil =>
    simp only [pointed, List.nil_append, hne]
    split
    · -- the letters of a unit do not start with a point
      exact absurd (halpha '.' List.mem_cons_self) (by decide)
    · simp [h.unit]
  | cons d ds =>
    have hlen := h.fraction_length
    obtain rfl : ds = [] := List.eq_nil_of_length_eq_zero (by simpa using hlen)
    have hd := h.fraction_digits d List.mem_cons_self
    simp [pointed, hd, hne, h.unit]

/-- A text that is spelled as a quantity. -/
def IsSpelled (text : String) : Prop :=
  ∃ whole fraction letters u, Spells text.toList whole fraction letters u

theorem isWellFormed_iff {text : String} : isWellFormed text = true ↔ IsSpelled text := by
  constructor
  · exact exists_spells
  · rintro ⟨whole, fraction, letters, u, h⟩
    exact isWellFormedChars_of_spells h

/-- What a quantity is written with: digits, a point and the letters of units. -/
theorem IsSpelled.chars {text : String} (h : IsSpelled text) :
    ∀ c ∈ text.toList, c.isDigit = true ∨ c ∈ '.' :: Unit.letters := by
  obtain ⟨whole, fraction, letters, u, h⟩ := h
  intro c hc
  rw [h.eq, List.mem_append, List.mem_append] at hc
  rcases hc with (hc | hc) | hc
  · exact Or.inl (h.whole_digits c hc)
  · cases fraction with
    | nil => cases hc
    | cons d ds =>
      rcases List.mem_cons.mp hc with rfl | hc
      · exact Or.inr List.mem_cons_self
      · exact Or.inl (h.fraction_digits c hc)
  · exact Or.inr (List.mem_cons_of_mem _ (Unit.mem_letters h.unit c hc))

/-- A text is split where letters follow something else, or at its end if no letters follow. -/
theorem splitChars_append {front letters : List Char}
    (hf : ∀ c, front.getLast? = some c → c.isAlpha = false) (hl : ∀ c ∈ letters, c.isAlpha = true) :
    splitChars (front ++ letters) = (front, letters) := by
  have hletters : ∀ c ∈ letters.reverse, c.isAlpha = true := fun c hc =>
    hl c (List.mem_reverse.mp hc)
  have hend : ∀ c, front.reverse.head? = some c → c.isAlpha = false := by
    intro c hc
    rw [List.head?_reverse] at hc
    exact hf c hc
  rw [splitChars, List.reverse_append, span_append hletters hend]
  simp

section
variable {cs whole fraction letters : List Char} {u : Unit}

theorem Spells.digit_at_end (h : Spells cs whole fraction letters u) {c : Char}
    (hc : (whole ++ pointed fraction).getLast? = some c) : c.isDigit = true :=
  Decimal.isDigit_of_getLast? h.whole_digits h.fraction_digits hc

/-- A well-formed quantity is split behind its digits. -/
theorem splitChars_of_spells (h : Spells cs whole fraction letters u) :
    splitChars cs = (whole ++ pointed fraction, letters) := by
  rw [h.eq]
  have hend := fun c hc => not_isAlpha_of_isDigit (h.digit_at_end (c := c) hc)
  exact splitChars_append hend (isAlpha_of_unit h.unit)

/-- The mantissa of a well-formed quantity is read digit by digit. -/
theorem ofChars?_of_spells (h : Spells cs whole fraction letters u) :
    Decimal.Numeral.ofChars? (whole ++ pointed fraction) = some ⟨false, whole, fraction, 0⟩ := by
  have hread : Decimal.Numeral.ofChars? ([] ++ whole ++ (pointed fraction ++ [])) = _ :=
    Decimal.Numeral.ofChars?_append (by decide) h.whole_ne_nil h.whole_digits h.fraction_digits .none
  rwa [List.nil_append, List.append_nil] at hread

end

/-! ### Values -/

/-- The mantissa of a quantity counted in tenths: its digits as one number, with a zero behind them
if there is no point. -/
def tenths (quantity : String) : Nat :=
  let digits := Decimal.ofDigits (quantity.toList.filter Char.isDigit)
  if '.' ∈ quantity.toList then digits else 10 * digits

section
variable {quantity : String} {whole fraction letters : List Char} {u : Unit}

theorem split_of_spells (h : Spells quantity.toList whole fraction letters u) : split quantity =
    (String.ofList (whole ++ pointed fraction), String.ofList letters) := by
  rw [split, splitChars_of_spells h]

theorem tenths_of_spells (h : Spells quantity.toList whole fraction letters u) :
    tenths quantity = 10 ^ (1 - fraction.length) * Decimal.ofDigits (whole ++ fraction) := by
  have hl : letters.filter Char.isDigit = [] := by
    refine List.filter_eq_nil_iff.mpr fun c hc hd => ?_
    have := isAlpha_of_unit h.unit c hc
    rw [not_isAlpha_of_isDigit hd] at this
    cases this
  have hpl : '.' ∉ letters := fun hc => absurd (isAlpha_of_unit h.unit _ hc) (by decide)
  have hpw : '.' ∉ whole := fun hc => absurd (h.whole_digits _ hc) (by decide)
  have hw := List.filter_eq_self.mpr h.whole_digits
  unfold tenths
  rw [h.eq]
  cases fraction with
  | nil => simp [pointed, hl, hw, hpl, hpw]
  | cons d ds =>
    have hf : (pointed (d :: ds)).filter Char.isDigit = d :: ds := by
      rw [pointed, List.filter_cons_of_neg (by decide)]
      exact List.filter_eq_self.mpr h.fraction_digits
    have hlen := h.fraction_length
    rw [List.filter_append, List.filter_append, hl, hw, hf]
    simp [pointed]

/-- What has a number for its mantissa and a unit counts their product, or nothing if it is one of
thousandths. -/
theorem ofText_of_some {x : Binary64} (hx : Binary64.ofText? (split quantity).1 = some x)
    (hu : Unit.ofText? (split quantity).2 = some u) : ofText quantity =
      .ok (if u = .milli then (0, false) else ((u.scale.mul x).toInt64, true)) := by
  unfold ofText
  simp only [hx, hu]
  cases u <;> rfl

/-- **What a well-formed quantity counts**: the product of its unit and its mantissa, or nothing if
it is one of thousandths. -/
theorem ofText_of_spells (h : Spells quantity.toList whole fraction letters u) :
    ofText quantity = .ok (if u = .milli then (0, false) else
      ((u.scale.mul (Decimal.toBinary64 false
        ⟨Decimal.ofDigits (whole ++ fraction), -fraction.length⟩)).toInt64, true)) := by
  have hx : Binary64.ofText? (String.ofList (whole ++ pointed fraction)) =
      some (Decimal.toBinary64 false
        ⟨Decimal.ofDigits (whole ++ fraction), -fraction.length⟩) := by
    rw [Binary64.ofText?, String.toList_ofList, Binary64.ofChars?, ofChars?_of_spells h]
    simp [Decimal.Numeral.toBinary64, Decimal.Numeral.magnitude]
  refine ofText_of_some ?_ ?_
  · rw [split_of_spells h, hx]
  · rw [split_of_spells h, h.unit]

end

/-! ### Checking and converting -/

theorem validate_string (text : String) : validate (.string text) =
    if isWellFormed text then .ok (.string text) else .error (.quantityFormat text) := rfl

/-- Accepted is what is spelled as a quantity, and it is returned as it is. -/
theorem validate_eq_ok_iff {text : String} {w : Value} :
    validate (.string text) = .ok w ↔ w = .string text ∧ IsSpelled text := by
  rw [validate_string, ← isWellFormed_iff]
  split_ifs with h
  · simp [h, eq_comm]
  · simp [h]

/-- **A well-formed quantity can be converted.** -/
theorem IsSpelled.exists_count {text : String} (h : IsSpelled text) :
    ∃ count, toInt64 (.string text) = .ok count := by
  obtain ⟨whole, fraction, letters, u, h⟩ := h
  rw [toInt64, ofText_of_spells h]
  exact ⟨_, rfl⟩

end Quantity
end ChartRender
