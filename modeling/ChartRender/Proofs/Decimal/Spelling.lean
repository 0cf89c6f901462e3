import ChartRender.Decimal.Basic
import ChartRender.Decimal.Layout
import ChartRender.Proofs.Decimal.Shortest
/-!
# How numbers are spelled

Every layout spells a finite number as a numeral of the number: digits of which none is a needless
zero in front, perhaps a point with more digits, and perhaps an exponent (`Decimal.Numeral.Spells`).
Where the point stands and what the exponent is differ, but the numeral has the value of the number
(`Layout.exists_spells`).

Numerals may be spelled in more ways than layouts do, with an exponent of either case and zeros in
front of it (`Decimal.IsExponent`), and with zeros in front of the digits. All of these are read.

Key definitions: `Decimal.IsWhole`, `Decimal.ExponentText`, `Decimal.IsExponent`,
`Decimal.Numeral.Spells`.
Key theorems: `Layout.exists_spells_decimal`, `Layout.exists_spells`,
`Decimal.Numeral.ofChars?_append`, `Decimal.Numeral.toList_toString_int`.
-/

namespace ChartRender
namespace Decimal

/-! ### Digits -/

theorem isDigit_toDigits {n : Nat} : ∀ c ∈ Nat.toDigits 10 n, c.isDigit = true :=
  fun _ hc => Nat.isDigit_of_mem_toDigits (by norm_num) (by norm_num) hc

theorem not_isAlpha_of_isDigit {c : Char} (h : c.isDigit = true) : c.isAlpha = false := by
  have := Char.isDigit_iff_toNat.mp h
  by_contra ha
  simp only [Bool.not_eq_false, Char.isAlpha, Char.isUpper, Char.isLower, Bool.or_eq_true,
    Bool.and_eq_true, decide_eq_true_eq, UInt32.le_iff_toNat_le, ge_iff_le] at ha
  simp at this ha
  omega

theorem ne_of_isDigit {c d : Char} (hc : c.isDigit = true) (hd : d.isDigit = false) : c ≠ d := by
  rintro rfl
  exact Bool.noConfusion (hc.symm.trans hd)

theorem head?_toDigits (n : Nat) (hn : n ≠ 0) : (Nat.toDigits 10 n).head? ≠ some '0' := by
  induction n using Nat.strongRecOn with
  | ind n ih =>
    by_cases hlt : n < 10
    · rw [Nat.toDigits_of_lt_base hlt]
      simpa using hn
    · rw [Nat.toDigits_of_base_le (by norm_num) (by omega),
        List.head?_append_of_ne_nil _ Nat.toDigits_ne_nil]
      exact ih (n / 10) (by omega) (by omega)

theorem ofDigits_toDigits (n : Nat) : ofDigits (Nat.toDigits 10 n) = n :=
  Nat.ofDigitChars_ten_toDigits

theorem ofDigits_append_zeros (digits : List Char) (k : Nat) :
    ofDigits (digits ++ List.replicate k '0') = ofDigits digits * 10 ^ k := by
  rw [ofDigits, Nat.ofDigitChars_append, Nat.ofDigitChars_replicate_zero, Nat.mul_comm]
  rfl

theorem ofDigits_zeros_append (k : Nat) (digits : List Char) :
    ofDigits (List.replicate k '0' ++ digits) = ofDigits digits := by
  rw [ofDigits, Nat.ofDigitChars_append, Nat.ofDigitChars_replicate_zero, Nat.mul_zero]
  rfl

/-- A run of items that satisfy a condition ends at the first that does not. -/
theorem span_append {α : Type} {p : α → Bool} {front back : List α} (hf : ∀ c ∈ front, p c = true)
    (hb : ∀ c, back.head? = some c → p c = false) : (front ++ back).span p = (front, back) := by
  rw [List.span_eq_takeWhile_dropWhile, List.takeWhile_append_of_pos hf,
    List.dropWhile_append_of_pos hf]
  cases back with
  | nil => simp
  | cons c back => simp [hb c rfl]

/-! ### Spellings -/

/-- Digits before a point: at least one, and no zero in front of others. -/
structure IsWhole (whole : List Char) : Prop where
  ne_nil : whole ≠ []
  digits : ∀ c ∈ whole, c.isDigit = true
  head : whole.head? = some '0' → whole = ['0']

theorem isWhole_toDigits (n : Nat) : IsWhole (Nat.toDigits 10 n) where
  ne_nil := Nat.toDigits_ne_nil
  digits := isDigit_toDigits
  head h := by
    obtain rfl : n = 0 := by
      by_contra hn
      exact head?_toDigits n hn h
    rfl

/-- A point and digits behind it, or nothing if there are none. -/
def pointed : List Char → List Char
  | [] => []
  | c :: cs => '.' :: c :: cs

theorem pointed_of_ne_nil {cs : List Char} (h : cs ≠ []) : pointed cs = '.' :: cs := by
  cases cs with
  | nil => exact absurd rfl h
  | cons c cs => rfl

/-- Digits and a point with digits behind it end with a digit. -/
theorem isDigit_of_getLast? {whole fraction : List Char} (hwhole : ∀ c ∈ whole, c.isDigit = true)
    (hfraction : ∀ c ∈ fraction, c.isDigit = true) {c : Char}
    (hc : (whole ++ pointed fraction).getLast? = some c) : c.isDigit = true := by
  cases fraction with
  | nil =>
    rw [pointed, List.append_nil] at hc
    exact hwhole c (List.mem_of_getLast? hc)
  | cons d ds =>
    rw [pointed, List.getLast?_append_of_ne_nil _ (List.cons_ne_nil _ _),
      List.getLast?_cons_cons] at hc
    exact hfraction c (List.mem_of_getLast? hc)

/-- How an exponent is written: not at all if it is zero, or behind an `e`, with or without a sign
if it is positive. -/
inductive ExponentText : Int → List Char → Prop
  | none : ExponentText 0 []
  | some (e : Int) (plusSign : Bool) :
    ExponentText e ('e' :: ((if e < 0 then ['-'] else if plusSign then ['+'] else []) ++
      Nat.toDigits 10 e.natAbs))

/-- How an exponent may be written: not at all if it is zero, or behind an `e` of either case as
digits, perhaps with a sign in front of them. -/
inductive IsExponent : Int → List Char → Prop
  | none : IsExponent 0 []
  | some {mark : Char} {sign digits : List Char} (hmark : mark ∈ ['e', 'E'])
      (hsign : sign ∈ [[], ['+'], ['-']]) (hne : digits ≠ [])
      (hdigits : ∀ c ∈ digits, c.isDigit = true) :
      IsExponent (if sign = ['-'] then -(ofDigits digits : Int) else ofDigits digits)
        (mark :: (sign ++ digits))

/-- What layouts write is one of the ways. -/
theorem ExponentText.isExponent {e : Int} {tail : List Char} (h : ExponentText e tail) :
    IsExponent e tail := by
  cases h with
  | none => exact .none
  | some e plusSign =>
    have hdigits : (ofDigits (Nat.toDigits 10 e.natAbs) : Int) = e.natAbs :=
      congrArg _ (ofDigits_toDigits _)
    have hsome : ∀ sign ∈ [[], ['+'], ['-']], IsExponent _ ('e' :: (sign ++ _)) := fun sign hsign =>
      .some (by decide) hsign Nat.toDigits_ne_nil (isDigit_toDigits (n := e.natAbs))
    by_cases he : e < 0
    · have hminus := hsome ['-'] (by decide)
      rw [if_pos rfl, hdigits, show -(e.natAbs : Int) = e by omega] at hminus
      rwa [if_pos he]
    · rw [if_neg he]
      cases plusSign with
      | false =>
        have hplain := hsome [] (by decide)
        rwa [if_neg (by decide), hdigits, show (e.natAbs : Int) = e by omega] at hplain
      | true =>
        have hplus := hsome ['+'] (by decide)
        rwa [if_neg (by decide), hdigits, show (e.natAbs : Int) = e by omega] at hplus

/-- How a numeral without its sign is spelled. -/
structure Numeral.Spells (n : Numeral) (cs : List Char) : Prop where
  whole : IsWhole n.whole
  fraction : ∀ c ∈ n.fraction, c.isDigit = true
  eq : ∃ tail, ExponentText n.exponent tail ∧ cs = n.whole ++ pointed n.fraction ++ tail

/-- A sign in front of a text if there is one. -/
def withSign (negative : Bool) (cs : List Char) : List Char := if negative then '-' :: cs else cs

end Decimal

namespace Layout

open Decimal Binary64

/-- **Positional digits** make a numeral of the same value, unless zeros would stand in front. -/
theorem exists_spells_positional (d : Decimal) (h : d.digits ≠ 0 ∨ d.exponent = 0) :
    ∃ n : Numeral, n.negative = false ∧
      n.Spells (positional (Nat.toDigits 10 d.digits) d.exponent) ∧
      n.magnitude.exactRank = d.exactRank := by
  obtain ⟨k, e⟩ := d
  have hw := isWhole_toDigits k
  have hk := ofDigits_toDigits k
  generalize hds : Nat.toDigits 10 k = digits at *
  unfold positional
  dsimp only at h ⊢
  split_ifs with he hp
  · -- whole numbers: zeros are appended, and one more behind the point
    obtain ⟨z, rfl⟩ := Int.eq_ofNat_of_zero_le he
    refine ⟨⟨false, digits ++ List.replicate z '0', ['0'], 0⟩, rfl, ⟨⟨?_, ?_, ?_⟩, ?_, ?_⟩, ?_⟩
    · simp [hw.ne_nil]
    · intro c hc
      rcases List.mem_append.mp hc with hc | hc
      · exact hw.digits c hc
      · rw [List.eq_of_mem_replicate hc]
        rfl
    · intro hh
      rw [List.head?_append_of_ne_nil _ hw.ne_nil] at hh
      obtain hk0 | hz := h
      · exact absurd hh (hds ▸ head?_toDigits k hk0)
      · rw [hw.head hh, Int.natCast_eq_zero.mp hz]
        rfl
    · simp
    · exact ⟨[], .none, by simp [pointed]⟩
    · have hz : ofDigits (digits ++ List.replicate z '0' ++ ['0']) = k * 10 ^ (z + 1) := by
        rw [List.append_assoc, ← List.replicate_succ', ofDigits_append_zeros, hk]
      rw [Numeral.magnitude, hz, exactRank_mul_pow]
      congr 2
      simp
  · -- the point stands among the digits
    have hlt : (digits.length + e).toNat < digits.length := by omega
    refine ⟨⟨false, digits.take (digits.length + e).toNat, digits.drop (digits.length + e).toNat,
      0⟩, rfl, ⟨⟨?_, ?_, ?_⟩, ?_, ?_⟩, ?_⟩
    · simp [hw.ne_nil]
      omega
    · exact fun c hc => hw.digits c (List.mem_of_mem_take hc)
    · intro hh
      have hk0 : k ≠ 0 := h.resolve_right (by omega)
      rw [List.head?_take, if_neg (by omega)] at hh
      exact absurd hh (hds ▸ head?_toDigits k hk0)
    · exact fun c hc => hw.digits c (List.mem_of_mem_drop hc)
    · exact ⟨[], .none, by rw [pointed_of_ne_nil (by simp; omega), List.append_nil]⟩
    · rw [Numeral.magnitude, List.take_append_drop, hk, List.length_drop]
      congr 2
      change 0 - ((digits.length - (digits.length + e).toNat : Nat) : Int) = e
      omega
  · -- zeros stand between the point and the digits
    refine ⟨⟨false, ['0'], List.replicate (-(digits.length + e)).toNat '0' ++ digits, 0⟩, rfl,
      ⟨⟨by simp, by simp, fun _ => rfl⟩, ?_, ?_⟩, ?_⟩
    · intro c hc
      rcases List.mem_append.mp hc with hc | hc
      · rw [List.eq_of_mem_replicate hc]
        rfl
      · exact hw.digits c hc
    · exact ⟨[], .none, by rw [pointed_of_ne_nil (by simp [hw.ne_nil])]; simp⟩
    · have hz : ofDigits (['0'] ++ (List.replicate (-(digits.length + e)).toNat '0' ++ digits)) =
          k := by
        rw [← List.append_assoc, ← hk]
        exact ofDigits_zeros_append ((-(digits.length + e)).toNat + 1) digits
      rw [Numeral.magnitude, hz]
      congr 2
      simp
      omega

/-- **A leading digit with an exponent** makes a numeral of the same value. -/
theorem exists_spells_scientific (plusSign : Bool) (d : Decimal) :
    ∃ n : Numeral, n.negative = false ∧
      n.Spells (scientific plusSign (Nat.toDigits 10 d.digits)
        ((Nat.toDigits 10 d.digits).length - 1 + d.exponent)) ∧
      n.magnitude.exactRank = d.exactRank := by
  obtain ⟨k, e⟩ := d
  have hw := isWhole_toDigits k
  have hk := ofDigits_toDigits k
  dsimp only
  generalize Nat.toDigits 10 k = digits at *
  obtain ⟨c, cs, rfl⟩ := List.exists_cons_of_ne_nil hw.ne_nil
  refine ⟨⟨false, [c], cs, ((c :: cs).length - 1 + e : Int)⟩, rfl, ⟨⟨by simp, ?_, ?_⟩, ?_, ?_⟩, ?_⟩
  · simpa using hw.digits c List.mem_cons_self
  · simp
  · exact fun d hd => hw.digits d (List.mem_cons_of_mem c hd)
  · refine ⟨_, .some _ plusSign, ?_⟩
    unfold scientific
    cases cs <;> simp [pointed]
  · rw [Numeral.magnitude, List.singleton_append, hk]
    congr 2
    simp

/-- A decimal is spelled by a numeral of its value. -/
theorem exists_spells_decimal (l : Layout) (d : Decimal) (h : d.digits ≠ 0 ∨ d.exponent = 0) :
    ∃ n : Numeral, n.negative = false ∧ n.Spells (l.decimal d) ∧
      n.magnitude.exactRank = d.exactRank := by
  unfold decimal
  dsimp only
  split_ifs
  · exact exists_spells_positional d h
  · exact exists_spells_scientific l.plusSign d

/-- A finite magnitude is spelled by a numeral of its value. -/
theorem exists_spells_magnitude (l : Layout) (rank : Fin (topRank + 1)) :
    ∃ n : Numeral, n.negative = false ∧ n.Spells (l.magnitude rank) ∧
      n.magnitude.exactRank = rank := by
  unfold magnitude
  split_ifs with hr
  · obtain ⟨n, hn, hs, he⟩ := exists_spells_decimal l ⟨0, 0⟩ (Or.inr rfl)
    refine ⟨n, hn, hs, he.trans ?_⟩
    rw [← rank_eq_exactRank, Decimal.rank, if_pos rfl]
    exact Fin.ext hr.symm
  · obtain ⟨n, hn, hs, he⟩ := exists_spells_decimal l (shortest l.tie rank)
      (Or.inl (digits_shortest_ne_zero l.tie hr))
    exact ⟨n, hn, hs, he.trans (exactRank_shortest l.tie rank)⟩

/-- **Every layout spells a finite number as a numeral that reads back.** -/
theorem exists_spells (l : Layout) {x : Binary64} (hx : x.isFinite = true) :
    ∃ (n : Numeral) (cs : List Char), n.Spells cs ∧ n.toBinary64 = x ∧
      l.text x = withSign n.negative cs := by
  cases x with
  | nan => cases hx
  | signed s r =>
    obtain ⟨n, -, ⟨hw, hf, ht⟩, he⟩ := exists_spells_magnitude l r
    refine ⟨{ n with negative := s }, l.magnitude r, ⟨hw, hf, ht⟩, ?_, ?_⟩
    · rw [Numeral.toBinary64, toBinary64, rank_eq_exactRank]
      exact congrArg _ he
    · rw [isFinite, decide_eq_true_eq] at hx
      rw [text, if_neg hx.ne]
      rfl

/-- A finite number is never written with digits alone. -/
theorem mem_text (l : Layout) {x : Binary64} (hx : x.isFinite = true) :
    '.' ∈ l.text x ∨ 'e' ∈ l.text x := by
  cases x with
  | nan => cases hx
  | signed s r =>
    have hdecimal : ∀ d : Decimal, '.' ∈ l.decimal d ∨ 'e' ∈ l.decimal d := by
      intro d
      unfold decimal
      dsimp only
      split_ifs
      · refine Or.inl ?_
        unfold positional
        dsimp only
        split_ifs <;> simp
      · exact Or.inr (by simp [scientific])
    rw [isFinite, decide_eq_true_eq] at hx
    rw [text, if_neg hx.ne, magnitude]
    cases s with
    | false => exact hdecimal _
    | true => exact (hdecimal _).imp (List.mem_cons_of_mem _) (List.mem_cons_of_mem _)

end Layout

namespace Decimal.Numeral

open Binary64

/-- A sign is split off, and digits without one stay as they are. -/
theorem splitSign_append {sign digits : List Char} (hsign : sign ∈ [[], ['+'], ['-']])
    (hne : digits ≠ []) (hdigits : ∀ c ∈ digits, c.isDigit = true) (rest : List Char) :
    splitSign (sign ++ digits ++ rest) = (decide (sign = ['-']), digits ++ rest) := by
  simp only [List.mem_cons, List.not_mem_nil, or_false] at hsign
  obtain rfl | rfl | rfl := hsign
  · obtain ⟨c, cs, rfl⟩ := List.exists_cons_of_ne_nil hne
    have hc : c.isDigit = true := hdigits c List.mem_cons_self
    have hminus : c ≠ '-' := ne_of_isDigit hc rfl
    have hplus : c ≠ '+' := ne_of_isDigit hc rfl
    simp [splitSign, hminus, hplus]
  · rfl
  · rfl

section
variable {fraction tail : List Char} {e : Int}

theorem exponentPart?_of_isExponent (h : IsExponent e tail) : exponentPart? tail = some e := by
  cases h with
  | none => rfl
  | @some mark sign digits hmark hsign hne hdigits =>
    have hmark : mark = 'e' ∨ mark = 'E' := by simpa using hmark
    have hsplit := splitSign_append hsign hne hdigits []
    have hall : digits.all Char.isDigit = true := List.all_eq_true.mpr hdigits
    rw [List.append_nil, List.append_nil] at hsplit
    rw [exponentPart?, if_pos hmark, exponent?, hsplit]
    simp [hne, hall]

/-- Neither a digit nor a point stands at the front of an exponent. -/
theorem head?_of_isExponent (h : IsExponent e tail) {c : Char} (hc : tail.head? = some c) :
    c ≠ '.' ∧ c.isDigit = false := by
  cases h with
  | none => cases hc
  | some hmark =>
    obtain rfl := Option.some.inj hc
    fin_cases hmark <;> decide

/-- No digit stands at the front of a point and what follows it, or of an exponent. -/
theorem head?_pointed_append (h : ∀ c, tail.head? = some c → c.isDigit = false) {c : Char}
    (hc : (pointed fraction ++ tail).head? = some c) : c.isDigit = false := by
  cases fraction with
  | nil => exact h c hc
  | cons d ds =>
    obtain rfl := Option.some.inj hc
    rfl

theorem splitFraction_append (hfraction : ∀ c ∈ fraction, c.isDigit = true)
    (h : ∀ c, tail.head? = some c → c ≠ '.' ∧ c.isDigit = false) :
    splitFraction (pointed fraction ++ tail) = (fraction, tail) := by
  cases fraction with
  | nil =>
    cases tail with
    | nil => rfl
    | cons c cs => simp [pointed, splitFraction, (h c rfl).1]
  | cons d ds =>
    change splitFraction ('.' :: (d :: ds ++ tail)) = _
    rw [splitFraction, span_append hfraction fun c hc => (h c hc).2]

/-- **A numeral is read however it is spelled**, with or without a sign, a point or an exponent. -/
theorem ofChars?_append {sign whole : List Char} (hsign : sign ∈ [[], ['+'], ['-']])
    (hne : whole ≠ []) (hwhole : ∀ c ∈ whole, c.isDigit = true)
    (hfraction : ∀ c ∈ fraction, c.isDigit = true) (ht : IsExponent e tail) :
    ofChars? (sign ++ whole ++ (pointed fraction ++ tail)) =
      some ⟨decide (sign = ['-']), whole, fraction, e⟩ := by
  have hhead := fun c hc => head?_of_isExponent ht (c := c) hc
  have hsplit := splitSign_append hsign hne hwhole (pointed fraction ++ tail)
  have hspan : (whole ++ (pointed fraction ++ tail)).span Char.isDigit =
      (whole, pointed fraction ++ tail) :=
    span_append hwhole fun c hc => head?_pointed_append (fun c hc => (hhead c hc).2) hc
  have hpoint := splitFraction_append hfraction hhead
  unfold ofChars?
  simp only [hsplit, hspan, hpoint, exponentPart?_of_isExponent ht]
  simp [hne]

end

/-- Digits without a point and an exponent are the nearest number to the integer that they write. -/
theorem toBinary64_whole (negative : Bool) (digits : List Char) :
    toBinary64 ⟨negative, digits, [], 0⟩ =
      .signed negative (nearestRank (ofDigits digits * unit) 1) := by
  rw [toBinary64, Decimal.toBinary64, rank_eq_exactRank, magnitude, List.append_nil]
  change Binary64.signed _ (nearestRank (ofDigits digits * 1 * unit) 1) = _
  rw [Nat.mul_one]

/-- An integer is written with the digits of its magnitude behind its sign. -/
theorem toList_toString_int (i : Int) :
    (toString i).toList = withSign (decide (i < 0)) (Nat.toDigits 10 i.natAbs) := by
  rw [Int.toString_eq_repr, Int.repr_eq_if]
  split_ifs with hi
  · rw [Nat.toList_repr, decide_eq_false (by omega), show i.toNat = i.natAbs by omega]
    rfl
  · rw [String.toList_append, Nat.toList_repr, decide_eq_true (by omega),
      show (-i).toNat = i.natAbs by omega]
    rfl

end Decimal.Numeral
end ChartRender
