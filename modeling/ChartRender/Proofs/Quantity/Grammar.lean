import ChartRender.Proofs.Quantity.Reading
/-!
# The grammar of quantities

The texts that are accepted as quantities form a regular language, which is put together here without
the reader: digits, at most one more of them behind a point, and at most one of eleven units. A unit
of two letters may start with one of a single letter; since nothing may stand behind the unit, that
does not matter.

Key definitions: `Quantity.grammar`.
Key theorems: `Quantity.mem_grammar_iff_spells`, `Quantity.validate_grammar`.
-/

namespace ChartRender
namespace Quantity

open Decimal (pointed)
open scoped Computability

/-! ### The language -/

/-- A digit from 0 to 9. -/
def digit : Language Char := {w | ∃ c, '0' ≤ c ∧ c ≤ '9' ∧ w = [c]}

/-- The letters of the units. -/
def unitTexts : List String := ["k", "m", "M", "G", "T", "P", "Ki", "Mi", "Gi", "Ti", "Pi"]

/-- The letters of one unit. -/
def unitText : Language Char := {w | String.ofList w ∈ unitTexts}

/-- One or more digits, then perhaps a point and exactly one digit, then perhaps a unit. -/
def grammar : Language Char := digit * digit∗ * (1 + {['.']} * digit) * (1 + unitText)

theorem mem_digit {w : List Char} : w ∈ digit ↔ ∃ c, c.isDigit = true ∧ w = [c] := by
  have hdigit : ∀ c : Char, c.isDigit = true ↔ '0' ≤ c ∧ c ≤ '9' := fun c => by
    rw [Char.isDigit, Bool.and_eq_true, decide_eq_true_eq, decide_eq_true_eq]
    rfl
  constructor
  · rintro ⟨c, h0, h9, rfl⟩
    exact ⟨c, (hdigit c).mpr ⟨h0, h9⟩, rfl⟩
  · rintro ⟨c, hc, rfl⟩
    exact ⟨c, ((hdigit c).mp hc).1, ((hdigit c).mp hc).2, rfl⟩

theorem mem_kstar_digit {w : List Char} : w ∈ digit∗ ↔ ∀ c ∈ w, c.isDigit = true := by
  constructor
  · intro h c hc
    obtain ⟨pieces, rfl, hp⟩ := Language.mem_kstar.mp h
    obtain ⟨piece, hpiece, hc⟩ := List.mem_flatten.mp hc
    obtain ⟨d, hd, rfl⟩ := mem_digit.mp (hp piece hpiece)
    rwa [List.mem_singleton.mp hc]
  · intro h
    refine Language.mem_kstar.mpr ⟨w.map fun c => [c], (List.flatMap_singleton' w).symm, ?_⟩
    exact List.forall_mem_map.mpr fun c hc => mem_digit.mpr ⟨c, h c hc, rfl⟩

/-- Digits, one at least. -/
theorem mem_digits {w : List Char} :
    w ∈ digit * digit∗ ↔ w ≠ [] ∧ ∀ c ∈ w, c.isDigit = true := by
  rw [Language.mem_mul]
  constructor
  · rintro ⟨first, hfirst, rest, hrest, rfl⟩
    obtain ⟨c, hc, rfl⟩ := mem_digit.mp hfirst
    exact ⟨by simp, List.forall_mem_cons.mpr ⟨hc, mem_kstar_digit.mp hrest⟩⟩
  · rintro ⟨hne, hd⟩
    obtain ⟨c, rest, rfl⟩ := List.exists_cons_of_ne_nil hne
    rw [List.forall_mem_cons] at hd
    exact ⟨[c], mem_digit.mpr ⟨c, hd.1, rfl⟩, rest, mem_kstar_digit.mpr hd.2, rfl⟩

theorem mem_fraction {w : List Char} : w ∈ (1 + {['.']} * digit : Language Char) ↔
    ∃ fraction : List Char, fraction.length ≤ 1 ∧ (∀ c ∈ fraction, c.isDigit = true) ∧
      w = pointed fraction := by
  rw [Language.mem_add, Language.mem_one, Language.mem_mul]
  constructor
  · rintro (rfl | ⟨point, rfl, last, hlast, rfl⟩)
    · exact ⟨[], by simp, by simp, rfl⟩
    · obtain ⟨c, hc, rfl⟩ := mem_digit.mp hlast
      exact ⟨[c], by simp, by simpa using hc, rfl⟩
  · rintro ⟨fraction, hlen, hd, rfl⟩
    match fraction, hlen with
    | [], _ => exact .inl rfl
    | [c], _ => exact .inr ⟨['.'], rfl, [c], mem_digit.mpr ⟨c, hd c (by simp), rfl⟩, rfl⟩

theorem exists_unit_iff {letters : List Char} : letters ∈ (1 + unitText : Language Char) ↔
    ∃ u, Unit.ofText? (String.ofList letters) = some u := by
  have hnames : (Unit.names.map Prod.fst).Perm ("" :: unitTexts) := by decide
  calc letters ∈ (1 + unitText : Language Char)
      ↔ String.ofList letters = "" ∨ String.ofList letters ∈ unitTexts := by
        rw [Language.mem_add, Language.mem_one, String.ofList_eq_empty_iff]
        rfl
    _ ↔ ∃ p ∈ Unit.names, p.1 = String.ofList letters := by
        rw [← List.mem_cons, ← hnames.mem_iff, List.mem_map]
    _ ↔ ∃ u, Unit.ofText? (String.ofList letters) = some u := by
        rw [← Option.isSome_iff_exists, Unit.ofText?, List.lookup_isSome_iff]
        simp only [beq_iff_eq, @eq_comm _ (String.ofList letters)]

/-- **The words of the grammar are the spellings of quantities.** -/
theorem mem_grammar_iff_spells {cs : List Char} :
    cs ∈ grammar ↔ ∃ whole fraction letters u, Spells cs whole fraction letters u := by
  unfold grammar
  constructor
  · intro h
    obtain ⟨mantissa, hm, letters, hl, rfl⟩ := Language.mem_mul.mp h
    obtain ⟨whole, hw, point, hp, rfl⟩ := Language.mem_mul.mp hm
    obtain ⟨hne, hwhole⟩ := mem_digits.mp hw
    obtain ⟨fraction, hlen, hfraction, rfl⟩ := mem_fraction.mp hp
    obtain ⟨u, hu⟩ := exists_unit_iff.mp hl
    exact ⟨whole, fraction, letters, u, rfl, hne, hwhole, hfraction, hlen, hu⟩
  · rintro ⟨whole, fraction, letters, u, h⟩
    rw [h.eq]
    refine Language.append_mem_mul (Language.append_mem_mul ?_ ?_) ?_
    · exact mem_digits.mpr ⟨h.whole_ne_nil, h.whole_digits⟩
    · exact mem_fraction.mpr ⟨fraction, h.fraction_length, h.fraction_digits, rfl⟩
    · exact exists_unit_iff.mpr ⟨u, h.unit⟩

theorem isWellFormed_iff_mem_grammar {text : String} :
    isWellFormed text = true ↔ text.toList ∈ grammar :=
  isWellFormed_iff.trans mem_grammar_iff_spells.symm

/-! ### What the grammar leaves out -/

/-- Characters that no quantity has: blanks and line ends, all that is not ASCII, signs, and the
letter in front of an exponent. -/
def IsForeign (c : Char) : Prop := c.isWhitespace = true ∨ 127 < c.toNat ∨ c ∈ ['+', '-', 'e', 'E']

instance : DecidablePred IsForeign := fun _ => inferInstanceAs (Decidable (_ ∨ _ ∨ _))

theorem not_isForeign_of_isDigit {c : Char} (h : c.isDigit = true) : ¬ IsForeign c := by
  have h9 : c.toNat ≤ 57 := (Char.isDigit_iff_toNat.mp h).2
  rintro (hw | hl | hm)
  · simp only [Char.isWhitespace, Bool.or_eq_true, decide_eq_true_eq] at hw
    rcases hw with ((rfl | rfl) | rfl) | rfl <;> exact absurd h (by decide)
  · omega
  · have hno : (['+', '-', 'e', 'E'].all fun c => !c.isDigit) = true := by decide
    simpa [h] using List.all_eq_true.mp hno c hm

theorem IsSpelled.not_isForeign {text : String} (h : IsSpelled text) :
    ∀ c ∈ text.toList, ¬ IsForeign c := by
  intro c hc
  rcases h.chars c hc with hd | hu
  · exact not_isForeign_of_isDigit hd
  · have hno : (('.' :: Unit.letters).all fun c => !decide (IsForeign c)) = true := by decide
    simpa using List.all_eq_true.mp hno c hu

/-- **Accepted are exactly the words of the grammar.** -/
theorem validate_grammar (v : Value) :
    (∀ w, validate v = .ok w ↔ w = v ∧ ∃ text, v = .string text ∧ text.toList ∈ grammar) ∧
    (∀ text, v = .string text → text.toList ∉ grammar → validate v = .error (.quantityFormat text)) ∧
    ((∀ text, v ≠ .string text) → validate v = .error (.quantityType "string" v.kindName)) ∧
    ∀ text, v = .string text → (∃ c ∈ text.toList, IsForeign c) → text.toList ∉ grammar := by
  refine ⟨fun w => ?_, ?_, ?_, ?_⟩
  · constructor
    · intro h
      cases v with
      | string text =>
        obtain ⟨rfl, hs⟩ := validate_eq_ok_iff.mp h
        exact ⟨rfl, text, rfl, mem_grammar_iff_spells.mpr hs⟩
      | _ => cases h
    · rintro ⟨rfl, text, rfl, h⟩
      exact validate_eq_ok_iff.mpr ⟨rfl, mem_grammar_iff_spells.mp h⟩
  · rintro text rfl h
    rw [validate_string, if_neg fun hw => h (isWellFormed_iff_mem_grammar.mp hw)]
  · intro h
    cases v with
    | string text => exact absurd rfl (h text)
    | _ => rfl
  · rintro text - ⟨c, hc, hf⟩
    exact fun h => IsSpelled.not_isForeign (mem_grammar_iff_spells.mp h) c hc hf

/-- A unit of two letters is taken whole; a line end behind it is refused, and so is a number. -/
theorem validate_grammar_kibi : "1.5Ki".toList ∈ grammar ∧
    validate (.string "1.5Ki\n") = .error (.quantityFormat "1.5Ki\n") ∧
    validate (.number .zero) = .error (.quantityType "string" "float64") := by
  have hok : validate (.string "1.5Ki") = .ok (.string "1.5Ki") := by decide +kernel
  obtain ⟨-, text, ht, hmem⟩ := ((validate_grammar (.string "1.5Ki")).1 _).mp hok
  obtain rfl := Value.string.inj ht
  obtain ⟨-, hrefused, -, hforeign⟩ := validate_grammar (.string "1.5Ki\n")
  have hline : ∃ c ∈ "1.5Ki\n".toList, IsForeign c := ⟨'\n', by decide, by decide⟩
  exact ⟨hmem, hrefused _ rfl (hforeign _ rfl hline),
    (validate_grammar (.number .zero)).2.2.1 nofun⟩

end Quantity
end ChartRender
