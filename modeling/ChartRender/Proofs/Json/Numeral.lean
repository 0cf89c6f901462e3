import ChartRender.Proofs.Decimal.Value
import ChartRender.Proofs.Json.Text
/-!
# Texts that are numbers

A JSON number may have a minus sign, digits of which the first is no needless zero, a point with
digits behind it, and an exponent (`Json.IsNumeral`). There are two readers for such a text: that of
documents, which takes nothing else for a number (`Json.exists_number?_iff`), and that of numbers,
which takes a good deal more. Both read the same number in it. As the reader of documents takes all
these texts and no others, whatever is proved of every `Json.IsNumeral` is proved of every number that
a document can hold.

Key definitions: `Json.IsNumeral`.
Key theorems: `Json.IsNumeral.parse?`, `Json.IsNumeral.ofText?`, `Json.isNumeral_of_number?`,
`Json.exists_number?_iff`.
-/

namespace ChartRender.Json

open Decimal

/-- How a JSON number is spelled. -/
structure IsNumeral (n : Numeral) (cs : List Char) : Prop where
  whole : IsWhole n.whole
  fraction : ∀ c ∈ n.fraction, c.isDigit = true
  eq : ∃ tail, IsExponent n.exponent tail ∧
    cs = withSign n.negative (n.whole ++ pointed n.fraction ++ tail)

/-- The digits of an integer behind its sign are a numeral of it. -/
theorem isNumeral_toString (z : ℤ) :
    IsNumeral ⟨decide (z < 0), Nat.toDigits 10 z.natAbs, [], 0⟩ (toString z).toList where
  whole := isWhole_toDigits z.natAbs
  fraction := by simp
  eq := by
    refine ⟨[], .none, ?_⟩
    rw [Numeral.toList_toString_int, pointed, List.append_nil, List.append_nil]

section
variable {n : Numeral} {cs : List Char}

/-- A numeral ends with a digit. -/
theorem IsNumeral.isDigit_of_getLast? (h : IsNumeral n cs) {c : Char}
    (hc : cs.getLast? = some c) : c.isDigit = true := by
  obtain ⟨tail, ht, rfl⟩ := h.eq
  have hne : n.whole ++ pointed n.fraction ++ tail ≠ [] := by simp [h.whole.ne_nil]
  have hsign : (withSign n.negative (n.whole ++ pointed n.fraction ++ tail)).getLast? =
      (n.whole ++ pointed n.fraction ++ tail).getLast? := by
    unfold withSign
    split_ifs
    · exact List.getLast?_append_of_ne_nil ['-'] hne
    · rfl
  rw [hsign] at hc
  generalize n.exponent = e at ht
  cases ht with
  | none =>
    rw [List.append_nil] at hc
    exact Decimal.isDigit_of_getLast? h.whole.digits h.fraction hc
  | @some mark sign digits hmark hsign hdigits hall =>
    rw [← List.singleton_append, ← List.append_assoc, ← List.append_assoc,
      List.getLast?_append_of_ne_nil _ hdigits] at hc
    exact hall c (List.mem_of_getLast? hc)

/-- **The reader of documents reads the number that a numeral spells**, if it is finite. -/
theorem IsNumeral.parse? {text : String} (h : IsNumeral n text.toList)
    (hn : n.toBinary64.isFinite = true) :
    (Json.parse? text).map toValue = some (.number n.toBinary64) := by
  obtain ⟨tail, ht, he⟩ := h.eq
  have htext := IsText.number maxDepth h.whole h.fraction ht hn
  have hnumber := JsonNumber.toBinary64_ofNumeral fun hends =>
    (of_endsNumber ht hends).imp_right And.left
  rw [parse?_of_isText htext isBlank_nil (by rw [he, List.append_nil]), Option.map_some, toValue,
    hnumber]

/-- **The reader of numbers reads it, too.** -/
theorem IsNumeral.ofText? {text : String} (h : IsNumeral n text.toList) :
    Binary64.ofText? text = some n.toBinary64 := by
  obtain ⟨tail, ht, he⟩ := h.eq
  have hread : Numeral.ofChars? text.toList = some n := by
    obtain ⟨negative, whole, fraction, exponent⟩ := n
    have hread : ∀ sign ∈ [[], ['+'], ['-']],
        Numeral.ofChars? (sign ++ whole ++ (pointed fraction ++ tail)) =
          some ⟨decide (sign = ['-']), whole, fraction, exponent⟩ := fun sign hsign =>
      Numeral.ofChars?_append hsign h.whole.ne_nil h.whole.digits h.fraction ht
    rw [he]
    cases negative with
    | false => simpa [withSign] using hread [] (by decide)
    | true => simpa [withSign] using hread ['-'] (by decide)
  rw [Binary64.ofText?, Binary64.ofChars?, hread]

end

/-! ### What is taken for a number -/

section
variable {cs rest : List Char}

theorem of_span {p : Char → Bool} {front back : List Char} (h : cs.span p = (front, back)) :
    (∀ c ∈ front, p c = true) ∧ cs = front ++ back := by
  rw [List.span_eq_takeWhile_dropWhile] at h
  obtain ⟨rfl, rfl⟩ := Prod.mk.inj h
  exact ⟨fun c hc => List.mem_takeWhile_imp hc, List.takeWhile_append_dropWhile.symm⟩

theorem isWhole_of_whole? {whole : List Char} (h : whole? cs = some (whole, rest)) :
    IsWhole whole ∧ cs = whole ++ rest := by
  unfold whole? at h
  split at h
  · split_ifs at h
    obtain ⟨rfl, rfl⟩ := Prod.mk.inj (Option.some.inj h)
    exact ⟨isWhole_toDigits 0, rfl⟩
  · rename_i hzero
    cases hspan : cs.span Char.isDigit with
    | mk digits back =>
      rw [hspan] at h
      dsimp only at h
      split_ifs at h with hempty
      obtain ⟨rfl, rfl⟩ := Prod.mk.inj (Option.some.inj h)
      obtain ⟨hdigits, rfl⟩ := of_span hspan
      refine ⟨⟨by simpa using hempty, hdigits, fun hhead => ?_⟩, rfl⟩
      obtain ⟨ds, rfl⟩ := List.head?_eq_some_iff.mp hhead
      exact (hzero _ rfl).elim

theorem pointed_of_fraction? {fraction : List Char} (h : fraction? cs = some (fraction, rest)) :
    (∀ c ∈ fraction, c.isDigit = true) ∧ cs = pointed fraction ++ rest := by
  unfold fraction? at h
  split at h
  · rename_i ds
    cases hspan : ds.span Char.isDigit with
    | mk digits back =>
      rw [hspan] at h
      dsimp only at h
      split_ifs at h with hempty
      obtain ⟨rfl, rfl⟩ := Prod.mk.inj (Option.some.inj h)
      obtain ⟨hdigits, rfl⟩ := of_span hspan
      rw [pointed_of_ne_nil (by simpa using hempty)]
      exact ⟨hdigits, rfl⟩
  · obtain ⟨rfl, rfl⟩ := Prod.mk.inj (Option.some.inj h)
    exact ⟨by simp, rfl⟩

/-- What is left behind a sign follows one, or there is none. -/
theorem exists_sign (cs : List Char) : ∃ sign body, sign ∈ [[], ['+'], ['-']] ∧
    Numeral.splitSign cs = (decide (sign = ['-']), body) ∧ cs = sign ++ body := by
  unfold Numeral.splitSign
  split
  · exact ⟨['-'], _, by simp, rfl, rfl⟩
  · exact ⟨['+'], _, by simp, rfl, rfl⟩
  · exact ⟨[], _, by simp, rfl, rfl⟩

theorem isExponent_of_exponent? {e : Int} (h : exponent? cs = some (e, rest)) :
    ∃ tail, IsExponent e tail ∧ cs = tail ++ rest := by
  unfold exponent? at h
  split at h
  · rename_i mark ds
    split_ifs at h with hmark
    · obtain ⟨sign, body, hsign, hsplit, rfl⟩ := exists_sign ds
      cases hspan : body.span Char.isDigit with
      | mk digits back =>
        rw [hsplit] at h
        dsimp only at h
        rw [hspan] at h
        dsimp only at h
        by_cases hempty : digits.isEmpty = true
        · rw [if_pos hempty] at h
          cases h
        · rw [if_neg hempty] at h
          obtain ⟨rfl, rfl⟩ := Prod.mk.inj (Option.some.inj h)
          obtain ⟨hdigits, rfl⟩ := of_span hspan
          have hmark : mark ∈ ['e', 'E'] := by simpa using hmark
          have hne : digits ≠ [] := by simpa using hempty
          refine ⟨mark :: (sign ++ digits), ?_, by simp⟩
          simpa only [decide_eq_true_eq] using IsExponent.some hmark hsign hne hdigits
    · obtain ⟨rfl, rfl⟩ := Prod.mk.inj (Option.some.inj h)
      exact ⟨[], .none, rfl⟩
  · obtain ⟨rfl, rfl⟩ := Prod.mk.inj (Option.some.inj h)
    exact ⟨[], .none, rfl⟩

theorem endsNumber_of_append (h : endsNumber (cs ++ rest) = true) : endsNumber cs = true := by
  cases cs with
  | nil => rfl
  | cons c cs => exact h

/-- **What the reader takes for a number is a numeral**, and the number is what it spells. -/
theorem isNumeral_of_number? {m : JsonNumber} (h : number? cs = some (m, rest)) :
    ∃ n front, IsNumeral n front ∧ n.toBinary64.isFinite = true ∧
      m.toBinary64 = n.toBinary64 ∧ cs = front ++ rest := by
  unfold number? at h
  split at h
  rename_i negative body hbody
  have hcs : cs = withSign negative body := by
    split at hbody
    · obtain ⟨rfl, rfl⟩ := Prod.mk.inj hbody
      rfl
    · obtain ⟨rfl, rfl⟩ := Prod.mk.inj hbody
      rfl
  simp only [Option.bind_eq_bind, Option.bind_eq_some_iff] at h
  obtain ⟨⟨whole, r⟩, hwhole, ⟨fraction, r'⟩, hfraction, ⟨e, r''⟩, hexponent, h⟩ := h
  obtain ⟨hw, rfl⟩ := isWhole_of_whole? hwhole
  obtain ⟨hf, rfl⟩ := pointed_of_fraction? hfraction
  obtain ⟨tail, ht, rfl⟩ := isExponent_of_exponent? hexponent
  split_ifs at h with hfinite
  obtain ⟨rfl, rfl⟩ := Prod.mk.inj (Option.some.inj h)
  have hplain : endsNumber (pointed fraction ++ (tail ++ r'')) = true → fraction = [] ∧ e = 0 := by
    intro hends
    rw [← List.append_assoc] at hends
    exact (of_endsNumber ht (endsNumber_of_append hends)).imp_right And.left
  have hnumber := JsonNumber.toBinary64_ofNumeral (n := ⟨negative, whole, fraction, e⟩) hplain
  refine ⟨⟨negative, whole, fraction, e⟩, _, ⟨hw, hf, tail, ht, rfl⟩, hnumber ▸ hfinite, hnumber, ?_⟩
  rw [hcs]
  cases negative <;> simp [withSign]

/-- **The reader takes a text for a number exactly if it is a numeral** of a finite number: the
definition of a numeral leaves out no number of a document, and has none that cannot be read. -/
theorem exists_number?_iff : (∃ m, number? cs = some (m, [])) ↔
    ∃ n, IsNumeral n cs ∧ n.toBinary64.isFinite = true := by
  constructor
  · rintro ⟨m, hm⟩
    obtain ⟨n, front, hnumeral, hfinite, -, rfl⟩ := isNumeral_of_number? hm
    rw [List.append_nil]
    exact ⟨n, hnumeral, hfinite⟩
  · rintro ⟨n, hnumeral, hfinite⟩
    obtain ⟨tail, ht, rfl⟩ := hnumeral.eq
    have hread := number?_append hnumeral.whole hnumeral.fraction ht hfinite delimits_nil
    rw [List.append_nil] at hread
    exact ⟨_, hread⟩

end
end ChartRender.Json
