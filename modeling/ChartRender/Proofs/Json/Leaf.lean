import ChartRender.Json.Printer
import ChartRender.Json.Reader
import ChartRender.Proofs.Json.Number
/-!
# Numbers and strings in JSON texts

The reader takes from the front of a text exactly the number or the string that was written there. A
number is read back however it is spelled, as long as what follows cannot continue it
(`Json.number?_append`), and a string of any characters comes back from its quoted form
(`Json.stringBody?_escaped`).

Key definitions: `Json.Delimits`.
Key theorems: `Json.number?_append`, `Json.stringBody?_escaped`.
-/

namespace ChartRender.Json

open Decimal

/-! ### Numbers -/

/-- What may follow a document: the end, white space, or the punctuation of the array or object that
it stands in. -/
def Delimits (rest : List Char) : Prop :=
  ∀ c, rest.head? = some c → c ∈ [' ', '\n', '\t', '\r', ',', ']', '}']

theorem delimits_nil : Delimits [] := fun _ h => nomatch h

theorem delimits_cons {c : Char} (h : c ∈ [' ', '\n', '\t', '\r', ',', ']', '}'])
    (rest : List Char) : Delimits (c :: rest) := fun _ hd => Option.some.inj hd ▸ h

/-- What may follow a document neither continues its digits nor its number. -/
theorem Delimits.ends {rest : List Char} (h : Delimits rest) {c : Char}
    (hc : rest.head? = some c) : c.isDigit = false ∧ c ≠ '.' ∧ c ≠ 'e' ∧ c ≠ 'E' := by
  have hmem := h c hc
  fin_cases hmem <;> decide

section
variable {rest : List Char}

theorem whole?_append {whole : List Char} (hw : IsWhole whole)
    (hr : ∀ c, rest.head? = some c → c.isDigit = false) :
    whole? (whole ++ rest) = some (whole, rest) := by
  have hspan := span_append hw.digits hr
  unfold whole?
  split
  · -- a zero in front is all there is
    rename_i cs hcs
    have hh : (whole ++ rest).head? = whole.head? := List.head?_append_of_ne_nil whole hw.ne_nil
    obtain rfl : whole = ['0'] := hw.head (by rw [← hh, hcs, List.head?_cons])
    obtain rfl : rest = cs := List.cons.inj hcs |>.2
    cases hh : rest.head? with
    | none => rfl
    | some c => simp [hr c hh]
  · rw [hspan]
    simp [hw.ne_nil]

theorem fraction?_append {fraction : List Char} (hf : ∀ c ∈ fraction, c.isDigit = true)
    (hr : ∀ c, rest.head? = some c → c ≠ '.' ∧ c.isDigit = false) :
    fraction? (pointed fraction ++ rest) = some (fraction, rest) := by
  cases fraction with
  | nil =>
    change fraction? rest = _
    unfold fraction?
    split
    · exact absurd rfl (hr '.' rfl).1
    · rfl
  | cons d ds =>
    change fraction? ('.' :: (d :: ds ++ rest)) = _
    have hspan := span_append hf fun c hc => (hr c hc).2
    rw [fraction?, hspan]
    rfl

theorem exponent?_append {e : Int} {tail : List Char} (ht : IsExponent e tail)
    (hr : Delimits rest) : exponent? (tail ++ rest) = some (e, rest) := by
  cases ht with
  | none =>
    rw [List.nil_append]
    cases rest with
    | nil => rfl
    | cons c cs =>
      obtain ⟨-, -, he, hE⟩ := hr.ends rfl
      rw [exponent?, if_neg (by tauto)]
  | @some mark sign digits hmark hsign hne hdigits =>
    have hspan := span_append hdigits fun c hc => (hr.ends hc).1
    have hmark : mark = 'e' ∨ mark = 'E' := by simpa using hmark
    rw [List.cons_append, exponent?, if_pos hmark, Numeral.splitSign_append hsign hne hdigits]
    dsimp only
    rw [hspan, List.isEmpty_eq_false_iff.mpr hne, if_neg Bool.false_ne_true]
    simp only [decide_eq_true_eq]

/-- An exponent continues neither the digits in front of it nor ends them with a point. -/
theorem head?_exponent {e : Int} {tail : List Char} (ht : IsExponent e tail)
    (hr : Delimits rest) {c : Char} (hc : (tail ++ rest).head? = some c) :
    c ≠ '.' ∧ c.isDigit = false := by
  cases tail with
  | nil =>
    obtain ⟨hdigit, hpoint, -⟩ := hr.ends hc
    exact ⟨hpoint, hdigit⟩
  | cons d ds => exact Numeral.head?_of_isExponent ht hc

/-- The first character of a numeral is a digit or its sign. -/
theorem exists_cons_withSign {whole : List Char} (hw : IsWhole whole) (negative : Bool)
    (fraction tail : List Char) : ∃ c cs, withSign negative (whole ++ fraction ++ tail) = c :: cs ∧
      (c = '-' ∨ c.isDigit = true) := by
  obtain ⟨c, cs, rfl⟩ := List.exists_cons_of_ne_nil hw.ne_nil
  cases negative with
  | true => exact ⟨_, _, rfl, Or.inl rfl⟩
  | false => exact ⟨_, _, rfl, Or.inr (hw.digits c List.mem_cons_self)⟩

/-- What ends a number does so whatever else follows. -/
theorem endsNumber_append (hr : Delimits rest) : ∀ cs : List Char,
    endsNumber (cs ++ rest) = endsNumber cs
  | c :: cs => rfl
  | [] => by
    cases rest with
    | nil => rfl
    | cons c rest =>
      obtain ⟨-, hpoint, he, hE⟩ := hr.ends rfl
      simp [endsNumber, hpoint, he, hE]

/-- Digits that end a number are all of it. -/
theorem of_endsNumber {fraction tail : List Char} {e : Int} (ht : IsExponent e tail)
    (h : endsNumber (pointed fraction ++ tail) = true) : fraction = [] ∧ e = 0 ∧ tail = [] := by
  cases fraction with
  | cons c cs => cases h
  | nil =>
    cases ht with
    | none => exact ⟨rfl, rfl, rfl⟩
    | some hmark => fin_cases hmark <;> cases h

/-- **A numeral is read as the number that it spells**, up to what cannot continue it: as an integer
if there is neither a point nor an exponent. -/
theorem number?_append {n : Numeral} {tail : List Char} (hw : IsWhole n.whole)
    (hf : ∀ c ∈ n.fraction, c.isDigit = true) (ht : IsExponent n.exponent tail)
    (hn : n.toBinary64.isFinite = true) (hr : Delimits rest) :
    number? (withSign n.negative (n.whole ++ pointed n.fraction ++ tail) ++ rest) =
      some (.ofNumeral (endsNumber (pointed n.fraction ++ tail)) n, rest) := by
  have hwhole : whole? (n.whole ++ (pointed n.fraction ++ (tail ++ rest))) = _ :=
    whole?_append hw fun c hc =>
      Numeral.head?_pointed_append (fun c hc => (head?_exponent ht hr hc).2) hc
  have hfraction := fraction?_append hf fun c hc => head?_exponent ht hr hc
  have hexponent := exponent?_append ht hr
  have hbody : n.whole ++ pointed n.fraction ++ tail ++ rest =
      n.whole ++ (pointed n.fraction ++ (tail ++ rest)) := by simp
  have hends : endsNumber (pointed n.fraction ++ (tail ++ rest)) =
      endsNumber (pointed n.fraction ++ tail) := by
    rw [← List.append_assoc, endsNumber_append hr]
  obtain ⟨c, ds, hds⟩ := List.exists_cons_of_ne_nil hw.ne_nil
  have hc : c ≠ '-' := ne_of_isDigit (hw.digits c (hds ▸ List.mem_cons_self)) rfl
  rw [← JsonNumber.toBinary64_ofNumeral fun h => (of_endsNumber ht h).imp_right And.left] at hn
  obtain ⟨negative, whole, fraction, exponent⟩ := n
  dsimp only at *
  unfold number?
  cases negative with
  | true =>
    simp only [withSign, if_true, List.cons_append, hbody, hwhole, hfraction, hexponent, hends,
      Option.bind_eq_bind, Option.bind_some]
    exact if_pos hn
  | false =>
    split
    rename_i negative cs h
    split at h
    · rename_i hcs
      rw [hds] at hcs
      exact absurd (List.cons.inj hcs).1 hc
    · obtain ⟨rfl, rfl⟩ := Prod.mk.inj h
      simp only [withSign, Bool.false_eq_true, if_false, hbody, hwhole, hfraction, hexponent, hends,
        Option.bind_eq_bind, Option.bind_some]
      exact if_pos hn

end

/-! ### Strings -/

/-- The escape of a control character writes its number. -/
theorem unit?_control : ∀ n, n < 0x20 →
    unit? '0' '0' (Nat.digitChar (n / 16)) (Nat.digitChar (n % 16)) = some n := by
  decide

/-- A character that is neither special nor a control character stands for itself. -/
theorem stringBody?_plain {c : Char} (hq : c ≠ '"') (hb : c ≠ '\\') (hc : ¬c.toNat < 0x20)
    (rest : List Char) :
    stringBody? (c :: rest) = (stringBody? rest).map fun (s, rest) => (c :: s, rest) := by
  rw [stringBody?.eq_def]
  split
  · rename_i h
    exact absurd (List.cons.inj h).1 hq
  · rename_i h
    exact absurd (List.cons.inj h).1 hb
  · rename_i h
    exact absurd (List.cons.inj h).1 hb
  · rename_i h
    obtain ⟨rfl, rfl⟩ := List.cons.inj h
    rw [if_neg (by tauto)]
  · rename_i h
    cases h

/-- **A character is read as it was written.** -/
theorem stringBody?_escaped (c : Char) (rest : List Char) : stringBody? (escaped c ++ rest) =
    (stringBody? rest).map fun (s, rest) => (c :: s, rest) := by
  unfold escaped
  split
  iterate 7 rfl
  rename_i hq hb _ _ _ _ _
  split_ifs with hc
  · have hu := unit?_control c.toNat hc
    have hhigh : isHighHalf c.toNat = false := by
      simp [isHighHalf]
      omega
    have hlow : isLowHalf c.toNat = false := by
      simp [isLowHalf]
      omega
    simp only [List.cons_append, List.nil_append, stringBody?, hu, hhigh, hlow,
      Bool.false_eq_true, if_false, Char.ofNat_toNat]
  · exact stringBody?_plain hq hb hc rest

/-- **A string of any characters is read back from its quoted form.** -/
theorem stringBody?_append (s rest : List Char) :
    stringBody? (s.flatMap escaped ++ '"' :: rest) = some (s, rest) := by
  induction s with
  | nil => rfl
  | cons c s ih => rw [List.flatMap_cons, List.append_assoc, stringBody?_escaped, ih]; rfl

end ChartRender.Json
