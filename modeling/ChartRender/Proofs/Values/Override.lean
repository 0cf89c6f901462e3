import ChartRender.Proofs.Result
import ChartRender.Proofs.Value.Overlay
import ChartRender.Values.Override
/-!
# Overrides as assignments

An override is read once, into a path and a value (`Values.assignment`), and then written. The
overrides of a command line are thus read one after the other, the first that cannot be read being
the error, and what they make out of nothing is the overlay of their assignments
(`Values.ofOverrides_eq`). What is read from values files and overrides has every hereditary property,
such as to have distinct keys.

Key definitions: `Values.assignment`, `Values.keyed`.
Key theorems: `Values.override_eq`, `Values.ofOverrides_eq`, `Values.hasDistinctKeys_of_ofFile`.
-/

namespace ChartRender

/-! ### What is read -/

namespace Value.Hereditary

variable {P : Value → Prop} (hP : Hereditary P)
include hP

theorem ofDocument {v : Value} (h : P v) : P (Values.ofDocument v) := by
  unfold Values.ofDocument
  split_ifs
  · exact hP.empty
  · exact h

theorem of_ofYaml {text : String} {v : Value} (h : Values.ofYaml text = .ok v) : P v := by
  unfold Values.ofYaml at h
  split at h
  · rename_i w hw
    obtain ⟨y, -, hy⟩ := Option.bind_eq_some_iff.mp hw
    obtain rfl : Values.ofDocument w = v := by simpa using h
    exact hP.ofDocument (hP.of_toValue? hy)
  · cases h

/-- **What an override stands for has what is hereditary**, even if it is a JSON document. -/
theorem ofOverrideText (text : String) : P (Values.ofOverrideText text) := by
  unfold Values.ofOverrideText
  split_ifs
  · exact hP.bool true
  · exact hP.bool false
  · exact hP.null
  · cases hn : Values.ofNumberText? text with
    | some v =>
      obtain ⟨x, -, rfl⟩ := Option.map_eq_some_iff.mp hn
      exact hP.number x
    | none =>
      cases hc : Values.ofCollectionText? text with
      | none => exact hP.string text
      | some v =>
        unfold Values.ofCollectionText? at hc
        split at hc
        · obtain ⟨j, -, rfl⟩ := Option.map_eq_some_iff.mp hc
          exact hP.toValue j
        · obtain ⟨j, -, rfl⟩ := Option.map_eq_some_iff.mp hc
          exact hP.toValue j
        · cases hc

end Value.Hereditary

namespace Values

theorem hasDistinctKeys_ofDocument {v : Value} (h : v.HasDistinctKeys) :
    (ofDocument v).HasDistinctKeys := Value.hereditary_hasDistinctKeys.ofDocument h

theorem hasDistinctKeys_of_ofYaml {text : String} {v : Value} (h : ofYaml text = .ok v) :
    v.HasDistinctKeys := Value.hereditary_hasDistinctKeys.of_ofYaml h

theorem hasDistinctKeys_of_ofFile {fs : FileSystem} {path : String} {v : Value}
    (h : ofFile fs path = .ok v) : v.HasDistinctKeys := by
  unfold ofFile at h
  split at h
  · cases h
  · split at h
    · cases h
    · rename_i w hw
      obtain rfl : w = v := by simpa using h
      exact hasDistinctKeys_of_ofYaml hw

/-! ### Assignments -/

/-- The dotted path and the value that an override writes. -/
def assignment (argument : String) : Except ValuesError (String × Value) :=
  match Text.splitFirst? '=' argument.toList with
  | none => .error (.missingEquals argument)
  | some (path, text) =>
    if (KeyPath.ofText (String.ofList path)).any (· == "") then
      .error (.invalidPath (String.ofList path))
    else .ok (String.ofList path, ofOverrideText (String.ofList text))

/-- An assignment by keys instead of a dotted path. -/
def keyed (a : String × Value) : KeyPath × Value := (KeyPath.ofText a.1, a.2)

/-- To apply an override is to read its assignment and to write it. -/
theorem override_eq (values : Value) (argument : String) : override values argument =
    (assignment argument).map fun a => values.set a.2 (KeyPath.ofText a.1) := by
  unfold override assignment
  cases Text.splitFirst? '=' argument.toList with
  | none => rfl
  | some p =>
    simp only [set]
    split_ifs <;> rfl

/-- An override that is read has an `=` behind a path without empty keys. -/
theorem eq_of_assignment {argument : String} {a : String × Value} (h : assignment argument = .ok a) :
    ∃ path text, Text.splitFirst? '=' argument.toList = some (path, text) ∧
      ¬ (KeyPath.ofText (String.ofList path)).any (· == "") ∧
      a = (String.ofList path, ofOverrideText (String.ofList text)) := by
  unfold assignment at h
  cases hs : Text.splitFirst? '=' argument.toList with
  | none => simp [hs] at h
  | some p =>
    simp only [hs] at h
    split_ifs at h with hk
    exact ⟨p.1, p.2, rfl, hk, (Except.ok.inj h).symm⟩

/-- The assignment of an override can be written to any values. -/
theorem set_of_assignment {argument : String} {a : String × Value}
    (h : assignment argument = .ok a) (values : Value) :
    set values a.1 a.2 = .ok (values.set a.2 (KeyPath.ofText a.1)) := by
  obtain ⟨path, text, -, hk, rfl⟩ := eq_of_assignment h
  exact if_neg hk

theorem hereditary_of_assignment {P : Value → Prop} (hP : Value.Hereditary P) {argument : String}
    {a : String × Value} (h : assignment argument = .ok a) : P a.2 := by
  obtain ⟨path, text, -, -, rfl⟩ := eq_of_assignment h
  exact hP.ofOverrideText _

theorem hasDistinctKeys_of_assignment {argument : String} {a : String × Value}
    (h : assignment argument = .ok a) : a.2.HasDistinctKeys :=
  hereditary_of_assignment Value.hereditary_hasDistinctKeys h

theorem foldlM_override : ∀ (arguments : List String) (values : Value),
    arguments.foldlM override values =
      (arguments.mapM assignment).map fun as => values.setAll (as.map keyed)
  | [], _ => rfl
  | argument :: rest, values => by
    rw [List.foldlM_cons, List.mapM_cons, override_eq]
    cases assignment argument with
    | error e => rfl
    | ok a =>
      change rest.foldlM override (values.set a.2 (KeyPath.ofText a.1)) = _
      rw [foldlM_override rest]
      cases rest.mapM assignment <;> rfl

/-- **Overrides make the overlay of their assignments**, or fail as the first that cannot be
read. -/
theorem ofOverrides_eq (arguments : List String) : ofOverrides arguments =
    (arguments.mapM assignment).map fun as => Value.empty.setAll (as.map keyed) :=
  foldlM_override arguments .empty

/-- Assignments that were read can be written one after the other to any values. -/
theorem foldlM_set : ∀ {arguments : List String} {as : List (String × Value)} (values : Value),
    arguments.mapM assignment = .ok as →
    as.foldlM (fun v a => set v a.1 a.2) values = .ok (values.setAll (as.map keyed))
  | [], as, values, h => by
    obtain rfl : [] = as := Except.ok.inj h
    rfl
  | argument :: rest, as, values, h => by
    obtain ⟨a, bs, ha, hbs, rfl⟩ := mapM_cons_ok h
    rw [List.foldlM_cons, set_of_assignment ha]
    exact foldlM_set (values.set a.2 (KeyPath.ofText a.1)) hbs

end Values
end ChartRender
