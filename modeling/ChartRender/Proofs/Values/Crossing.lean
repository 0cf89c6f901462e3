import ChartRender.Proofs.Result
import ChartRender.Proofs.Template.Exchange
import ChartRender.Proofs.Value.Finite
import ChartRender.Proofs.Values.Override
/-!
# Values of a document on their way to a builtin

The values of a YAML or JSON document enter a template as data, and reach a builtin by being read
back from it. They always arrive, and arrive equal to what they were, except for numbers that are
not finite, in whose place null arrives (`Values.arrives_iff_finite`). JSON has no such numbers, but
YAML has: `.inf` is a number for the template and null for the builtins that it calls
(`Values.infinity_arrives_null`).

Key theorems: `Values.arrives_iff_finite`, `Values.infinity_arrives_null`.
-/

namespace ChartRender
namespace Values

open Template (Datum)

/-! ### Decoded documents -/

theorem isNull_ofDocument (v : Value) : (ofDocument v).isNull = false := by
  rw [ofDocument]
  split
  · rfl
  · simpa using ‹¬ v.isNull = true›

theorem isNull_of_ofYaml {text : String} {v : Value} (h : ofYaml text = .ok v) :
    v.isNull = false := by
  rw [ofYaml] at h
  split at h
  · obtain rfl := Except.ok.inj h
    exact isNull_ofDocument _
  · cases h

/-- What a JSON text holds was read as a document. -/
theorem ofJson_eq_ok {text : String} {v : Value} (h : ofJson text = .ok v) :
    ∃ j, Json.parse? text = some j ∧ v = ofDocument j.toValue := by
  rw [ofJson] at h
  split at h
  · rename_i j hj
    exact ⟨j, hj, (Except.ok.inj h).symm⟩
  · cases h

theorem isFinite_of_ofJson {text : String} {v : Value} (h : ofJson text = .ok v) :
    v.isFinite = true := by
  obtain ⟨j, hj, rfl⟩ := ofJson_eq_ok h
  rw [ofDocument]
  split_ifs
  · rfl
  · exact Json.isFinite_of_parse? hj

/-- The values of a document are not null, and no map in them holds a key twice. -/
theorem decoded_facts {text : String} {v : Value}
    (h : ofYaml text = .ok v ∨ ofJson text = .ok v) :
    v.isNull = false ∧ v.HasDistinctKeys := by
  rcases h with h | h
  · exact ⟨isNull_of_ofYaml h, hasDistinctKeys_of_ofYaml h⟩
  · obtain ⟨j, -, rfl⟩ := ofJson_eq_ok h
    exact ⟨isNull_ofDocument _, hasDistinctKeys_ofDocument (Json.hasDistinctKeys_toValue j)⟩

/-! ### Arrival -/

/-- Only null and numbers that are not finite have null as their canonical value. -/
theorem isNull_canonical_iff {v : Value} (h : v.isNull = false) :
    v.canonical.isNull = true ↔ ∃ x, v = .number x ∧ x.isFinite = false := by
  cases v with
  | null => cases h
  | number x =>
    rw [Value.canonical]
    split_ifs with hx
    · simp [Value.isNull, hx]
    · simp [Value.isNull, hx]
  | list items => simp [Value.canonical_list, Value.isNull]
  | map fields => simp [Value.canonical_map, Value.isNull]
  | _ => simp [Value.canonical, Value.isNull]

/-- **The values of a document arrive unchanged exactly if all their numbers are finite**, as those
of every JSON document are. In any case they arrive equal to what they were with null in place of
each number that is not finite. -/
theorem arrives_iff_finite {text : String} {v : Value}
    (h : ofYaml text = .ok v ∨ ofJson text = .ok v) :
    ∃ w, (Datum.ofValue v).toValue = .ok w ∧ (w == v.asData) = true ∧
      ((w == v) = true ↔ v.isFinite = true) ∧
      (w.isNull = true ↔ ∃ x, v = .number x ∧ x.isFinite = false) ∧
      (ofJson text = .ok v → (w == v) = true) := by
  obtain ⟨hn, hd⟩ := decoded_facts h
  have hdata : v.canonical.equals v.asData = true := by
    refine (Value.equals_iff_canonical _ _ (Value.isData_canonical v) (Value.isData_asData hd)).mpr ?_
    rw [Value.canonical_canonical, Value.canonical_asData]
  refine ⟨v.canonical, Datum.toValue_ofValue v, hdata, Value.canonical_equals_iff v hd,
    isNull_canonical_iff hn, fun hj => ?_⟩
  exact (Value.canonical_equals_iff v hd).mpr (isFinite_of_ofJson hj)

/-- A document with finite numbers, a null and keys in no order arrives unchanged. -/
theorem arrives_iff_finite_image : ∃ v w,
    ofYaml "b: 1.5\na: [-0.0, null]\n" = .ok v ∧ v.isFinite = true ∧
      (Datum.ofValue v).toValue = .ok w ∧ (w == v) = true := by
  have hv : (ofYaml "b: 1.5\na: [-0.0, null]\n").toOption.map Value.isFinite = some true := by
    decide +kernel
  obtain ⟨v, h, hf⟩ := Option.map_eq_some_iff.mp hv
  have h := eq_ok_of_toOption h
  obtain ⟨w, hw, -, he, -⟩ := arrives_iff_finite (Or.inl h)
  exact ⟨v, w, h, hf, hw, he.mpr hf⟩

/-- An infinity that a YAML document holds under a key arrives as null, although it is not null and
is a number. -/
theorem infinity_arrives_null :
    (ofYaml "a: .inf\n").toOption = some (.map [("a", .number .infinity)]) ∧
    (Datum.ofValue (.map [("a", .number .infinity)])).toValue = .ok (.map [("a", .null)]) ∧
    ((.map [("a", .null)] : Value) == .map [("a", .number .infinity)]) = false ∧
    (ofYaml ".inf\n").toOption = some (.number .infinity) ∧
    (Datum.ofValue (.number .infinity)).toValue = .ok .null := by
  refine ⟨by decide +kernel, ?_, rfl, by decide +kernel, ?_⟩
  · exact Datum.toValue_ofValue _
  · exact Datum.toValue_ofValue _

end Values
end ChartRender
