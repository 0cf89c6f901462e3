import ChartRender.Command.Call
import ChartRender.Proofs.Builtin.Congruence
import ChartRender.Proofs.Json.RoundTrip
/-!
# Simplified values

A value is simplified to be printed: numbers that are 64-bit integers become integers, and keys are
sorted. That changes nothing of what the value stands for (`Value.canonical_simplified`), nothing is
nested deeper afterwards, and so the text of the simplified value is read as a value that is equal to
the one before, if no key stands twice in it and all its numbers are finite
(`Value.parse?_simplified`). Only null is written as null then (`Value.eq_null_of_toJson`).

Key theorems: `Value.canonical_simplified`, `Value.depth_simplified_le`, `Value.parse?_simplified`,
`Value.eq_null_of_toJson`.
-/

namespace ChartRender
namespace Value

theorem simplifiedAll_eq_map : ∀ items : List Value, simplifiedAll items = items.map simplified
  | [] => rfl
  | v :: rest => by rw [simplifiedAll, simplifiedAll_eq_map rest, List.map_cons]

theorem simplifiedFields_eq_mapValues : ∀ fields : Fields,
    simplifiedFields fields = Fields.mapValues simplified fields
  | [] => rfl
  | (k, v) :: rest => by
    rw [simplifiedFields, simplifiedFields_eq_mapValues rest, Fields.mapValues_cons]

theorem simplified_list (items : List Value) :
    simplified (.list items) = .list (items.map simplified) := by
  rw [simplified, simplifiedAll_eq_map]

theorem simplified_map (fields : Fields) :
    simplified (.map fields) = .map (Fields.sorted (Fields.mapValues simplified fields)) := by
  rw [simplified, simplifiedFields_eq_mapValues]

/-- A number that is an integer is the same as that integer. -/
theorem canonical_of_toInt64? {x : Binary64} {i : Int64} (h : x.toInt64? = some i) :
    canonical (.int i) = canonical (.number x) := by
  obtain ⟨hx, hi⟩ := Binary64.toInt64?_eq_some h
  have hf : x.isFinite = true := by
    cases x with
    | nan => cases hx
    | signed s r => exact (Bool.and_eq_true_iff.mp hx).1
  rw [canonical_number hf, canonical, Binary64.ofInt64, hi, Binary64.ofInt_truncate hx]

/-- **To simplify a value changes nothing of its canonical value.** -/
theorem canonical_simplified (v : Value) : v.simplified.canonical = v.canonical := by
  induction v using Value.induction with
  | null => rfl
  | bool b => rfl
  | number x =>
    rw [simplified]
    cases h : x.toInt64? with
    | none => rfl
    | some i => exact canonical_of_toInt64? h
  | int i => rfl
  | string s => rfl
  | list items ih =>
    rw [simplified_list, canonical_list, canonical_list, List.map_map]
    exact congrArg Value.list (List.map_congr_left ih)
  | map fields ih =>
    rw [simplified_map, canonical_map, canonical_map, Fields.mapValues_sorted, mapValues_mapValues,
      mapValues_congr ih, Fields.sorted_sorted]

theorem hasDistinctKeys_simplified (v : Value) : v.simplified.HasDistinctKeys := by
  induction v using Value.induction with
  | number x =>
    rw [simplified]
    cases x.toInt64? <;> simp
  | list items ih =>
    rw [simplified_list, hasDistinctKeys_list]
    simpa using ih
  | map fields ih =>
    rw [simplified_map]
    refine hasDistinctKeys_map_sorted fun p hp => ?_
    obtain ⟨q, hq, rfl⟩ := List.mem_map.mp hp
    exact ih q hq
  | _ => simp [simplified]

/-- **Nothing is nested deeper** in a simplified value. -/
theorem depth_simplified_le (v : Value) : v.simplified.depth ≤ v.depth := by
  induction v using Value.induction with
  | number x =>
    rw [simplified]
    cases x.toInt64? <;> simp [depth]
  | list items ih =>
    rw [simplified_list, depth, depth, Nat.add_le_add_iff_right, depthAll_le_iff]
    intro w hw
    obtain ⟨v, hv, rfl⟩ := List.mem_map.mp hw
    exact (ih v hv).trans (depthAll_le_iff.mp le_rfl v hv)
  | map fields ih =>
    rw [simplified_map, depth, depth, Nat.add_le_add_iff_right, depthFields_le_iff]
    intro p hp
    obtain ⟨q, hq, rfl⟩ := List.mem_map.mp (Fields.mem_of_mem_sorted hp)
    exact (ih q hq).trans (depthFields_le_iff.mp le_rfl q hq)
  | _ => exact le_rfl

/-! ### Reading back -/

/-- **The text of the simplified value is read as a value equal to the one before.** -/
theorem parse?_simplified {v : Value} (hd : v.depth ≤ 127) (hk : v.HasDistinctKeys)
    (hf : v.isFinite = true) :
    ∃ w, (Json.parse? v.simplified.toJson).map Json.toValue = some w ∧ w.equals v = true := by
  have hread := (reads _ (hasDistinctKeys_simplified v)).parse? ((depth_simplified_le v).trans hd)
  refine ⟨_, hread, ?_⟩
  have hdata : IsData v.simplified.asData := isData_asData (hasDistinctKeys_simplified v)
  -- Both are equal to the canonical value, which simplifying leaves as it is.
  have hcanonical : v.simplified.asData.equals v.canonical = true := by
    rw [equals_iff_canonical _ _ hdata (isData_canonical v), canonical_asData,
      canonical_simplified, canonical_canonical]
  exact equals_trans _ _ _ (isIntFree_of_isData _ hdata) hdata.distinct
    (hasDistinctKeys_canonical v) hk hcanonical ((canonical_equals_iff v hk).mpr hf)

theorem parse?_null : (Json.parse? "null").map Json.toValue = some .null := by decide

/-- What does not start like null is not null. -/
theorem toJson_ne_null {v : Value} {c : Char} {cs : List Char} (h : v.toJson.toList = c :: cs)
    (hc : c ≠ 'n') : v.toJson ≠ "null" := by
  intro hnull
  rw [hnull] at h
  exact hc (List.cons.inj h).1.symm

/-- **Nothing but null is written as null**, if all numbers are finite. -/
theorem eq_null_of_toJson {v : Value} (hk : v.HasDistinctKeys) (hf : v.isFinite = true)
    (h : v.simplified.toJson = "null") : v = .null := by
  have hleaf : v.depth = 0 → v = .null := by
    intro hd
    obtain ⟨w, hw, he⟩ := parse?_simplified (by omega) hk hf
    rw [h, parse?_null] at hw
    obtain rfl := Option.some.inj hw
    exact equals_null_iff.mp he
  cases v with
  | list items =>
    rw [simplified_list] at h
    exact absurd h (toJson_ne_null (toList_toJson_list _) (by decide))
  | map fields =>
    rw [simplified_map] at h
    exact absurd h (toJson_ne_null (toList_toJson_map _) (by decide))
  | _ => exact hleaf rfl

end Value
end ChartRender
