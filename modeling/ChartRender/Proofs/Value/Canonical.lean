import ChartRender.Proofs.Value.Equality
/-!
# Canonical values

Decoded data has no integers, and no numbers that are not finite; `Value.asData` makes such data of
any value. Of all values that are equal as data one is canonical: its keys are sorted, and its zeros
are positive (`Value.canonical`). Two pieces of data are equal exactly if they have the same
canonical value (`Value.equals_iff_canonical`), so that equality of data is an equivalence although
it is computed by counting fields on one side and looking them up on the other.

Key definitions: `Value.asData`, `Value.canonical`, `Value.IsData`.
Key theorems: `Value.canonical_canonical`, `Value.canonical_asData`, `Value.equals_iff_canonical`.
-/

namespace ChartRender
namespace Value

mutual

/-- The value as decoded data has it: an integer is a number, and what is not finite is null. -/
def asData : Value → Value
  | .null => .null
  | .bool b => .bool b
  | .number x => if x.isFinite then .number x else .null
  | .int i => .number (.ofInt64 i)
  | .string s => .string s
  | .list items => .list (asDataAll items)
  | .map fields => .map (asDataFields fields)

/-- The values as decoded data has them. -/
def asDataAll : List Value → List Value
  | [] => []
  | v :: rest => asData v :: asDataAll rest

/-- The fields as decoded data has them. -/
def asDataFields : List (String × Value) → List (String × Value)
  | [] => []
  | (key, v) :: rest => (key, asData v) :: asDataFields rest

end

mutual

/-- The data that stands for all values equal to it: keys are sorted, and zeros positive. -/
def canonical : Value → Value
  | .null => .null
  | .bool b => .bool b
  | .number x => if x.isFinite then .number x.dropZeroSign else .null
  | .int i => .number (.ofInt64 i)
  | .string s => .string s
  | .list items => .list (canonicalAll items)
  | .map fields => .map (Fields.sorted (canonicalFields fields))

/-- The canonical values of items. -/
def canonicalAll : List Value → List Value
  | [] => []
  | v :: rest => canonical v :: canonicalAll rest

/-- The fields with canonical values, in their old order. -/
def canonicalFields : List (String × Value) → List (String × Value)
  | [] => []
  | (key, v) :: rest => (key, canonical v) :: canonicalFields rest

end

theorem asDataAll_eq_map : ∀ items : List Value, asDataAll items = items.map asData
  | [] => rfl
  | v :: rest => by rw [asDataAll, asDataAll_eq_map rest, List.map_cons]

theorem asDataFields_eq_mapValues : ∀ fields : Fields,
    asDataFields fields = Fields.mapValues asData fields
  | [] => rfl
  | (k, v) :: rest => by rw [asDataFields, asDataFields_eq_mapValues rest, Fields.mapValues_cons]

theorem canonicalAll_eq_map : ∀ items : List Value, canonicalAll items = items.map canonical
  | [] => rfl
  | v :: rest => by rw [canonicalAll, canonicalAll_eq_map rest, List.map_cons]

theorem canonicalFields_eq_mapValues : ∀ fields : Fields,
    canonicalFields fields = Fields.mapValues canonical fields
  | [] => rfl
  | (k, v) :: rest => by
    rw [canonicalFields, canonicalFields_eq_mapValues rest, Fields.mapValues_cons]

theorem asData_list (items : List Value) : asData (.list items) = .list (items.map asData) := by
  rw [asData, asDataAll_eq_map]

theorem asData_map (fields : Fields) :
    asData (.map fields) = .map (Fields.mapValues asData fields) := by
  rw [asData, asDataFields_eq_mapValues]

theorem canonical_list (items : List Value) :
    canonical (.list items) = .list (items.map canonical) := by
  rw [canonical, canonicalAll_eq_map]

theorem canonical_map (fields : Fields) :
    canonical (.map fields) = .map (Fields.sorted (Fields.mapValues canonical fields)) := by
  rw [canonical, canonicalFields_eq_mapValues]

theorem canonical_number {x : Binary64} (h : x.isFinite = true) :
    canonical (.number x) = .number x.dropZeroSign := by
  rw [canonical, if_pos h]

/-- What two changes of values have in common on fields they have in common on the fields. -/
theorem mapValues_congr {f g : Value → Value} {fields : Fields} (h : ∀ p ∈ fields, f p.2 = g p.2) :
    Fields.mapValues f fields = Fields.mapValues g fields := by
  refine List.map_congr_left fun p hp => ?_
  rw [h p hp]

theorem mapValues_mapValues (f g : Value → Value) (fields : Fields) :
    Fields.mapValues f (Fields.mapValues g fields) = Fields.mapValues (f ∘ g) fields := by
  simp [Fields.mapValues, Function.comp_def]

/-! ### Canonical values -/

/-- **A canonical value is its own.** -/
theorem canonical_canonical (v : Value) : v.canonical.canonical = v.canonical := by
  induction v using Value.induction with
  | null => rfl
  | bool b => rfl
  | number x =>
    rw [canonical]
    split_ifs with h
    · rw [canonical, Binary64.isFinite_dropZeroSign, if_pos h, Binary64.dropZeroSign_dropZeroSign]
    · rfl
  | int i =>
    rw [canonical, canonical, if_pos (Binary64.isFinite_ofInt64 i), Binary64.ofInt64,
      Binary64.dropZeroSign_ofInt]
  | string s => rfl
  | list items ih =>
    rw [canonical_list, canonical_list, List.map_map]
    exact congrArg Value.list (List.map_congr_left ih)
  | map fields ih =>
    rw [canonical_map, canonical_map, Fields.mapValues_sorted, mapValues_mapValues,
      mapValues_congr ih, Fields.sorted_sorted]

/-- **To make data of a value changes nothing of its canonical value.** -/
theorem canonical_asData (v : Value) : v.asData.canonical = v.canonical := by
  induction v using Value.induction with
  | null => rfl
  | bool b => rfl
  | number x =>
    rw [asData, canonical]
    split_ifs with h
    · rw [canonical, if_pos h]
    · rfl
  | int i =>
    rw [asData, canonical, canonical, if_pos (Binary64.isFinite_ofInt64 i), Binary64.ofInt64,
      Binary64.dropZeroSign_ofInt]
  | string s => rfl
  | list items ih =>
    rw [asData_list, canonical_list, canonical_list, List.map_map]
    exact congrArg Value.list (List.map_congr_left ih)
  | map fields ih =>
    rw [asData_map, canonical_map, canonical_map, mapValues_mapValues, mapValues_congr ih]

/-! ### Data -/

/-- Decoded data: it has no integers, no numbers that are not finite, and distinct keys. -/
structure IsData (v : Value) : Prop where
  asData_eq : v.asData = v
  distinct : v.HasDistinctKeys

theorem asData_asData (v : Value) : v.asData.asData = v.asData := by
  induction v using Value.induction with
  | null => rfl
  | bool b => rfl
  | number x =>
    rw [asData]
    split_ifs with h
    · rw [asData, if_pos h]
    · rfl
  | int i => rw [asData, asData, if_pos (Binary64.isFinite_ofInt64 i)]
  | string s => rfl
  | list items ih =>
    rw [asData_list, asData_list, List.map_map]
    exact congrArg Value.list (List.map_congr_left ih)
  | map fields ih =>
    rw [asData_map, asData_map, mapValues_mapValues, mapValues_congr ih]

theorem hasDistinctKeys_map_mapValues {f : Value → Value} {fields : Fields}
    (hd : (Fields.keys fields).Nodup) (h : ∀ p ∈ fields, (f p.2).HasDistinctKeys) :
    HasDistinctKeys (.map (Fields.mapValues f fields)) := by
  refine hasDistinctKeys_map.mpr ⟨by rwa [Fields.keys_mapValues], fun p hp => ?_⟩
  obtain ⟨q, hq, rfl⟩ := List.mem_map.mp hp
  exact h q hq

theorem hasDistinctKeys_asData (v : Value) : v.HasDistinctKeys → v.asData.HasDistinctKeys := by
  induction v using Value.induction with
  | null => exact id
  | bool b => exact id
  | number x =>
    intro _
    rw [asData]
    split_ifs <;> simp
  | int i => simp [asData]
  | string s => exact id
  | list items ih =>
    intro h
    rw [asData_list, hasDistinctKeys_list]
    rw [hasDistinctKeys_list] at h
    simpa using fun v hv => ih v hv (h v hv)
  | map fields ih =>
    intro h
    obtain ⟨hd, hv⟩ := hasDistinctKeys_map.mp h
    rw [asData_map]
    exact hasDistinctKeys_map_mapValues hd fun p hp => ih p hp (hv p hp)

theorem isData_asData {v : Value} (h : v.HasDistinctKeys) : IsData v.asData :=
  ⟨asData_asData v, hasDistinctKeys_asData v h⟩

theorem hasDistinctKeys_map_sorted {ps : List (String × Value)}
    (h : ∀ p ∈ ps, p.2.HasDistinctKeys) : HasDistinctKeys (.map (Fields.sorted ps)) :=
  hasDistinctKeys_map.mpr
    ⟨(Fields.ascending_sorted ps).nodup, fun p hp => h p (Fields.mem_of_mem_sorted hp)⟩

theorem asData_canonical (v : Value) : v.canonical.asData = v.canonical := by
  induction v using Value.induction with
  | null => rfl
  | bool b => rfl
  | number x =>
    rw [canonical]
    split_ifs with h
    · rw [asData, Binary64.isFinite_dropZeroSign, if_pos h]
    · rfl
  | int i => rw [canonical, asData, if_pos (Binary64.isFinite_ofInt64 i)]
  | string s => rfl
  | list items ih =>
    rw [canonical_list, asData_list, List.map_map]
    exact congrArg Value.list (List.map_congr_left ih)
  | map fields ih =>
    rw [canonical_map, asData_map, Fields.mapValues_sorted, mapValues_mapValues, mapValues_congr ih]

/-- Sorted keys are distinct, whatever the keys were before. -/
theorem hasDistinctKeys_canonical (v : Value) : v.canonical.HasDistinctKeys := by
  induction v using Value.induction with
  | null => simp [canonical]
  | bool b => simp [canonical]
  | number x =>
    rw [canonical]
    split_ifs <;> simp
  | int i => simp [canonical]
  | string s => simp [canonical]
  | list items ih =>
    rw [canonical_list, hasDistinctKeys_list]
    simpa using ih
  | map fields ih =>
    rw [canonical_map]
    refine hasDistinctKeys_map_sorted fun p hp => ?_
    obtain ⟨q, hq, rfl⟩ := List.mem_map.mp hp
    exact ih q hq

theorem isData_canonical (v : Value) : IsData v.canonical :=
  ⟨asData_canonical v, hasDistinctKeys_canonical v⟩

theorem IsData.isFinite {x : Binary64} (h : IsData (.number x)) : x.isFinite = true := by
  have := h.asData_eq
  rw [asData] at this
  split_ifs at this with hx
  exact hx

theorem not_isData_int (i : Int64) : ¬ IsData (.int i) := fun h => by
  have := h.asData_eq
  simp [asData] at this

theorem IsData.of_mem_list {items : List Value} (h : IsData (.list items)) {v : Value}
    (hv : v ∈ items) : IsData v := by
  have he := h.asData_eq
  rw [asData_list, Value.list.injEq] at he
  exact ⟨List.map_inj_left.mp (he.trans (List.map_id items).symm) v hv,
    hasDistinctKeys_list.mp h.distinct v hv⟩

theorem IsData.of_mem_map {fields : Fields} (h : IsData (.map fields)) {p : String × Value}
    (hp : p ∈ fields) : IsData p.2 := by
  have he := h.asData_eq
  rw [asData_map, Value.map.injEq] at he
  refine ⟨?_, (hasDistinctKeys_map.mp h.distinct).2 p hp⟩
  exact congrArg Prod.snd (List.map_inj_left.mp (he.trans (List.map_id fields).symm) p hp)

theorem IsData.of_get? {fields : Fields} (h : IsData (.map fields)) {key : String} {v : Value}
    (hv : Fields.get? fields key = some v) : IsData v :=
  h.of_mem_map (Fields.mem_of_get? hv)

/-! ### Equality -/

theorem canonical_number_of_beq {x y : Binary64} (h : (x == y) = true) :
    canonical (.number x) = canonical (.number y) := by
  have he := (Binary64.beq_iff.mp h).2
  have hf : x.isFinite = y.isFinite := by
    rw [← Binary64.isFinite_dropZeroSign, he, Binary64.isFinite_dropZeroSign]
  rw [canonical, canonical, he, hf]

theorem canonical_int (i : Int64) : canonical (.int i) = canonical (.number (.ofInt64 i)) := by
  rw [canonical_number (Binary64.isFinite_ofInt64 i), canonical, Binary64.ofInt64,
    Binary64.dropZeroSign_ofInt]

/-- Canonical maps are the same exactly if everything found in them is. -/
theorem canonical_map_eq_iff {fs gs : Fields} (hf : (Fields.keys fs).Nodup)
    (hg : (Fields.keys gs).Nodup) : canonical (.map fs) = canonical (.map gs) ↔
      ∀ k, Option.Rel (fun v w => v.canonical = w.canonical) (Fields.get? fs k)
        (Fields.get? gs k) := by
  have hget : ∀ {hs : Fields}, (Fields.keys hs).Nodup → ∀ k,
      Fields.get? (Fields.sorted (Fields.mapValues canonical hs)) k =
        (Fields.get? hs k).map canonical := fun hd k => by
    rw [Fields.get?_sorted (by rwa [Fields.keys_mapValues]), Fields.get?_mapValues]
  have hrel : ∀ {o o' : Option Value}, o.map canonical = o'.map canonical ↔
      Option.Rel (fun v w => v.canonical = w.canonical) o o' := by
    intro o o'
    cases o <;> cases o' <;> simp
  rw [canonical_map, canonical_map, Value.map.injEq]
  constructor
  · intro h k
    rw [← hrel, ← hget hf, h, hget hg]
  · intro h
    refine Fields.ext_ascending (Fields.ascending_sorted _) (Fields.ascending_sorted _) fun k => ?_
    rw [hget hf, hget hg, hrel.mpr (h k)]

theorem canonical_list_eq_iff {vs ws : List Value} : canonical (.list vs) = canonical (.list ws) ↔
    List.Forall₂ (fun v w => v.canonical = w.canonical) vs ws := by
  rw [canonical_list, canonical_list, Value.list.injEq, ← List.forall₂_eq_eq_eq,
    List.forall₂_map_left_iff, List.forall₂_map_right_iff]

/-- **Equal values have the same canonical value.** -/
theorem canonical_eq_of_equals (v : Value) : ∀ w : Value, v.HasDistinctKeys →
    w.HasDistinctKeys → v.equals w = true → v.canonical = w.canonical := by
  induction v using Value.induction with
  | null =>
    intro w _ _ h
    rw [equals_null_iff.mp h]
  | bool b =>
    intro w _ _ h
    rw [equals_bool_iff.mp h]
  | string s =>
    intro w _ _ h
    rw [equals_string_iff.mp h]
  | number x =>
    intro w _ _ h
    rcases equals_number_iff.mp h with ⟨y, rfl, he⟩ | ⟨i, rfl, he⟩
    · exact canonical_number_of_beq he
    · rw [canonical_int, canonical_number_of_beq he]
  | int i =>
    intro w _ _ h
    rcases equals_int_iff.mp h with rfl | ⟨y, rfl, he⟩
    · rfl
    · rw [canonical_int, canonical_number_of_beq he]
  | list vs ih =>
    intro w hv hw h
    obtain ⟨ws, rfl, hvw⟩ := equals_list_iff.mp h
    rw [hasDistinctKeys_list] at hv hw
    rw [List.forall₂_iff_zip] at hvw
    refine canonical_list_eq_iff.mpr (List.forall₂_iff_zip.mpr ⟨hvw.1, fun hm => ?_⟩)
    obtain ⟨hvm, hwm⟩ := List.of_mem_zip hm
    exact ih _ hvm _ (hv _ hvm) (hw _ hwm) (hvw.2 hm)
  | map fs ih =>
    intro w hv hw h
    obtain ⟨hf, hv⟩ := hasDistinctKeys_map.mp hv
    obtain ⟨gs, rfl, hfg⟩ := (equals_map_iff hf hw).mp h
    obtain ⟨hg, hw⟩ := hasDistinctKeys_map.mp hw
    refine (canonical_map_eq_iff hf hg).mpr fun k => rel_get?_iff.mpr ?_
    obtain ⟨hk, he⟩ := rel_get?_iff.mp (hfg k)
    refine ⟨hk, fun v w hfv hgw => ?_⟩
    have hvm := Fields.mem_of_get? hfv
    exact ih _ hvm w (hv _ hvm) (hw _ (Fields.mem_of_get? hgw)) (he v w hfv hgw)

theorem equals_of_canonical_eq (v : Value) : ∀ w : Value, IsData v → IsData w →
    v.canonical = w.canonical → v.equals w = true := by
  induction v using Value.induction with
  | null =>
    intro w _ hw h
    cases w with
    | null => rfl
    | number y => simp [canonical, hw.isFinite] at h
    | _ => simp [canonical] at h
  | bool b =>
    intro w _ hw h
    cases w with
    | bool c => simpa [canonical, equals] using h
    | number y => simp [canonical, hw.isFinite] at h
    | _ => simp [canonical] at h
  | string s =>
    intro w _ hw h
    cases w with
    | string t => simpa [canonical, equals] using h
    | number y => simp [canonical, hw.isFinite] at h
    | _ => simp [canonical] at h
  | number x =>
    intro w hv hw h
    rw [canonical_number hv.isFinite] at h
    cases w with
    | number y =>
      rw [canonical_number hw.isFinite, Value.number.injEq] at h
      exact (Binary64.beq_iff_dropZeroSign hv.isFinite).mpr h
    | int i => exact absurd hw (not_isData_int i)
    | _ => simp [canonical] at h
  | int i =>
    intro w hv
    exact absurd hv (not_isData_int i)
  | list vs ih =>
    intro w hv hw h
    cases w with
    | list ws =>
      obtain ⟨hl, he⟩ := List.forall₂_iff_zip.mp (canonical_list_eq_iff.mp h)
      refine equals_list_iff.mpr ⟨ws, rfl, List.forall₂_iff_zip.mpr ⟨hl, fun hm => ?_⟩⟩
      obtain ⟨hvm, hwm⟩ := List.of_mem_zip hm
      exact ih _ hvm _ (hv.of_mem_list hvm) (hw.of_mem_list hwm) (he hm)
    | number y => simp [canonical, hw.isFinite] at h
    | _ => simp [canonical] at h
  | map fs ih =>
    intro w hv hw h
    cases w with
    | map gs =>
      have hf := (hasDistinctKeys_map.mp hv.distinct).1
      have hg := (hasDistinctKeys_map.mp hw.distinct).1
      refine (equals_map_iff hf hw.distinct).mpr ⟨gs, rfl, fun k => rel_get?_iff.mpr ?_⟩
      obtain ⟨hk, he⟩ := rel_get?_iff.mp ((canonical_map_eq_iff hf hg).mp h k)
      exact ⟨hk, fun v w hfv hgw =>
        ih _ (Fields.mem_of_get? hfv) w (hv.of_get? hfv) (hw.of_get? hgw) (he v w hfv hgw)⟩
    | number y => simp [canonical, hw.isFinite] at h
    | _ => simp [canonical] at h

/-- **Data is equal exactly if its canonical values are the same.** -/
theorem equals_iff_canonical (v w : Value) (hv : IsData v) (hw : IsData w) :
    v.equals w = true ↔ v.canonical = w.canonical :=
  ⟨canonical_eq_of_equals v w hv.distinct hw.distinct, equals_of_canonical_eq v w hv hw⟩

end Value
end ChartRender
