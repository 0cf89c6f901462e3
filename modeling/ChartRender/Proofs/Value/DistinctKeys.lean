import ChartRender.Json.Basic
import ChartRender.Proofs.Value.Fields
import ChartRender.Yaml.Basic
/-!
# Distinct keys at every depth

Maps are lists of fields, so that a key could stand in one twice. No value that the library makes is
of that kind: the values of JSON and YAML documents have distinct keys in every map inside them
(`Value.HasDistinctKeys`), and operations on values keep that. Proofs about values go by
`Value.induction`, in which a list or a map inherits a property from what it holds.

Decoders make values of null, truth values, numbers and texts, and put these together to lists and to
maps of distinct keys. So whatever they make has every property that is passed on in this way
(`Value.Hereditary`). To have distinct keys is the weakest of them.

Key definitions: `Value.HasDistinctKeys`, `Value.Hereditary`.
Key theorems: `Value.induction`, `Value.Hereditary.toValue`, `Value.Hereditary.of_toValue?`,
`Json.hasDistinctKeys_toValue`, `Yaml.hasDistinctKeys_of_toValue?`.
-/

namespace ChartRender
namespace Value

/-! ### Induction -/

/-- Induction over values: lists and maps inherit a property from the values in them. -/
@[elab_as_elim]
theorem induction {P : Value → Prop} (null : P .null) (bool : ∀ b, P (.bool b))
    (number : ∀ x, P (.number x)) (int : ∀ i, P (.int i)) (string : ∀ s, P (.string s))
    (list : ∀ items, (∀ v ∈ items, P v) → P (.list items))
    (map : ∀ fields, (∀ p ∈ fields, P p.2) → P (.map fields)) (v : Value) : P v :=
  @Value.rec P (fun items => ∀ v ∈ items, P v) (fun fields => ∀ p ∈ fields, P p.2)
    (fun p => P p.2) null bool number int string list map
    (fun _ h => nomatch h)
    (fun _ _ hv hvs => List.forall_mem_cons.mpr ⟨hv, hvs⟩)
    (fun _ h => nomatch h)
    (fun _ _ hp hps => List.forall_mem_cons.mpr ⟨hp, hps⟩)
    (fun _ _ hv => hv) v

/-! ### Distinct keys -/

theorem allDistinctKeys_iff : ∀ {items : List Value},
    AllDistinctKeys items ↔ ∀ v ∈ items, v.HasDistinctKeys
  | [] => by simp [AllDistinctKeys]
  | v :: vs => by
    have ih : AllDistinctKeys vs ↔ ∀ v ∈ vs, v.HasDistinctKeys := allDistinctKeys_iff
    rw [AllDistinctKeys, ih, List.forall_mem_cons]

theorem fieldsDistinctKeys_iff : ∀ {fields : Fields},
    FieldsDistinctKeys fields ↔ ∀ p ∈ fields, p.2.HasDistinctKeys
  | [] => by simp [FieldsDistinctKeys]
  | (k, v) :: rest => by
    have ih : FieldsDistinctKeys rest ↔ ∀ p ∈ rest, p.2.HasDistinctKeys := fieldsDistinctKeys_iff
    rw [FieldsDistinctKeys, ih, List.forall_mem_cons]

@[simp] theorem hasDistinctKeys_null : HasDistinctKeys .null := trivial

@[simp] theorem hasDistinctKeys_bool (b : Bool) : HasDistinctKeys (.bool b) := trivial

@[simp] theorem hasDistinctKeys_number (x : Binary64) : HasDistinctKeys (.number x) := trivial

@[simp] theorem hasDistinctKeys_int (i : Int64) : HasDistinctKeys (.int i) := trivial

@[simp] theorem hasDistinctKeys_string (s : String) : HasDistinctKeys (.string s) := trivial

@[simp] theorem hasDistinctKeys_list {items : List Value} :
    HasDistinctKeys (.list items) ↔ ∀ v ∈ items, v.HasDistinctKeys := by
  rw [HasDistinctKeys, allDistinctKeys_iff]

@[simp] theorem hasDistinctKeys_map {fields : Fields} : HasDistinctKeys (.map fields) ↔
    (Fields.keys fields).Nodup ∧ ∀ p ∈ fields, p.2.HasDistinctKeys := by
  rw [HasDistinctKeys, fieldsDistinctKeys_iff]

theorem hasDistinctKeys_empty : empty.HasDistinctKeys := by simp [empty]

/-- The fields of a value with distinct keys have distinct keys themselves. -/
theorem HasDistinctKeys.nodup_fields {v : Value} (h : v.HasDistinctKeys) :
    (Fields.keys v.fields).Nodup := by
  cases v with
  | map fields => exact (hasDistinctKeys_map.mp h).1
  | _ => simp [fields]

theorem HasDistinctKeys.of_mem_fields {v : Value} (h : v.HasDistinctKeys) {p : String × Value}
    (hp : p ∈ v.fields) : p.2.HasDistinctKeys := by
  cases v with
  | map fields => exact (hasDistinctKeys_map.mp h).2 p hp
  | _ => simp [fields] at hp

theorem HasDistinctKeys.get?_fields {v w : Value} (h : v.HasDistinctKeys) {key : String}
    (hw : Fields.get? v.fields key = some w) : w.HasDistinctKeys :=
  h.of_mem_fields (Fields.mem_of_get? hw)

/-! ### Hereditary properties -/

/-- A property of null, truth values, numbers and texts that lists share with their elements, and
maps of distinct keys with what is in them. Integers may have it or not. -/
structure Hereditary (P : Value → Prop) : Prop where
  null : P .null
  bool : ∀ b, P (.bool b)
  number : ∀ x, P (.number x)
  string : ∀ s, P (.string s)
  list : ∀ {items}, P (.list items) ↔ ∀ v ∈ items, P v
  map : ∀ {fields}, P (.map fields) ↔ (Fields.keys fields).Nodup ∧ ∀ p ∈ fields, P p.2

theorem hereditary_hasDistinctKeys : Hereditary HasDistinctKeys where
  null := hasDistinctKeys_null
  bool := hasDistinctKeys_bool
  number := hasDistinctKeys_number
  string := hasDistinctKeys_string
  list := hasDistinctKeys_list
  map := hasDistinctKeys_map

namespace Hereditary

variable {P : Value → Prop} (hP : Hereditary P)
include hP

theorem empty : P .empty := hP.map.mpr (by simp)

theorem get?_fields {v w : Value} (h : P v) {key : String}
    (hw : Fields.get? v.fields key = some w) : P w := by
  cases v with
  | map fields => exact (hP.map.mp h).2 _ (Fields.mem_of_get? hw)
  | _ => cases hw

theorem map_fields {v : Value} (h : P v) : P (.map v.fields) := by
  cases v with
  | map fields => exact h
  | _ => exact hP.empty

theorem map_put {fields : Fields} {v : Value} (key : String) (h : P (.map fields)) (hv : P v) :
    P (.map (Fields.put fields key v)) := by
  obtain ⟨hk, h⟩ := hP.map.mp h
  refine hP.map.mpr ⟨Fields.nodup_put _ _ hk, fun p hp => ?_⟩
  rcases Fields.mem_put hp with rfl | hp
  · exact hv
  · exact h p hp

theorem map_ofPairs {ps : List (String × Value)} (h : ∀ p ∈ ps, P p.2) :
    P (.map (Fields.ofPairs ps)) :=
  hP.map.mpr ⟨Fields.nodup_ofPairs ps, fun p hp => h p (Fields.mem_of_mem_ofPairs hp)⟩

end Hereditary
end Value

/-! ### JSON documents -/

namespace Value.Hereditary

variable {P : Value → Prop}

mutual

theorem toValue (hP : Hereditary P) : ∀ j : Json, P j.toValue
  | .null => hP.null
  | .bool b => hP.bool b
  | .number n => hP.number n.toBinary64
  | .string s => hP.string s
  | .array items => hP.list.mpr (hP.toValues items)
  | .object members => hP.map_ofPairs (hP.toPairs members)

theorem toValues (hP : Hereditary P) : ∀ js : List Json, ∀ v ∈ Json.toValues js, P v
  | [] => by simp [Json.toValues]
  | j :: rest => List.forall_mem_cons.mpr ⟨hP.toValue j, hP.toValues rest⟩

theorem toPairs (hP : Hereditary P) :
    ∀ members : List (String × Json), ∀ p ∈ Json.toPairs members, P p.2
  | [] => by simp [Json.toPairs]
  | (_, j) :: rest => List.forall_mem_cons.mpr ⟨hP.toValue j, hP.toPairs rest⟩

end

end Value.Hereditary

theorem Json.hasDistinctKeys_toValue (j : Json) : j.toValue.HasDistinctKeys :=
  Value.hereditary_hasDistinctKeys.toValue j

/-! ### YAML documents -/

theorem Yaml.ofPlain?_cases {text : String} {v : Value} (h : Yaml.ofPlain? text = some v) :
    v = .null ∨ (∃ b, v = .bool b) ∨ (∃ x, v = .number x) ∨ ∃ s, v = .string s := by
  unfold Yaml.ofPlain? Yaml.ofInteger? at h
  grind

/-- A scalar stands for null, a boolean, a number or a text. -/
theorem Yaml.ofScalar?_cases {tag : Option String} {plain : Bool} {text : String} {v : Value}
    (h : Yaml.ofScalar? tag plain text = some v) :
    v = .null ∨ (∃ b, v = .bool b) ∨ (∃ x, v = .number x) ∨ ∃ s, v = .string s := by
  unfold Yaml.ofScalar? Yaml.ofInteger? at h
  grind [Yaml.ofPlain?_cases, Option.map_eq_some_iff, Option.bind_eq_some_iff]

namespace Value.Hereditary

variable {P : Value → Prop}

theorem of_ofScalar? (hP : Hereditary P) {tag : Option String} {plain : Bool} {text : String}
    {v : Value} (h : Yaml.ofScalar? tag plain text = some v) : P v := by
  rcases Yaml.ofScalar?_cases h with rfl | ⟨b, rfl⟩ | ⟨x, rfl⟩ | ⟨s, rfl⟩
  · exact hP.null
  · exact hP.bool b
  · exact hP.number x
  · exact hP.string s

mutual

theorem of_toValueAt? (hP : Hereditary P) : ∀ {y : Yaml} {depth : Nat} {v : Value},
    Yaml.toValueAt? depth y = some v → P v
  | .scalar tag plain text, depth, v, h => by
    rw [Yaml.toValueAt?] at h
    exact hP.of_ofScalar? h
  | .sequence tag items, depth, v, h => by
    cases depth with
    | zero => simp [Yaml.toValueAt?] at h
    | succ depth =>
      rw [Yaml.toValueAt?] at h
      split_ifs at h
      obtain ⟨vs, hvs, rfl⟩ := Option.map_eq_some_iff.mp h
      exact hP.list.mpr (hP.of_toValuesAt? hvs)
  | .mapping tag entries, depth, v, h => by
    cases depth with
    | zero => simp [Yaml.toValueAt?] at h
    | succ depth =>
      rw [Yaml.toValueAt?] at h
      split_ifs at h
      obtain ⟨ps, hps, rfl⟩ := Option.map_eq_some_iff.mp h
      exact hP.map_ofPairs (hP.of_toPairsAt? hps)

theorem of_toValuesAt? (hP : Hereditary P) : ∀ {ys : List Yaml} {depth : Nat} {vs : List Value},
    Yaml.toValuesAt? depth ys = some vs → ∀ v ∈ vs, P v
  | [], _, vs, h => by
    obtain rfl : [] = vs := by simpa [Yaml.toValuesAt?] using h
    simp
  | y :: rest, depth, vs, h => by
    simp only [Yaml.toValuesAt?, Option.bind_eq_bind, Option.bind_eq_some_iff] at h
    obtain ⟨v, hv, ws, hws, he⟩ := h
    obtain rfl : v :: ws = vs := by simpa using he
    exact List.forall_mem_cons.mpr ⟨hP.of_toValueAt? hv, hP.of_toValuesAt? hws⟩

theorem of_toPairsAt? (hP : Hereditary P) : ∀ {entries : List (Yaml × Yaml)} {depth : Nat}
    {ps : List (String × Value)}, Yaml.toPairsAt? depth entries = some ps → ∀ p ∈ ps, P p.2
  | [], _, ps, h => by
    obtain rfl : [] = ps := by simpa [Yaml.toPairsAt?] using h
    simp
  | (k, y) :: rest, depth, ps, h => by
    simp only [Yaml.toPairsAt?, Option.bind_eq_bind, Option.bind_eq_some_iff] at h
    obtain ⟨key, _, v, hv, qs, hqs, he⟩ := h
    obtain rfl : (key, v) :: qs = ps := by simpa using he
    exact List.forall_mem_cons.mpr ⟨hP.of_toValueAt? hv, hP.of_toPairsAt? hqs⟩

end

theorem of_toValue? (hP : Hereditary P) {y : Yaml} {v : Value} (h : y.toValue? = some v) : P v :=
  hP.of_toValueAt? h

end Value.Hereditary

theorem Yaml.hasDistinctKeys_of_toValue? {y : Yaml} {v : Value} (h : y.toValue? = some v) :
    v.HasDistinctKeys :=
  Value.hereditary_hasDistinctKeys.of_toValue? h

end ChartRender
