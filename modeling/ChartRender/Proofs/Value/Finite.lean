import ChartRender.Json.Reader
import ChartRender.Proofs.Value.Canonical
/-!
# Finite numbers

A number that is not finite has no place in data and becomes null there. So a value is equal to its
canonical value exactly if all its numbers are finite, at whatever depth they are
(`Value.canonical_equals_iff`). All numbers of a JSON text are finite, since its reader refuses those
beyond the binary range (`Json.isFinite_of_parse?`); YAML has ways to write the others.

Key definitions: `Value.isFinite`.
Key theorems: `Value.canonical_equals_iff`, `Json.isFinite_of_parse?`.
-/

namespace ChartRender
namespace Value

mutual

/-- Whether all numbers in the value, at any depth, are finite. -/
def isFinite : Value → Bool
  | .number x => x.isFinite
  | .list items => areFinite items
  | .map fields => areFiniteFields fields
  | _ => true

/-- Whether all numbers in some values are finite. -/
def areFinite : List Value → Bool
  | [] => true
  | v :: rest => isFinite v && areFinite rest

/-- Whether all numbers in some fields are finite. -/
def areFiniteFields : List (String × Value) → Bool
  | [] => true
  | (_, v) :: rest => isFinite v && areFiniteFields rest

end

theorem areFinite_iff : ∀ {items : List Value},
    areFinite items = true ↔ ∀ v ∈ items, v.isFinite = true
  | [] => by simp [areFinite]
  | v :: rest => by
    have ih : areFinite rest = true ↔ ∀ v ∈ rest, v.isFinite = true := areFinite_iff
    rw [areFinite, Bool.and_eq_true, ih, List.forall_mem_cons]

theorem areFiniteFields_iff : ∀ {fields : Fields},
    areFiniteFields fields = true ↔ ∀ p ∈ fields, p.2.isFinite = true
  | [] => by simp [areFiniteFields]
  | (k, v) :: rest => by
    have ih : areFiniteFields rest = true ↔ ∀ p ∈ rest, p.2.isFinite = true := areFiniteFields_iff
    rw [areFiniteFields, Bool.and_eq_true, ih, List.forall_mem_cons]

theorem isFinite_list {items : List Value} :
    isFinite (.list items) = true ↔ ∀ v ∈ items, v.isFinite = true := by
  rw [isFinite, areFinite_iff]

theorem isFinite_map {fields : Fields} :
    isFinite (.map fields) = true ↔ ∀ p ∈ fields, p.2.isFinite = true := by
  rw [isFinite, areFiniteFields_iff]

/-! ### Canonical values -/

theorem equalsAll_map_iff {f : Value → Value} : ∀ {items : List Value},
    equalsAll (items.map f) items = true ↔ ∀ v ∈ items, (f v).equals v = true
  | [] => by simp [equalsAll]
  | v :: rest => by
    have ih : equalsAll (rest.map f) rest = true ↔ ∀ v ∈ rest, (f v).equals v = true :=
      equalsAll_map_iff
    rw [List.map_cons, equalsAll, Bool.and_eq_true, ih, List.forall_mem_cons]

/-- A map is equal to its canonical map if what is in it is. -/
theorem canonical_map_equals_iff {fields : Fields} (hd : (Fields.keys fields).Nodup) :
    (canonical (.map fields)).equals (.map fields) = true ↔
      ∀ p ∈ fields, p.2.canonical.equals p.2 = true := by
  have hk : (Fields.keys (Fields.mapValues canonical fields)).Nodup := by
    rwa [Fields.keys_mapValues]
  have hl : (Fields.sorted (Fields.mapValues canonical fields)).length = fields.length := by
    rw [Fields.length_sorted hk, Fields.mapValues, List.length_map]
  rw [canonical_map, equals, hl, beq_self_eq_true, Bool.true_and, equalsFields_iff]
  constructor
  · intro h p hp
    have hg : Fields.get? (Fields.sorted (Fields.mapValues canonical fields)) p.1 =
        some p.2.canonical := by
      rw [Fields.get?_sorted hk, Fields.get?_mapValues, Fields.get?_of_mem hd hp, Option.map_some]
    obtain ⟨w, hw, he⟩ := h _ (Fields.mem_of_get? hg)
    rw [Fields.get?_of_mem hd hp] at hw
    obtain rfl := Option.some.inj hw
    exact he
  · intro h q hq
    obtain ⟨p, hp, rfl⟩ := List.mem_map.mp (Fields.mem_of_mem_sorted hq)
    exact ⟨p.2, Fields.get?_of_mem hd hp, h p hp⟩

/-- **A value is equal to its canonical value exactly if all its numbers are finite.** -/
theorem canonical_equals_iff (v : Value) : v.HasDistinctKeys →
    (v.canonical.equals v = true ↔ v.isFinite = true) := by
  induction v using Value.induction with
  | null => simp [canonical, equals, isFinite]
  | bool b => simp [canonical, equals, isFinite]
  | number x =>
    intro _
    rw [canonical, isFinite]
    split_ifs with hx
    · have hz : x.dropZeroSign.isFinite = true := by rwa [Binary64.isFinite_dropZeroSign]
      rw [equals, Binary64.beq_iff_dropZeroSign hz]
      simp [hx]
    · simp [equals, hx]
  | int i =>
    intro _
    rw [canonical, equals, Binary64.beq_iff_dropZeroSign (Binary64.isFinite_ofInt64 i)]
    simp [isFinite]
  | string s => simp [canonical, equals, isFinite]
  | list items ih =>
    intro hd
    rw [hasDistinctKeys_list] at hd
    rw [canonical_list, equals, isFinite_list, equalsAll_map_iff]
    exact forall₂_congr fun v hv => ih v hv (hd v hv)
  | map fields ih =>
    intro hd
    obtain ⟨hn, hd⟩ := hasDistinctKeys_map.mp hd
    rw [canonical_map_equals_iff hn, isFinite_map]
    exact forall₂_congr fun p hp => ih p hp (hd p hp)

end Value

/-! ### JSON documents -/

namespace Json

open Value (isFinite_list isFinite_map)

theorem isFinite_of_number? {cs rest : List Char} {n : JsonNumber}
    (h : number? cs = some (n, rest)) : n.toBinary64.isFinite = true := by
  unfold number? at h
  simp only [Option.bind_eq_bind] at h
  simp only [Option.bind_eq_some_iff] at h
  obtain ⟨⟨whole, cs⟩, -, ⟨fraction, cs⟩, -, ⟨exponent, cs⟩, -, h⟩ := h
  split_ifs at h with hf
  obtain ⟨rfl, -⟩ := Prod.mk.inj (Option.some.inj h)
  exact hf

theorem toValues_eq_map (items : List Json) : toValues items = items.map toValue := by
  induction items with
  | nil => rfl
  | cons j rest ih => rw [toValues, ih, List.map_cons]

theorem toPairs_eq_map (members : List (String × Json)) :
    toPairs members = members.map fun p => (p.1, p.2.toValue) := by
  induction members with
  | nil => rfl
  | cons member rest ih => rw [toPairs, ih, List.map_cons]

theorem isFinite_array {items : List Json} (h : ∀ j ∈ items, j.toValue.isFinite = true) :
    (toValue (.array items)).isFinite = true := by
  rw [toValue, isFinite_list, toValues_eq_map]
  simpa using h

theorem isFinite_object {members : List (String × Json)}
    (h : ∀ p ∈ members, p.2.toValue.isFinite = true) :
    (toValue (.object members)).isFinite = true := by
  rw [toValue, isFinite_map, toPairs_eq_map]
  intro p hp
  obtain ⟨q, hq, rfl⟩ := List.mem_map.mp (Fields.mem_of_mem_ofPairs hp)
  exact h q hq

mutual

theorem isFinite_of_value? {fuel depth : Nat} {cs rest : List Char} {j : Json}
    (h : value? fuel depth cs = some (j, rest)) : j.toValue.isFinite = true := by
  match fuel with
  | 0 => cases h
  | fuel + 1 =>
    rw [value?] at h
    split at h
    · cases h
      rfl
    · cases h
      rfl
    · cases h
      rfl
    · obtain ⟨⟨s, rest⟩, -, he⟩ := Option.map_eq_some_iff.mp h
      cases he
      rfl
    · split at h
      · cases h
      · split at h
        · cases h
          exact isFinite_array (by simp)
        · obtain ⟨⟨items, rest⟩, hi, he⟩ := Option.map_eq_some_iff.mp h
          cases he
          exact isFinite_array (isFinite_of_items? hi)
    · split at h
      · cases h
      · split at h
        · cases h
          exact isFinite_object (by simp)
        · obtain ⟨⟨members, rest⟩, hm, he⟩ := Option.map_eq_some_iff.mp h
          cases he
          exact isFinite_object (isFinite_of_members? hm)
    · obtain ⟨⟨n, rest⟩, hn, he⟩ := Option.map_eq_some_iff.mp h
      cases he
      rw [toValue, Value.isFinite]
      exact isFinite_of_number? hn

theorem isFinite_of_items? {fuel depth : Nat} {cs rest : List Char} {items : List Json}
    (h : items? fuel depth cs = some (items, rest)) :
    ∀ j ∈ items, j.toValue.isFinite = true := by
  match fuel with
  | 0 => cases h
  | fuel + 1 =>
    rw [items?] at h
    split at h
    · cases h
    · rename_i item rest' hv
      split at h
      · cases h
        exact List.forall_mem_singleton.mpr (isFinite_of_value? hv)
      · obtain ⟨⟨others, rest⟩, hi, he⟩ := Option.map_eq_some_iff.mp h
        cases he
        exact List.forall_mem_cons.mpr ⟨isFinite_of_value? hv, isFinite_of_items? hi⟩
      · cases h

theorem isFinite_of_members? {fuel depth : Nat} {cs rest : List Char}
    {members : List (String × Json)} (h : members? fuel depth cs = some (members, rest)) :
    ∀ p ∈ members, p.2.toValue.isFinite = true := by
  match fuel with
  | 0 => cases h
  | fuel + 1 =>
    rw [members?] at h
    split at h
    case h_2 => cases h
    split at h
    case h_1 => cases h
    split at h
    case h_2 => cases h
    split at h
    case h_1 => cases h
    rename_i value _ hv
    dsimp only at h
    split at h
    · cases h
      exact List.forall_mem_singleton.mpr (isFinite_of_value? hv)
    · obtain ⟨⟨others, rest⟩, hm, he⟩ := Option.map_eq_some_iff.mp h
      cases he
      exact List.forall_mem_cons.mpr ⟨isFinite_of_value? hv, isFinite_of_members? hm⟩
    · cases h

end

/-- **All numbers of a JSON document are finite.** -/
theorem isFinite_of_parse? {text : String} {j : Json} (h : parse? text = some j) :
    j.toValue.isFinite = true := by
  rw [parse?] at h
  split at h
  · rename_i k rest hv
    split_ifs at h
    cases h
    exact isFinite_of_value? hv
  · cases h

end Json
end ChartRender
