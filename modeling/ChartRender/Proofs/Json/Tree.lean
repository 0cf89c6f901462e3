import ChartRender.Json.Tree
import ChartRender.Proofs.Json.Number
import ChartRender.Proofs.Value.Finite
/-!
# Two ways to decode a document

A document is decoded into a value directly, or into a tree and from there into a value. The tree has
its objects sorted and drops what stood under a repeated key before, while the direct way keeps the
first place of such a key and puts the last value there; so the two values have the same fields in
another order (`Json.toSortedValue_object`, `Fields.get?_ofPairs`, `Fields.get?_sorted_reverse`).
Numbers are the same as long as they are finite, since a tree has null in the place of all others
(`Json.toSortedValue_number`); the reader lets no others through. Hence the two ways agree on every
text (`Json.decodings_agree`).

Key definitions: `Json.Decodings`.
Key theorems: `Json.toSortedValue_object`, `Json.toSortedValue_inherits`,
`Json.equals_toSortedValue`, `Json.decodings_agree`.
-/

namespace ChartRender

/-! ### Trees -/

namespace JsonTree

theorem toValues_eq_map (items : List JsonTree) : toValues items = items.map toValue := by
  induction items with
  | nil => rfl
  | cons t rest ih => rw [toValues, ih, List.map_cons]

theorem toPairs_eq_mapValues (members : List (String × JsonTree)) :
    toPairs members = Fields.mapValues toValue members := by
  induction members with
  | nil => rfl
  | cons member rest ih => rw [toPairs, ih, Fields.mapValues_cons]

end JsonTree

namespace Json

/-- Induction over documents: arrays and objects inherit a property from the documents in them. -/
@[elab_as_elim]
theorem induction {P : Json → Prop} (null : P .null) (bool : ∀ b, P (.bool b))
    (number : ∀ n, P (.number n)) (string : ∀ s, P (.string s))
    (array : ∀ items, (∀ j ∈ items, P j) → P (.array items))
    (object : ∀ members, (∀ p ∈ members, P p.2) → P (.object members)) (j : Json) : P j :=
  @Json.rec P (fun items => ∀ j ∈ items, P j) (fun members => ∀ p ∈ members, P p.2)
    (fun p => P p.2) null bool number string array object
    (fun _ h => nomatch h)
    (fun _ _ hj hjs => List.forall_mem_cons.mpr ⟨hj, hjs⟩)
    (fun _ h => nomatch h)
    (fun _ _ hp hps => List.forall_mem_cons.mpr ⟨hp, hps⟩)
    (fun _ _ hj => hj) j

theorem toTrees_eq_map (items : List Json) : toTrees items = items.map toTree := by
  induction items with
  | nil => rfl
  | cons j rest ih => rw [toTrees, ih, List.map_cons]

theorem toTreeMembers_eq_mapValues (members : List (String × Json)) :
    toTreeMembers members = Fields.mapValues toTree members := by
  induction members with
  | nil => rfl
  | cons member rest ih => rw [toTreeMembers, ih, Fields.mapValues_cons]

/-! ### The value of a tree -/

/-- A number that is not finite has no place in a tree. -/
theorem toSortedValue_number (n : JsonNumber) : (Json.number n).toSortedValue =
    if n.toBinary64.isFinite then .number n.toBinary64 else .null := by
  rw [toSortedValue, toTree]
  cases n with
  | unsigned n =>
    rw [if_pos (JsonNumber.isFinite_unsigned n)]
    rfl
  | negative i =>
    rw [if_pos (JsonNumber.isFinite_negative i)]
    rfl
  | float x =>
    rw [JsonTree.ofNumber, JsonNumber.toBinary64]
    split_ifs <;> rfl

theorem toSortedValue_array (items : List Json) :
    (Json.array items).toSortedValue = .list (items.map toSortedValue) := by
  rw [toSortedValue, toTree, JsonTree.toValue, JsonTree.toValues_eq_map, toTrees_eq_map,
    List.map_map]
  rfl

/-- **A tree's object is the map of its sorted members**, of which no key is repeated any more. -/
theorem toSortedValue_object (members : List (String × Json)) : (Json.object members).toSortedValue =
    .map (Fields.sorted (Fields.mapValues toSortedValue members)) := by
  have hmap : Fields.mapValues JsonTree.toValue (Fields.mapValues toTree members) =
      Fields.mapValues toSortedValue members := by
    simp [Fields.mapValues, Function.comp_def, toSortedValue]
  rw [toSortedValue, toTree, JsonTree.toValue, JsonTree.toPairs_eq_mapValues,
    toTreeMembers_eq_mapValues, Fields.mapValues_sorted, hmap,
    Fields.ofPairs_of_nodup (Fields.ascending_sorted _).nodup]

theorem toValue_array (items : List Json) :
    (Json.array items).toValue = .list (items.map toValue) := by
  rw [toValue, toValues_eq_map]

theorem toValue_object (members : List (String × Json)) :
    (Json.object members).toValue = .map (Fields.ofPairs (Fields.mapValues toValue members)) := by
  rw [toValue, toPairs_eq_map]
  rfl

/-! ### What holds of both values -/

/-- **The value of a tree inherits** what holds of null, truth values, finite numbers and texts, if
lists and maps without repeated keys share it with what is in them. -/
theorem toSortedValue_inherits {P : Value → Prop} (null : P .null) (bool : ∀ b, P (.bool b))
    (number : ∀ x, x.isFinite = true → P (.number x)) (string : ∀ s, P (.string s))
    (list : ∀ items, (∀ v ∈ items, P v) → P (.list items))
    (map : ∀ fields, (Fields.keys fields).Nodup → (∀ p ∈ fields, P p.2) → P (.map fields))
    (j : Json) : P j.toSortedValue := by
  induction j using Json.induction with
  | null => exact null
  | bool b => exact bool b
  | number n =>
    rw [toSortedValue_number]
    split_ifs with h
    · exact number _ h
    · exact null
  | string s => exact string s
  | array items ih =>
    rw [toSortedValue_array]
    exact list _ (List.forall_mem_map.mpr ih)
  | object members ih =>
    rw [toSortedValue_object]
    refine map _ (Fields.ascending_sorted _).nodup fun p hp => ?_
    obtain ⟨q, hq, rfl⟩ := List.mem_map.mp (Fields.mem_of_mem_sorted hp)
    exact ih q hq

theorem hasDistinctKeys_toSortedValue (j : Json) : j.toSortedValue.HasDistinctKeys :=
  toSortedValue_inherits Value.hasDistinctKeys_null Value.hasDistinctKeys_bool
    (fun x _ => Value.hasDistinctKeys_number x) Value.hasDistinctKeys_string
    (fun _ h => Value.hasDistinctKeys_list.mpr h)
    (fun _ hn h => Value.hasDistinctKeys_map.mpr ⟨hn, h⟩) j

/-- **The value of a tree has no numbers but finite ones.** -/
theorem isFinite_toSortedValue (j : Json) : j.toSortedValue.isFinite = true :=
  toSortedValue_inherits (P := fun v => v.isFinite = true) rfl (fun _ => rfl) (fun _ h => h)
    (fun _ => rfl) (fun _ h => Value.isFinite_list.mpr h) (fun _ _ h => Value.isFinite_map.mpr h) j

theorem isIntFree_toSortedValue (j : Json) : j.toSortedValue.isIntFree = true :=
  toSortedValue_inherits (P := fun v => v.isIntFree = true) rfl (fun _ => rfl) (fun _ _ => rfl)
    (fun _ => rfl) (fun _ h => Value.isIntFree_list.mpr h) (fun _ _ h => Value.isIntFree_map.mpr h) j

theorem isIntFree_toValue (j : Json) : j.toValue.isIntFree = true := by
  induction j using Json.induction with
  | array items ih =>
    rw [toValue_array, Value.isIntFree_list]
    simpa using ih
  | object members ih =>
    rw [toValue_object, Value.isIntFree_map]
    intro p hp
    obtain ⟨q, hq, rfl⟩ := List.mem_map.mp (Fields.mem_of_mem_ofPairs hp)
    exact ih q hq
  | _ => rfl

/-! ### Agreement -/

/-- What is found under a key is what the last member with that key is decoded into. -/
theorem get?_ofPairs_mapValues (members : List (String × Json)) (key : String) :
    Fields.get? (Fields.ofPairs (Fields.mapValues toValue members)) key =
      (members.reverse.lookup key).map toValue := by
  rw [Fields.get?_ofPairs, ← Fields.mapValues_reverse]
  exact Fields.lookup_mapValues toValue key members.reverse

theorem get?_sorted_mapValues (members : List (String × Json)) (key : String) :
    Fields.get? (Fields.sorted (Fields.mapValues toSortedValue members)) key =
      (members.reverse.lookup key).map toSortedValue := by
  rw [Fields.get?_sorted_reverse, ← Fields.mapValues_reverse]
  exact Fields.lookup_mapValues toSortedValue key members.reverse

/-- **The two values of a document are equal**, if all numbers are finite. -/
theorem equals_toSortedValue (j : Json) :
    j.toValue.isFinite = true → j.toValue.equals j.toSortedValue = true := by
  induction j using Json.induction with
  | number n =>
    intro h
    rw [toValue, Value.isFinite] at h
    rw [toSortedValue_number, if_pos h, toValue, Value.equals, Binary64.beq_iff_dropZeroSign h]
  | array items ih =>
    intro h
    rw [toValue_array, Value.isFinite_list, List.forall_mem_map] at h
    rw [toValue_array, toSortedValue_array, Value.equals_list_iff]
    refine ⟨_, rfl, ?_⟩
    rw [List.forall₂_map_left_iff, List.forall₂_map_right_iff, List.forall₂_same]
    exact fun j hj => ih j hj (h j hj)
  | object members ih =>
    intro h
    have hdistinct := hasDistinctKeys_toSortedValue (.object members)
    rw [toValue_object, Value.isFinite_map] at h
    rw [toSortedValue_object] at hdistinct
    rw [toValue_object, toSortedValue_object, Value.equals_map_iff (Fields.nodup_ofPairs _) hdistinct]
    refine ⟨_, rfl, fun key => ?_⟩
    have hvalue := get?_ofPairs_mapValues members key
    rw [hvalue, get?_sorted_mapValues]
    cases hl : members.reverse.lookup key with
    | none => exact .none
    | some j =>
      obtain ⟨front, back, hm, -⟩ := List.lookup_eq_some_iff.mp hl
      have hj : (key, j) ∈ members := List.mem_reverse.mp (hm ▸ by simp)
      rw [hl] at hvalue
      exact .some (ih _ hj (h _ (Fields.mem_of_get? hvalue)))
  | bool b => exact fun _ => Value.equals_bool_iff.mpr rfl
  | string s => exact fun _ => Value.equals_string_iff.mpr rfl
  | null => exact fun _ => rfl

/-- What the two values of a text have in common. -/
structure Decodings (v w : Value) : Prop where
  equal : (v == w) = true
  finite : v.isFinite = true
  finite' : w.isFinite = true
  intFree : v.isIntFree = true
  intFree' : w.isIntFree = true

/-- **The two ways to decode a text agree.** Either both fail or both succeed, and then the values are
equal, and neither has an integer or a number that is not finite, whatever numbers, repeated keys and
nesting the text has. -/
theorem decodings_agree (text : String) :
    Option.Rel Decodings ((parse? text).map toValue) ((parse? text).map toSortedValue) := by
  cases h : parse? text with
  | none => exact .none
  | some j =>
    have hf := isFinite_of_parse? h
    exact .some ⟨equals_toSortedValue j hf, hf, isFinite_toSortedValue j, isIntFree_toValue j,
      isIntFree_toSortedValue j⟩

/-- A repeated key keeps its first place on one way and is sorted on the other, with its last value on
both, here an integer that has no 64 bits. -/
example : (parse? "\x7b\"b\":1,\"a\":-0,\"b\":18446744073709551616\x7d").map
      (fun j => (j.toValue, j.toSortedValue)) =
    some (.map [("b", .number (.ofInt (2 ^ 64))), ("a", .number Binary64.zero.neg)],
      .map [("a", .number Binary64.zero.neg), ("b", .number (.ofInt (2 ^ 64)))]) := by
  decide +kernel

end Json
end ChartRender
