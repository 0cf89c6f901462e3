import ChartRender.Proofs.Builtin.Application
/-!
# Tuples

Several values are packed into one map under the keys `T1`, `T2` and so on. A map has each key once,
so a value would be lost if two indices had the same key; no two have, however many digits they are
written with (`Value.tupleKey_injective`). What is packed is therefore all there, in its order, found
by index and by key, and nothing else is (`Value.IsTuple`): a tuple says what it was packed from
(`Builtin.compact_faithful`).

Key definitions: `Value.IsTuple`.
Key theorems: `Value.packed?_pack`, `Value.ofPairs_mapIdx_tupleKey`, `Builtin.compact_faithful`.
-/

namespace ChartRender
namespace Value

/-! ### Look-ups -/

theorem tupleKey_inj {i j : Nat} : tupleKey i = tupleKey j ↔ i = j := tupleKey_injective.eq_iff

/-- Values that are packed from an index on are found from that index on. -/
theorem packed?_packFrom : ∀ (index : Nat) (items : List Value) (i : Nat),
    packed? (packFrom index items) (index + i) = items[i]?
  | _, [], _ => rfl
  | index, v :: rest, 0 => by
    rw [packed?, packFrom, Fields.get?_cons, if_pos (by rw [Nat.add_zero])]
    rfl
  | index, v :: rest, i + 1 => by
    have hne : tupleKey (index + (i + 1)) ≠ tupleKey index := fun h => by
      have := tupleKey_inj.mp h
      omega
    have hindex : index + (i + 1) = index + 1 + i := by omega
    rw [packed?, packFrom, Fields.get?_cons, if_neg hne, hindex]
    exact packed?_packFrom (index + 1) rest i

/-- **The element of a tuple with an index is the value with that index.** -/
theorem packed?_pack (items : List Value) (i : Nat) : packed? (pack items) i = items[i]? := by
  have := packed?_packFrom 0 items i
  rwa [Nat.zero_add] at this

section
variable {fs : Fields} {key : String}

theorem dictTest_of_some {v : Value} (h : Fields.get? fs key = some v) (zero : Value) :
    (map fs).dictTest key zero = (v, true) := by
  rw [dictTest, fields, h]

theorem dictTest_of_none (h : Fields.get? fs key = none) (zero : Value) :
    (map fs).dictTest key zero = (zero, false) := by
  rw [dictTest, fields, h]

end

/-! ### Collecting -/

theorem packFrom_eq_mapIdx (index : Nat) (items : List Value) :
    packFrom index items = items.mapIdx fun i v => (tupleKey (index + i), v) := by
  induction items generalizing index with
  | nil => rfl
  | cons v rest ih =>
    have hindex : ∀ i, index + 1 + i = index + (i + 1) := fun i => by omega
    rw [packFrom, ih (index + 1), List.mapIdx_cons]
    simp only [hindex, Nat.add_zero]

/-- **Collecting numbered values overwrites none of them**: the values that are put one after the other
under their keys are the fields of the tuple. -/
theorem ofPairs_mapIdx_tupleKey (items : List Value) :
    Fields.ofPairs (items.mapIdx fun i v => (tupleKey i, v)) = pack items := by
  have hpairs : (items.mapIdx fun i v => (tupleKey i, v)) = pack items := by
    rw [pack, packFrom_eq_mapIdx]
    simp only [Nat.zero_add]
  rw [hpairs]
  refine Fields.ofPairs_of_nodup ?_
  rw [keys_pack]
  exact List.nodup_range.map tupleKey_injective

/-! ### Tuples of values -/

/-- Fields that hold values as a tuple and nothing else. -/
structure IsTuple (tuple : Fields) (items : List Value) : Prop where
  /-- There is one key for each value, in the order of the values. -/
  keys : Fields.keys tuple = (List.range items.length).map fun i => "T" ++ toString (i + 1)
  /-- A value is found by its index, and under its key. -/
  within : ∀ i v zero, items[i]? = some v →
    packed? tuple i = some v ∧ (map tuple).dictTest ("T" ++ toString (i + 1)) zero = (v, true)
  /-- Behind the last value there is nothing. -/
  beyond : ∀ i zero, items.length ≤ i →
    packed? tuple i = none ∧ (map tuple).dictTest ("T" ++ toString (i + 1)) zero = (zero, false)
  /-- There is nothing under other keys. -/
  others : ∀ key zero, (∀ i < items.length, key ≠ "T" ++ toString (i + 1)) →
    Fields.get? tuple key = none ∧ (map tuple).dictTest key zero = (zero, false)

theorem isTuple_pack (items : List Value) : IsTuple (pack items) items where
  keys := keys_pack items
  within i v zero h := by
    have hfound : packed? (pack items) i = some v := (packed?_pack items i).trans h
    exact ⟨hfound, dictTest_of_some hfound zero⟩
  beyond i zero h := by
    have hnone : packed? (pack items) i = none :=
      (packed?_pack items i).trans (List.getElem?_eq_none h)
    exact ⟨hnone, dictTest_of_none hnone zero⟩
  others key zero h := by
    have hnone : Fields.get? (pack items) key = none := by
      rw [Fields.get?_eq_none_iff, keys_pack, List.mem_map]
      rintro ⟨i, hi, rfl⟩
      exact h i (List.mem_range.mp hi) rfl
    exact ⟨hnone, dictTest_of_none hnone zero⟩

/-- Two lists of values that are packed alike are the same. -/
theorem pack_injective : Function.Injective pack := fun items others h => by
  refine List.ext_getElem? fun i => ?_
  rw [← packed?_pack, ← packed?_pack, h]

end Value

namespace Builtin

/-- **Packing is faithful.** Any list of values is packed, by collecting the values under their numbers,
into a map that holds them as a tuple and nothing else; and no other list is packed into that map. -/
theorem compact_faithful (items : List Value) :
    ∃ tuple, call "compact" [.list items] = .ok (.map tuple) ∧
      tuple = Fields.ofPairs (items.mapIdx fun i v => ("T" ++ toString (i + 1), v)) ∧
      Value.IsTuple tuple items ∧
      ∀ rest, call "compact" [.list rest] = .ok (.map tuple) → rest = items := by
  have hcall : ∀ vs, call "compact" [.list vs] = .ok (.map (Value.pack vs)) := fun vs =>
    call_name .compact [.list vs]
  refine ⟨Value.pack items, hcall items, (Value.ofPairs_mapIdx_tupleKey items).symm,
    Value.isTuple_pack items, fun rest h => ?_⟩
  rw [hcall] at h
  exact Value.pack_injective (Value.map.inj (Except.ok.inj h))

-- With ten values there are keys of two lengths.
example : (Fields.keys (Value.pack (List.replicate 10 .null))).getLast? = some "T10" := by
  decide +kernel

end Builtin
end ChartRender
