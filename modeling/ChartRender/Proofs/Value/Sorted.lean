import ChartRender.Json.Tree
import ChartRender.Proofs.Value.Fields
/-!
# Sorted fields

Fields that are sorted by key, each key once (`Fields.Ascending`), are determined by what is found in
them (`Fields.ext_ascending`). Sorting makes such fields, finds what was found before, and changes
nothing that is sorted already; and it does not matter whether the values are changed before it or
after.

Key definitions: `Fields.Ascending`, `Fields.mapValues`.
Key theorems: `Fields.get?_sorted`, `Fields.sorted_of_ascending`, `Fields.ext_ascending`.
-/

namespace ChartRender
namespace Fields

/-- The keys ascend, so that none stands twice. -/
def Ascending (fields : Fields) : Prop := (keys fields).Pairwise (· < ·)

theorem Ascending.nodup {fields : Fields} (h : Ascending fields) : (keys fields).Nodup :=
  h.imp fun hlt => ne_of_lt hlt

/-! ### Putting in order -/

theorem get?_putSorted : ∀ (fields : Fields) (key : String) (value : Value) (k : String),
    get? (putSorted fields key value) k = if k = key then some value else get? fields k
  | [], key, value, k => by simp [putSorted, get?_cons]
  | (l, v) :: rest, key, value, k => by
    rw [putSorted]
    by_cases hl : l = key
    · rw [if_pos hl, get?_cons, get?_cons, hl]
      by_cases hk : k = key
      · simp [hk]
      · simp [hk]
    · rw [if_neg hl]
      by_cases hlt : key < l
      · rw [if_pos hlt, get?_cons]
      · rw [if_neg hlt, get?_cons, get?_putSorted rest, get?_cons]
        by_cases hk : k = key
        · simp [hk, Ne.symm hl]
        · simp [hk]

theorem mem_keys_putSorted {fields : Fields} {key k : String} {value : Value} :
    k ∈ keys (putSorted fields key value) ↔ k = key ∨ k ∈ keys fields := by
  rw [mem_keys_iff, get?_putSorted]
  by_cases hk : k = key
  · simp [hk]
  · simp [hk, mem_keys_iff]

theorem ascending_putSorted : ∀ {fields : Fields} (key : String) (value : Value),
    Ascending fields → Ascending (putSorted fields key value)
  | [], _, _, _ => by simp [putSorted, Ascending]
  | (l, v) :: rest, key, value, h => by
    unfold Ascending at h
    rw [keys_cons, List.pairwise_cons] at h
    rw [putSorted]
    by_cases hl : l = key
    · rw [if_pos hl]
      exact List.pairwise_cons.mpr h
    · rw [if_neg hl]
      by_cases hlt : key < l
      · rw [if_pos hlt]
        refine List.pairwise_cons.mpr ⟨fun k hk => ?_, List.pairwise_cons.mpr h⟩
        rcases List.mem_cons.mp hk with rfl | hk
        · exact hlt
        · exact hlt.trans (h.1 k hk)
      · rw [if_neg hlt]
        refine List.pairwise_cons.mpr ⟨fun k hk => ?_, ascending_putSorted key value h.2⟩
        rcases mem_keys_putSorted.mp hk with rfl | hk
        · exact lt_of_le_of_ne (le_of_not_gt hlt) hl
        · exact h.1 k hk

/-- A field after a put in order is the one that was put or one that was there. -/
theorem mem_putSorted : ∀ {fields : Fields} {key : String} {value : Value} {p : String × Value},
    p ∈ putSorted fields key value → p = (key, value) ∨ p ∈ fields
  | [], _, _, p, h => by simpa [putSorted] using h
  | (l, v) :: rest, key, value, p, h => by
    rw [putSorted] at h
    split_ifs at h with hl hlt
    · rcases List.mem_cons.mp h with h | h
      · exact Or.inl (by rw [h, hl])
      · exact Or.inr (List.mem_cons_of_mem _ h)
    · exact List.mem_cons.mp h
    · rcases List.mem_cons.mp h with h | h
      · exact Or.inr (by rw [h]; exact List.mem_cons_self)
      · exact (mem_putSorted h).imp id (List.mem_cons_of_mem _)

/-- A key above all others comes last. -/
theorem putSorted_of_forall_lt : ∀ {fields : Fields} {key : String} (value : Value),
    (∀ k ∈ keys fields, k < key) → putSorted fields key value = fields ++ [(key, value)]
  | [], _, _, _ => rfl
  | (l, v) :: rest, key, value, h => by
    rw [keys_cons, List.forall_mem_cons] at h
    rw [putSorted, if_neg (ne_of_lt h.1), if_neg (not_lt_of_gt h.1),
      putSorted_of_forall_lt value h.2]
    rfl

/-! ### Sorting -/

theorem sorted_append {α : Type} (ps : List (String × α)) (p : String × α) :
    sorted (ps ++ [p]) = putSorted (sorted ps) p.1 p.2 := by
  rw [sorted, List.foldl_append]
  rfl

theorem ascending_sorted (ps : List (String × Value)) : Ascending (sorted ps) := by
  induction ps using List.reverseRecOn with
  | nil => exact List.Pairwise.nil
  | append_singleton ps p ih =>
    rw [sorted_append]
    exact ascending_putSorted _ _ ih

theorem mem_of_mem_sorted {ps : List (String × Value)} {p : String × Value}
    (h : p ∈ sorted ps) : p ∈ ps := by
  induction ps using List.reverseRecOn with
  | nil => exact h
  | append_singleton ps q ih =>
    rw [sorted_append] at h
    rcases mem_putSorted h with rfl | h
    · exact List.mem_append_right _ (List.mem_singleton_self _)
    · exact List.mem_append_left _ (ih h)

/-- **What is sorted is not changed by sorting.** -/
theorem sorted_of_ascending {fields : Fields} (h : Ascending fields) : sorted fields = fields := by
  induction fields using List.reverseRecOn with
  | nil => rfl
  | append_singleton fields p ih =>
    have hk : keys (fields ++ [p]) = keys fields ++ [p.1] := List.map_append
    unfold Ascending at h
    rw [hk, List.pairwise_append] at h
    obtain ⟨ha, -, hlt⟩ := h
    rw [sorted_append, ih ha, putSorted_of_forall_lt]
    exact fun k hk => hlt k hk p.1 (List.mem_singleton_self _)

theorem sorted_sorted (ps : List (String × Value)) : sorted (sorted ps) = sorted ps :=
  sorted_of_ascending (ascending_sorted ps)

/-- **Sorting finds what was found before.** -/
theorem get?_sorted {fields : Fields} (h : (keys fields).Nodup) (key : String) :
    get? (sorted fields) key = get? fields key := by
  suffices hs : ∀ (fields acc : Fields), (keys fields).Nodup →
      get? (fields.foldl (fun sorted p => putSorted sorted p.1 p.2) acc) key =
        (get? fields key).or (get? acc key) by
    rw [sorted, hs fields [] h, get?_nil, Option.or_none]
  intro fields
  induction fields with
  | nil => intro acc _; rfl
  | cons p rest ih =>
    obtain ⟨k, v⟩ := p
    intro acc hd
    rw [keys_cons, List.nodup_cons] at hd
    rw [List.foldl_cons, ih _ hd.2, get?_putSorted, get?_cons]
    by_cases hk : key = k
    · rw [hk, if_pos rfl, if_pos rfl, get?_eq_none_iff.mpr hd.1]
      rfl
    · rw [if_neg hk, if_neg hk]

/-- Of a repeated key the last field is found. -/
theorem get?_sorted_reverse (ps : List (String × Value)) (key : String) :
    get? (sorted ps) key = get? ps.reverse key := by
  induction ps using List.reverseRecOn with
  | nil => rfl
  | append_singleton ps p ih =>
    rw [sorted_append, get?_putSorted, ih, List.reverse_concat, get?_cons]

theorem keys_perm_of_get? {fs gs : Fields} (hf : (keys fs).Nodup) (hg : (keys gs).Nodup)
    (h : ∀ k, (get? fs k).isSome = (get? gs k).isSome) : (keys fs).Perm (keys gs) := by
  refine (List.perm_ext_iff_of_nodup hf hg).mpr fun k => ?_
  rw [mem_keys_iff, mem_keys_iff, ← Option.isSome_iff_exists, ← Option.isSome_iff_exists, h]

theorem length_sorted {fields : Fields} (h : (keys fields).Nodup) :
    (sorted fields).length = fields.length := by
  rw [← length_keys, ← length_keys]
  exact (keys_perm_of_get? (ascending_sorted fields).nodup h fun k => by
    rw [get?_sorted h]).length_eq

/-- **Sorted fields are determined by what is found in them.** -/
theorem ext_ascending {fs gs : Fields} (hf : Ascending fs) (hg : Ascending gs)
    (h : ∀ k, get? fs k = get? gs k) : fs = gs := by
  refine ext_get? hf.nodup ?_ h
  have hp : (keys fs).Perm (keys gs) := keys_perm_of_get? hf.nodup hg.nodup fun k => by rw [h]
  exact hp.eq_of_pairwise (fun k l _ _ hkl hlk => absurd hkl (not_lt_of_gt hlk)) hf hg

/-! ### Changing the values -/

/-- The same fields with other values. -/
def mapValues {α β : Type} (f : α → β) (fields : List (String × α)) : List (String × β) :=
  fields.map fun p => (p.1, f p.2)

section
variable {α β : Type}

@[simp] theorem mapValues_nil (f : α → β) : mapValues f [] = [] := rfl

@[simp] theorem mapValues_cons (f : α → β) (p : String × α) (rest : List (String × α)) :
    mapValues f (p :: rest) = (p.1, f p.2) :: mapValues f rest := rfl

theorem lookup_mapValues (f : α → β) (key : String) : ∀ fields : List (String × α),
    (mapValues f fields).lookup key = (fields.lookup key).map f
  | [] => rfl
  | (k, v) :: rest => by
    rw [mapValues_cons, List.lookup_cons, List.lookup_cons, lookup_mapValues f key rest]
    cases key == k <;> rfl

theorem mapValues_reverse (f : α → β) (fields : List (String × α)) :
    mapValues f fields.reverse = (mapValues f fields).reverse := List.map_reverse

theorem mapValues_putSorted (f : α → β) (key : String) (value : α) :
    ∀ fields : List (String × α), mapValues f (putSorted fields key value) =
      putSorted (mapValues f fields) key (f value)
  | [] => rfl
  | (k, v) :: rest => by
    rw [putSorted, mapValues_cons, putSorted]
    split_ifs
    · rfl
    · rfl
    · rw [mapValues_cons, mapValues_putSorted f key value rest]

/-- Sorting does not look at the values. -/
theorem mapValues_sorted (f : α → β) (ps : List (String × α)) :
    mapValues f (sorted ps) = sorted (mapValues f ps) := by
  induction ps using List.reverseRecOn with
  | nil => rfl
  | append_singleton ps p ih =>
    have hm : mapValues f (ps ++ [p]) = mapValues f ps ++ [(p.1, f p.2)] := List.map_append
    rw [sorted_append, mapValues_putSorted, ih, hm, sorted_append]

end

@[simp] theorem keys_mapValues (f : Value → Value) (fields : Fields) :
    keys (mapValues f fields) = keys fields := by
  simp [keys, mapValues, Function.comp_def]

theorem get?_mapValues (f : Value → Value) (key : String) (fields : Fields) :
    get? (mapValues f fields) key = (get? fields key).map f := lookup_mapValues f key fields

end Fields
end ChartRender
