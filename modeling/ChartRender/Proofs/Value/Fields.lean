import ChartRender.Value.Basic
import Mathlib
/-!
# Fields as finite maps

Looking a key up in fields and putting a value under it obey the laws of a finite map that
remembers the order of arrival: a put changes the answer for its own key only (`Fields.get?_put`) and
adds the key at the end unless it is there (`Fields.keys_put`). Fields whose keys are distinct are
determined by their keys and by what is found under them (`Fields.ext_get?`).

Key definitions: `Fields.put`, `Fields.get?`.
Key theorems: `Fields.get?_put`, `Fields.keys_put`, `Fields.nodup_put`, `Fields.ext_get?`.
-/

namespace ChartRender
namespace Fields

/-! ### Lookups -/

@[simp] theorem get?_nil (key : String) : get? [] key = none := rfl

theorem get?_cons (k : String) (v : Value) (rest : Fields) (key : String) :
    get? ((k, v) :: rest) key = if key = k then some v else get? rest key := by
  by_cases h : key = k
  · simp [get?, h]
  · have hk : (key == k) = false := by simpa using h
    simp [get?, List.lookup_cons, hk, h]

@[simp] theorem keys_nil : keys [] = [] := rfl

@[simp] theorem keys_cons (k : String) (v : Value) (rest : Fields) :
    keys ((k, v) :: rest) = k :: keys rest := rfl

theorem length_keys (fields : Fields) : (keys fields).length = fields.length := List.length_map _

/-- Nothing is found under a key exactly if it is not among the keys. -/
theorem get?_eq_none_iff : ∀ {fields : Fields} {key : String},
    get? fields key = none ↔ key ∉ keys fields
  | [], key => by simp
  | (k, v) :: rest, key => by
    have ih : get? rest key = none ↔ key ∉ keys rest := get?_eq_none_iff
    rw [get?_cons, keys_cons, List.mem_cons, not_or, ← ih]
    by_cases h : key = k
    · simp [h]
    · simp [h]

theorem mem_keys_iff {fields : Fields} {key : String} :
    key ∈ keys fields ↔ ∃ v, get? fields key = some v := by
  rw [← Option.isSome_iff_exists, ← not_iff_not, ← get?_eq_none_iff, Option.not_isSome_iff_eq_none]

/-- What is found stands among the fields. -/
theorem mem_of_get? : ∀ {fields : Fields} {key : String} {v : Value},
    get? fields key = some v → (key, v) ∈ fields
  | [], _, _, h => by simp at h
  | (k, w) :: rest, key, v, h => by
    rw [get?_cons] at h
    split_ifs at h with hk
    · obtain rfl : w = v := by simpa using h
      rw [hk]
      exact List.mem_cons_self
    · exact List.mem_cons_of_mem _ (mem_of_get? h)

/-- With distinct keys every field is found. -/
theorem get?_of_mem : ∀ {fields : Fields} {key : String} {v : Value},
    (keys fields).Nodup → (key, v) ∈ fields → get? fields key = some v
  | [], _, _, _, h => by simp at h
  | (k, w) :: rest, key, v, hd, h => by
    rw [keys_cons, List.nodup_cons] at hd
    rw [get?_cons]
    rcases List.mem_cons.mp h with he | h
    · simp only [Prod.mk.injEq] at he
      simp [he]
    · have hk : key ≠ k := fun he => hd.1 (he ▸ List.mem_map_of_mem (f := (·.1)) h)
      rw [if_neg hk]
      exact get?_of_mem hd.2 h

/-! ### Putting -/

/-- **A put changes what is found under its own key, and nothing else.** -/
theorem get?_put : ∀ (fields : Fields) (key : String) (value : Value) (k : String),
    get? (put fields key value) k = if k = key then some value else get? fields k
  | [], key, value, k => by simp [put, get?_cons]
  | (l, v) :: rest, key, value, k => by
    rw [put]
    by_cases hl : l = key
    · rw [if_pos hl, get?_cons, get?_cons, hl]
      by_cases hk : k = key
      · simp [hk]
      · simp [hk]
    · rw [if_neg hl, get?_cons, get?_put rest, get?_cons]
      by_cases hk : k = key
      · have : k ≠ l := fun h => hl (h ▸ hk)
        simp [hk, Ne.symm hl]
      · simp [hk]

@[simp] theorem get?_put_self (fields : Fields) (key : String) (value : Value) :
    get? (put fields key value) key = some value := by
  rw [get?_put, if_pos rfl]

theorem get?_put_of_ne (fields : Fields) {key k : String} (value : Value) (h : k ≠ key) :
    get? (put fields key value) k = get? fields k := by
  rw [get?_put, if_neg h]

/-- **A put keeps the order of keys**, and a key that is new comes last. -/
theorem keys_put : ∀ (fields : Fields) (key : String) (value : Value),
    keys (put fields key value) = if key ∈ keys fields then keys fields else keys fields ++ [key]
  | [], key, value => by simp [put]
  | (l, v) :: rest, key, value => by
    rw [put]
    by_cases hl : l = key
    · simp [hl]
    · rw [if_neg hl, keys_cons, keys_put rest, keys_cons]
      by_cases hk : key ∈ keys rest
      · simp [hk]
      · simp [hk, Ne.symm hl]

/-- A new key comes last. -/
theorem put_of_not_mem : ∀ {fields : Fields} {key : String} (value : Value),
    key ∉ keys fields → put fields key value = fields ++ [(key, value)]
  | [], _, _, _ => rfl
  | (k, v) :: rest, key, value, h => by
    rw [keys_cons, List.mem_cons, not_or] at h
    rw [put, if_neg (Ne.symm h.1), put_of_not_mem value h.2, List.cons_append]

theorem nodup_put {fields : Fields} (key : String) (value : Value) (h : (keys fields).Nodup) :
    (keys (put fields key value)).Nodup := by
  rw [keys_put]
  split_ifs with hk
  · exact h
  · exact List.nodup_append.mpr ⟨h, List.nodup_singleton _, by
      intro a ha b hb hab
      rw [List.mem_singleton] at hb
      exact hk (hb ▸ hab ▸ ha)⟩

/-- A field after a put is the one that was put or one that was there. -/
theorem mem_put : ∀ {fields : Fields} {key : String} {value : Value} {p : String × Value},
    p ∈ put fields key value → p = (key, value) ∨ p ∈ fields
  | [], _, _, p, h => by simpa [put] using h
  | (l, v) :: rest, key, value, p, h => by
    rw [put] at h
    split_ifs at h with hl
    · rcases List.mem_cons.mp h with h | h
      · exact Or.inl (by rw [h, hl])
      · exact Or.inr (List.mem_cons_of_mem _ h)
    · rcases List.mem_cons.mp h with h | h
      · exact Or.inr (by rw [h]; exact List.mem_cons_self)
      · exact (mem_put h).imp id (List.mem_cons_of_mem _)

/-! ### Extensionality -/

/-- **Fields with distinct keys are determined by their keys and lookups.** -/
theorem ext_get? : ∀ {fs gs : Fields}, (keys fs).Nodup → keys fs = keys gs →
    (∀ k, get? fs k = get? gs k) → fs = gs
  | [], gs, _, hk, _ => by
    cases gs with
    | nil => rfl
    | cons g gs => simp [keys] at hk
  | (k, v) :: fs, gs, hd, hk, hg => by
    cases gs with
    | nil => simp [keys] at hk
    | cons g gs =>
      obtain ⟨l, w⟩ := g
      simp only [keys_cons, List.cons.injEq] at hk
      obtain ⟨rfl, hk⟩ := hk
      rw [keys_cons, List.nodup_cons] at hd
      have hv : v = w := by simpa [get?_cons] using hg k
      have hrest : fs = gs := by
        refine ext_get? hd.2 hk fun a => ?_
        have ha := hg a
        rw [get?_cons, get?_cons] at ha
        by_cases h : a = k
        · rw [h, get?_eq_none_iff.mpr hd.1, get?_eq_none_iff.mpr (hk ▸ hd.1)]
        · simpa [h] using ha
      rw [hv, hrest]

/-! ### Fields from pairs -/

theorem ofPairs_nil : ofPairs [] = [] := rfl

theorem ofPairs_append (ps : List (String × Value)) (key : String) (value : Value) :
    ofPairs (ps ++ [(key, value)]) = put (ofPairs ps) key value := by
  simp [ofPairs, List.foldl_append]

/-- Pairs of different keys are fields as they are. -/
theorem ofPairs_of_nodup {ps : List (String × Value)} (h : (keys ps).Nodup) : ofPairs ps = ps := by
  induction ps using List.reverseRecOn with
  | nil => rfl
  | append_singleton ps p ih =>
    rw [keys, List.map_append, List.nodup_append'] at h
    have hp : p.1 ∉ keys ps := fun hp => h.2.2 hp (List.mem_singleton_self p.1)
    rw [ofPairs_append ps p.1 p.2, ih h.1, put_of_not_mem p.2 hp]

theorem nodup_ofPairs (ps : List (String × Value)) : (keys (ofPairs ps)).Nodup := by
  induction ps using List.reverseRecOn with
  | nil => simp [ofPairs_nil]
  | append_singleton ps p ih =>
    rw [ofPairs_append ps p.1 p.2]
    exact nodup_put _ _ ih

/-- Of pairs with the same key the last one is found. -/
theorem get?_ofPairs (ps : List (String × Value)) (key : String) :
    get? (ofPairs ps) key = get? ps.reverse key := by
  induction ps using List.reverseRecOn with
  | nil => rfl
  | append_singleton ps p ih =>
    rw [ofPairs_append ps p.1 p.2, get?_put, ih, List.reverse_concat, get?_cons]

/-- Every field made from pairs is one of the pairs. -/
theorem mem_of_mem_ofPairs {ps : List (String × Value)} {p : String × Value}
    (h : p ∈ ofPairs ps) : p ∈ ps := by
  induction ps using List.reverseRecOn with
  | nil => simp [ofPairs_nil] at h
  | append_singleton ps q ih =>
    rw [ofPairs_append ps q.1 q.2] at h
    rcases mem_put h with rfl | h
    · simp
    · exact List.mem_append_left _ (ih h)

end Fields
end ChartRender
