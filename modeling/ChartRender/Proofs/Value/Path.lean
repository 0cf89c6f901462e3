import ChartRender.Proofs.Value.DistinctKeys
/-!
# Reading and writing at paths

A write at a path is seen on that path and on its extensions (`Value.get?_set_append`), leaves a map
at every place on the way (`Value.get?_set_front`), and is not seen on paths that fork off
(`Value.get?_set_of_fork`). What obstructs a path for reading (`Value.Obstructs`), a value that is no
map, gives way to a map when something is written behind it.

Key definitions: `Value.Obstructs`.
Key theorems: `Value.get?_set_append`, `Value.get?_set_front`, `Value.get?_set_of_fork`,
`Value.Hereditary.set`.
-/

namespace ChartRender

/-! ### Dotted paths -/

theorem Text.split_ne_nil (separator : Char) : ∀ cs : List Char, Text.split separator cs ≠ []
  | [] => by simp [Text.split]
  | c :: cs => by
    rw [Text.split]
    split_ifs
    · simp
    · split <;> simp

/-- A dotted path has at least one key. -/
theorem KeyPath.ofText_ne_nil (path : String) : KeyPath.ofText path ≠ [] := by
  simp [KeyPath.ofText, Text.split_ne_nil]

namespace Value

/-! ### Reading -/

theorem not_map_or (v : Value) : v.map? = none ∨ ∃ fs, v = .map fs := by
  cases v <;> simp [map?]

@[simp] theorem get?_root (v : Value) : v.get? [] = some v := rfl

theorem get?_step (v : Value) (key : String) (rest : KeyPath) :
    v.get? (key :: rest) = (Fields.get? v.fields key).bind fun inner => inner.get? rest := rfl

theorem fields_of_not_map {v : Value} (h : v.map? = none) : v.fields = [] := by
  cases v with
  | map fields => simp [map?] at h
  | _ => rfl

/-- Where there is no map, nothing lies deeper. -/
theorem get?_step_of_not_map {v : Value} (h : v.map? = none) (key : String) (rest : KeyPath) :
    v.get? (key :: rest) = none := by
  rw [get?_step, fields_of_not_map h]
  rfl

/-- A value obstructs a path if it holds, at a place before the end of the path, what is no map. -/
def Obstructs (v : Value) (path : KeyPath) : Prop :=
  ∃ front back w, path = front ++ back ∧ back ≠ [] ∧ v.get? front = some w ∧ w.map? = none

theorem not_obstructs_root (v : Value) : ¬ v.Obstructs [] := by
  rintro ⟨front, back, w, hp, hb, -⟩
  exact hb (List.append_eq_nil_iff.mp hp.symm).2

/-- A path is obstructed at its first step or further on. -/
theorem obstructs_step {v : Value} {key : String} {rest : KeyPath} :
    v.Obstructs (key :: rest) ↔
      v.map? = none ∨ ∃ w, Fields.get? v.fields key = some w ∧ w.Obstructs rest := by
  constructor
  · rintro ⟨front, back, w, hp, hb, hw, hm⟩
    cases front with
    | nil =>
      obtain rfl : v = w := by simpa using hw
      exact Or.inl hm
    | cons k front =>
      obtain ⟨rfl, rfl⟩ : key = k ∧ rest = front ++ back := by simpa using hp
      obtain ⟨u, hu, hw⟩ := Option.bind_eq_some_iff.mp hw
      exact Or.inr ⟨u, hu, front, back, w, rfl, hb, hw, hm⟩
  · rintro (hm | ⟨u, hu, front, back, w, rfl, hb, hw, hm⟩)
    · exact ⟨[], key :: rest, v, rfl, by simp, rfl, hm⟩
    · exact ⟨key :: front, back, w, rfl, hb, by rw [get?_step, hu]; exact hw, hm⟩

/-- Nothing is found at the end of an obstructed path. -/
theorem get?_of_obstructs : ∀ {path : KeyPath} {v : Value}, v.Obstructs path → v.get? path = none
  | [], v, h => absurd h (not_obstructs_root v)
  | key :: rest, v, h => by
    rcases obstructs_step.mp h with hm | ⟨w, hw, h⟩
    · exact get?_step_of_not_map hm _ _
    · rw [get?_step, hw]
      exact get?_of_obstructs h

/-! ### Writing -/

@[simp] theorem set_root (v new : Value) : v.set new [] = new := rfl

/-- What a write at a path meets under the first key: the value there, or an empty map. -/
def innerAt (v : Value) (key : String) : Value := (Fields.get? v.fields key).getD .empty

theorem set_step (v new : Value) (key : String) (rest : KeyPath) : v.set new (key :: rest) =
    .map (Fields.put v.fields key ((v.innerAt key).set new rest)) := rfl

/-- Nothing but the fields of a value is left after a write inside it. -/
theorem set_congr_fields {v w : Value} (h : v.fields = w.fields) (new : Value) {path : KeyPath}
    (hp : path ≠ []) : v.set new path = w.set new path := by
  cases path with
  | nil => exact absurd rfl hp
  | cons key rest => rw [set_step, set_step, innerAt, innerAt, h]

/-- After a write at a path its extensions lead into what was written. -/
theorem get?_set_append (new : Value) (rest : KeyPath) : ∀ (path : KeyPath) (v : Value),
    (v.set new path).get? (path ++ rest) = new.get? rest
  | [], _ => rfl
  | key :: path, v => by
    rw [set_step, List.cons_append, get?_step, fields, Fields.get?_put_self, Option.bind_some]
    exact get?_set_append new rest path _

/-- After a write at a path there is a map at every place on the way. -/
theorem get?_set_front (new : Value) {back : KeyPath} (hb : back ≠ []) :
    ∀ (front : KeyPath) (v : Value), ∃ fs, (v.set new (front ++ back)).get? front = some (.map fs)
  | [], v => by
    cases back with
    | nil => exact absurd rfl hb
    | cons key rest => exact ⟨_, rfl⟩
  | key :: front, v => by
    rw [List.cons_append, set_step, get?_step, fields, Fields.get?_put_self, Option.bind_some]
    exact get?_set_front new hb front _

/-- A write at a path is not seen on paths that fork off it. -/
theorem get?_set_of_fork (new : Value) : ∀ {path q : KeyPath} (v : Value), ¬ path <+: q →
    ¬ q <+: path → (v.set new path).get? q = v.get? q
  | [], _, _, h, _ => absurd List.nil_prefix h
  | _ :: _, [], _, _, h => absurd List.nil_prefix h
  | key :: path, k :: q, v, h, h' => by
    rw [set_step, get?_step, get?_step, fields]
    by_cases hk : k = key
    · subst hk
      rw [List.cons_prefix_cons, and_iff_right rfl] at h h'
      rw [Fields.get?_put_self, Option.bind_some, get?_set_of_fork new _ h h', innerAt]
      cases hv : Fields.get? v.fields k with
      | some w => rfl
      | none =>
        cases q with
        | nil => exact absurd List.nil_prefix h'
        | cons l q => rfl
    · rw [Fields.get?_put_of_ne _ _ hk]

/-- **Writing at a path keeps what is hereditary.** -/
theorem Hereditary.set {P : Value → Prop} (hP : Hereditary P) {new : Value} (hn : P new) :
    ∀ {path : KeyPath} {v : Value}, P v → P (v.set new path)
  | [], _, _ => hn
  | key :: rest, v, hv => by
    rw [set_step]
    refine hP.map_put key (hP.map_fields hv) (hP.set hn ?_)
    unfold innerAt
    cases hg : Fields.get? v.fields key with
    | none => exact hP.empty
    | some w => exact hP.get?_fields hv hg

/-- What is found at a path has distinct keys too. -/
theorem HasDistinctKeys.get? : ∀ {path : KeyPath} {v w : Value}, v.HasDistinctKeys →
    v.get? path = some w → w.HasDistinctKeys
  | [], v, w, h, hw => by
    obtain rfl : v = w := by simpa [Value.get?] using hw
    exact h
  | key :: rest, v, w, h, hw => by
    obtain ⟨u, hu, hw⟩ := Option.bind_eq_some_iff.mp hw
    exact HasDistinctKeys.get? (h.get?_fields hu) hw

end Value
end ChartRender
