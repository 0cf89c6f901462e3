import ChartRender.Proofs.Value.Overlay
/-!
# Many layers

Values are merged over one another in layers, the last of which is on top. The merge is a map if the
last layer is one, whatever lies below (`Value.map?_foldl_merge`). Something is found at a path if
some layer has something there and no layer above it obstructs the path (`Value.HeldBy`,
`Value.get?_foldl_merge`). A layer that is no map obstructs every path, so that nothing of what lies
below is found any more; a map obstructs only the paths behind what it holds, and an overlay of
assignments only the paths behind assignments.

Key definitions: `Value.HeldBy`.
Key theorems: `Value.map?_foldl_merge`, `Value.get?_foldl_merge`, `Value.exists_of_setAll_obstructs`.
-/

namespace ChartRender
namespace Value

variable {base overlay v w : Value} {vs : List Value} {path : KeyPath}

/-! ### The root -/

/-- A merge is a map if the overlay is one. -/
theorem map?_merge_eq_none_iff : (base.merge overlay).map? = none ↔ overlay.map? = none := by
  rcases not_map_or overlay with hm | ⟨gs, rfl⟩
  · rw [merge_of_overlay hm]
  · obtain ⟨hs, hh⟩ := mergeOver_map (some base) gs
    rw [show base.merge (.map gs) = .map hs from hh]
    simp [map?]

/-- **Layers make a map if the last of them is one.** -/
theorem map?_foldl_merge (base : Value) (vs : List Value) :
    (vs.foldl merge base).map? = none ↔ (vs.getLast?.getD base).map? = none := by
  rcases List.eq_nil_or_concat' vs with rfl | ⟨front, v, rfl⟩
  · rfl
  · rw [List.foldl_append, List.foldl_cons, List.foldl_nil, map?_merge_eq_none_iff]
    simp

/-! ### Paths -/

/-- Something is found in a merge where the overlay has something, or where the base has and the
overlay does not obstruct the path. -/
theorem get?_merge_ne_none_iff (ho : overlay.HasDistinctKeys) :
    (base.merge overlay).get? path ≠ none ↔
      overlay.get? path ≠ none ∨ base.get? path ≠ none ∧ ¬ overlay.Obstructs path := by
  by_cases hobs : overlay.Obstructs path
  · rw [get?_merge_of_obstructs base ho hobs, get?_of_obstructs hobs]
    simp [hobs]
  · cases hw : overlay.get? path with
    | none => simp [get?_merge_of_open base ho hobs hw, hobs]
    | some w => simp [get?_merge_of_some base ho hw]

/-- Some layer has something at a path, and no later one obstructs the path. -/
def HeldBy (vs : List Value) (path : KeyPath) : Prop :=
  ∃ front v back, vs = front ++ v :: back ∧ v.get? path ≠ none ∧ ∀ w ∈ back, ¬ w.Obstructs path

theorem heldBy_concat : HeldBy (vs ++ [w]) path ↔
    w.get? path ≠ none ∨ HeldBy vs path ∧ ¬ w.Obstructs path := by
  constructor
  · rintro ⟨front, v, back, he, hv, hb⟩
    rcases List.eq_nil_or_concat' back with rfl | ⟨back, u, rfl⟩
    · obtain ⟨-, rfl⟩ : vs = front ∧ w = v := by simpa using he
      exact .inl hv
    · rw [← List.cons_append, ← List.append_assoc] at he
      obtain ⟨rfl, hu⟩ := List.append_inj' he rfl
      obtain rfl : w = u := by simpa using hu
      exact .inr ⟨⟨front, v, back, rfl, hv, fun x hx => hb x (by simp [hx])⟩, hb w (by simp)⟩
  · rintro (hw | ⟨⟨front, v, back, rfl, hv, hb⟩, hw⟩)
    · exact ⟨vs, w, [], rfl, hw, by simp⟩
    · refine ⟨front, v, back ++ [w], by simp, hv, fun x hx => ?_⟩
      rcases List.mem_append.mp hx with hx | hx
      · exact hb x hx
      · obtain rfl : x = w := by simpa using hx
        exact hw

/-- **Something is found at a path if a layer holds it** and no later layer obstructs the path. -/
theorem get?_foldl_merge (base : Value) (hd : ∀ v ∈ vs, v.HasDistinctKeys) :
    (vs.foldl merge base).get? path ≠ none ↔ HeldBy (base :: vs) path := by
  induction vs using List.reverseRecOn with
  | nil =>
    have hbase : HeldBy ([] ++ [base]) path ↔ base.get? path ≠ none := by
      rw [heldBy_concat]
      simp [HeldBy]
    exact hbase.symm
  | append_singleton vs w ih =>
    rw [List.foldl_append, List.foldl_cons, List.foldl_nil,
      get?_merge_ne_none_iff (hd w (by simp)), ih fun v hv => hd v (by simp [hv]),
      ← List.cons_append, heldBy_concat]

theorem heldBy_cons_of_none (hv : v.get? path = none) : HeldBy (v :: vs) path ↔ HeldBy vs path := by
  constructor
  · rintro ⟨front, u, back, he, hu, hb⟩
    cases front with
    | nil =>
      obtain ⟨rfl, rfl⟩ : v = u ∧ vs = back := by simpa using he
      exact absurd hv hu
    | cons x front => exact ⟨front, u, back, (List.cons.inj he).2, hu, hb⟩
  · rintro ⟨front, u, back, rfl, hu, hb⟩
    exact ⟨v :: front, u, back, rfl, hu, hb⟩

/-! ### Obstructions -/

/-- A path is obstructed by a value that is no map, or by one behind a key. -/
theorem Obstructs.root_or_key (h : v.Obstructs path) : v.map? = none ∨
    ∃ key u, key ≠ [] ∧ LiesAbove key path ∧ v.get? key = some u ∧ u.map? = none := by
  obtain ⟨front, back, u, rfl, hb, hu, hm⟩ := h
  by_cases hf : front = []
  · subst hf
    obtain rfl : v = u := by simpa using hu
    exact .inl hm
  · exact .inr ⟨front, u, hf, liesAbove_append hb, hu, hm⟩

/-- What is no map in an overlay of assignments stands at or behind the path of one of them. -/
theorem exists_of_setAll_get? {as : List (KeyPath × Value)} {q : KeyPath}
    (h : (empty.setAll as).get? q = some w) (hw : w.map? = none) : ∃ a ∈ as, a.1 <+: q := by
  induction as using List.reverseRecOn with
  | nil =>
    rw [setAll_nil] at h
    simp [map?_empty_get? h, empty, map?] at hw
  | append_singleton as a ih =>
    by_cases ha : a.1 <+: q
    · exact ⟨a, by simp, ha⟩
    rw [setAll_append] at h
    by_cases hq : q <+: a.1
    · -- On the way to what an assignment writes there are maps.
      obtain ⟨back, hb⟩ := hq
      have hne : back ≠ [] := fun hn => ha ⟨[], by rw [← hb, hn]; simp⟩
      obtain ⟨fs, hf⟩ := get?_set_front a.2 hne q (empty.setAll as)
      rw [hb, h] at hf
      obtain rfl := Option.some.inj hf
      simp [map?] at hw
    · rw [get?_set_of_fork a.2 _ ha hq] at h
      obtain ⟨b, hb, hp⟩ := ih h
      exact ⟨b, by simp [hb], hp⟩

/-- **An overlay of assignments obstructs only what lies behind one of them.** -/
theorem exists_of_setAll_obstructs {as : List (KeyPath × Value)}
    (h : (empty.setAll as).Obstructs path) : ∃ a ∈ as, LiesAbove a.1 path := by
  obtain ⟨front, back, w, rfl, hb, hw, hm⟩ := h
  obtain ⟨a, ha, rest, rfl⟩ := exists_of_setAll_get? hw hm
  refine ⟨a, ha, ?_⟩
  rw [List.append_assoc]
  exact liesAbove_append fun he => hb (List.append_eq_nil_iff.mp he).2

/-- An overlay of assignments to paths is a map. -/
theorem map?_setAll_ne_none {as : List (KeyPath × Value)} (hp : ∀ a ∈ as, a.1 ≠ []) :
    (empty.setAll as).map? ≠ none := by
  intro hm
  obtain ⟨a, ha, hr⟩ := exists_of_setAll_get? (get?_root _) hm
  exact hp a ha (List.prefix_nil.mp hr)

end Value
end ChartRender
