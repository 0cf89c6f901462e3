import ChartRender.Proofs.Value.Merge
/-!
# Writing into an overlay

Assignments can be applied to a base directly, one after the other (`Value.setAll`), or collected in
an overlay that is then merged over the base. The two ways make the same value as long as no
assignment writes behind an earlier one at a place where the base holds a map
(`Value.setAll_eq_merge`): the earlier assignment hides that map (`Value.HidesMap`), and the merge
brings it back. In any case they agree wherever the direct way finds something, and differ at most
in what the base held behind an assignment (`Value.collectedAt`).

Key definitions: `Value.setAll`, `Value.HidesMap`, `Value.LiesAbove`, `Value.CollectedAt`.
Key theorems: `Value.merge_set`, `Value.setAll_eq_merge`, `Value.collectedAt`.
-/

namespace ChartRender
namespace Value

/-! ### One write -/

theorem map?_empty_get? {q : KeyPath} {w : Value} (h : empty.get? q = some w) : w = .empty := by
  cases q with
  | nil => exact (Option.some.inj h).symm
  | cons key rest => simp [get?_step, fields, empty] at h

/-- Putting a field into the overlay puts it, merged with the base's, into the merge. -/
theorem mergeFields_put {fs gs : Fields} (hf : (Fields.keys fs).Nodup)
    (hg : (Fields.keys gs).Nodup) (key : String) (v : Value) :
    mergeFields fs (Fields.put gs key v) =
      Fields.put (mergeFields fs gs) key (mergeOver (Fields.get? fs key) v) := by
  have hp : (Fields.keys (Fields.put gs key v)).Nodup := Fields.nodup_put _ _ hg
  refine Fields.ext_get? (nodup_mergeFields hf) ?_ fun k => ?_
  · rw [keys_mergeFields _ hp, Fields.keys_put, Fields.keys_put, keys_mergeFields _ hg]
    by_cases h : key ∈ Fields.keys gs
    · by_cases h' : key ∈ Fields.keys fs <;> simp [h, h']
    · by_cases h' : key ∈ Fields.keys fs <;> simp [h, h']
  · rw [get?_mergeFields _ hp, Fields.get?_put, Fields.get?_put, get?_mergeFields _ hg]
    by_cases h : k = key
    · simp [h]
    · simp [h]

/-- A write can be made in an overlay of nothing else. -/
theorem merge_set_empty {new : Value} (hn : new.map? = none) : ∀ (path : KeyPath) {base : Value},
    base.HasDistinctKeys → base.merge (empty.set new path) = base.set new path
  | [], base, _ => merge_of_overlay hn base
  | key :: rest, base, hb => by
    rcases not_map_or base with hm | ⟨fs, rfl⟩
    · rw [merge_of_base hm]
      exact set_congr_fields (by rw [fields_of_not_map hm]; rfl) new (by simp)
    have hf : (Fields.keys fs).Nodup := hb.nodup_fields
    have hput : mergeFields fs (Fields.put [] key ((innerAt .empty key).set new rest)) =
        Fields.put fs key
          (mergeOver (Fields.get? fs key) ((innerAt .empty key).set new rest)) := by
      rw [mergeFields_put hf (by simp) key, mergeFields_nil]
    rw [set_step, set_step, fields, empty, fields, merge_map_map, ← empty, hput, innerAt, innerAt,
      fields]
    cases hv : Fields.get? fs key with
    | none => rfl
    | some v =>
      have ih := merge_set_empty hn rest (hb.get?_fields hv)
      simp only [mergeOver, Option.getD_some]
      rw [← ih]
      rfl

/-- An overlay hides a map of the base before the end of a path if it holds there what is no
map. -/
def HidesMap (base overlay : Value) (path : KeyPath) : Prop :=
  ∃ front back w fs, path = front ++ back ∧ back ≠ [] ∧ overlay.get? front = some w ∧
    w.map? = none ∧ base.get? front = some (.map fs)

theorem hidesMap_here {overlay : Value} (h : overlay.map? = none) (fs : Fields) (key : String)
    (rest : KeyPath) : HidesMap (.map fs) overlay (key :: rest) :=
  ⟨[], key :: rest, overlay, fs, rfl, by simp, rfl, h, rfl⟩

theorem hidesMap_step {fs gs : Fields} {key : String} {v w : Value}
    (hv : Fields.get? fs key = some v) (hw : Fields.get? gs key = some w) {rest : KeyPath}
    (h : HidesMap v w rest) : HidesMap (.map fs) (.map gs) (key :: rest) := by
  obtain ⟨front, back, u, hs, rfl, hb, hu, hm, hf⟩ := h
  refine ⟨key :: front, back, u, hs, rfl, hb, ?_, hm, ?_⟩
  · rw [get?_step, fields, hw]
    exact hu
  · rw [get?_step, fields, hv]
    exact hf

/-- **A write into the overlay is a write into the merge**, unless it is made behind something that
hides a map of the base. -/
theorem merge_set {new : Value} (hn : new.map? = none) : ∀ (path : KeyPath) {base overlay : Value},
    base.HasDistinctKeys → overlay.HasDistinctKeys → ¬ HidesMap base overlay path →
    base.merge (overlay.set new path) = (base.merge overlay).set new path
  | [], base, _, _, _, _ => merge_of_overlay hn base
  | key :: rest, base, overlay, hb, ho, hh => by
    rcases not_map_or base with hm | ⟨fs, rfl⟩
    · rw [merge_of_base hm, merge_of_base hm]
    rcases not_map_or overlay with hm | ⟨gs, rfl⟩
    · exact absurd (hidesMap_here hm fs key rest) hh
    have hf : (Fields.keys fs).Nodup := hb.nodup_fields
    have hg : (Fields.keys gs).Nodup := ho.nodup_fields
    rw [set_step, merge_map_map, merge_map_map, set_step, fields, fields, mergeFields_put hf hg,
      innerAt, innerAt, fields, fields, get?_mergeFields _ hg]
    cases hv : Fields.get? fs key with
    | none => cases Fields.get? gs key <;> rfl
    | some v =>
      cases hw : Fields.get? gs key with
      | none =>
        simp only [mergeOver, Option.getD_none, Option.elim_none, Option.getD_some]
        rw [merge_set_empty hn rest (hb.get?_fields hv)]
      | some w =>
        have hh' : ¬ HidesMap v w rest := fun h => hh (hidesMap_step hv hw h)
        simp only [mergeOver, Option.getD_some, Option.elim_some]
        rw [merge_set hn rest (hb.get?_fields hv) (ho.get?_fields hw) hh']

/-! ### Many writes -/

/-- What assignments of values to paths make of a value, one after the other. -/
def setAll (v : Value) (assignments : List (KeyPath × Value)) : Value :=
  assignments.foldl (fun v a => v.set a.2 a.1) v

theorem setAll_nil (v : Value) : v.setAll [] = v := rfl

theorem setAll_append (v : Value) (as : List (KeyPath × Value)) (a : KeyPath × Value) :
    v.setAll (as ++ [a]) = (v.setAll as).set a.2 a.1 := by
  rw [setAll, List.foldl_append]
  rfl

theorem Hereditary.setAll {P : Value → Prop} (hP : Hereditary P) {as : List (KeyPath × Value)}
    (ha : ∀ a ∈ as, P a.2) {v : Value} (hv : P v) : P (v.setAll as) := by
  induction as using List.reverseRecOn with
  | nil => exact hv
  | append_singleton as a ih =>
    rw [setAll_append]
    exact hP.set (ha a (by simp)) (ih fun b hb => ha b (by simp [hb]))

theorem hasDistinctKeys_setAll {as : List (KeyPath × Value)} (ha : ∀ a ∈ as, a.2.HasDistinctKeys)
    {v : Value} (hv : v.HasDistinctKeys) : (v.setAll as).HasDistinctKeys :=
  hereditary_hasDistinctKeys.setAll ha hv

/-- After a write there is no leaf but those of before and, at its path, the one written. -/
theorem get?_set_leaf {v new w : Value} (hn : new.map? = none) {path q : KeyPath}
    (h : (v.set new path).get? q = some w) (hw : w.map? = none) :
    q = path ∨ v.get? q = some w := by
  by_cases hp : path <+: q
  · obtain ⟨rest, rfl⟩ := hp
    rw [get?_set_append] at h
    cases rest with
    | nil => exact Or.inl (List.append_nil _)
    | cons key rest => simp [get?_step_of_not_map hn] at h
  by_cases hq : q <+: path
  · obtain ⟨back, rfl⟩ := hq
    by_cases hb : back = []
    · exact Or.inl (by rw [hb, List.append_nil])
    · obtain ⟨fs, hf⟩ := get?_set_front new hb q v
      obtain rfl : map fs = w := by rw [hf] at h; simpa using h
      simp [map?] at hw
  · rw [get?_set_of_fork new v hp hq] at h
    exact Or.inr h

/-- What is no map in an overlay of assignments stands at the path of one of them. -/
theorem exists_of_setAll_leaf {as : List (KeyPath × Value)} (hn : ∀ a ∈ as, a.2.map? = none)
    {q : KeyPath} {w : Value} (h : (empty.setAll as).get? q = some w) (hw : w.map? = none) :
    ∃ a ∈ as, a.1 = q := by
  induction as using List.reverseRecOn with
  | nil =>
    rw [setAll_nil] at h
    simp [map?_empty_get? h, empty, map?] at hw
  | append_singleton as a ih =>
    rw [setAll_append] at h
    rcases get?_set_leaf (hn a (by simp)) h hw with rfl | h
    · exact ⟨a, by simp, rfl⟩
    · obtain ⟨b, hb, he⟩ := ih (fun b hb => hn b (by simp [hb])) h
      exact ⟨b, by simp [hb], he⟩

/-- One path is a proper front part of another. -/
def LiesAbove (p q : KeyPath) : Prop := p <+: q ∧ p ≠ q

instance (p q : KeyPath) : Decidable (LiesAbove p q) :=
  inferInstanceAs (Decidable (p <+: q ∧ p ≠ q))

theorem liesAbove_append {front back : KeyPath} (hb : back ≠ []) :
    LiesAbove front (front ++ back) :=
  ⟨List.prefix_append _ _, fun h => hb (List.append_right_eq_self.mp h.symm)⟩

/-- **Assignments can be collected in an overlay**, unless one is made behind an earlier one at
whose path the base holds a map. -/
theorem setAll_eq_merge {base : Value} (hb : base.HasDistinctKeys) {as : List (KeyPath × Value)}
    (hne : as ≠ []) (ha : ∀ a ∈ as, a.2.map? = none ∧ a.2.HasDistinctKeys)
    (hp : as.Pairwise fun a b => LiesAbove a.1 b.1 → (base.get? a.1).bind map? = none) :
    base.setAll as = base.merge (empty.setAll as) := by
  induction as using List.reverseRecOn with
  | nil => exact absurd rfl hne
  | append_singleton as a ih =>
    have ha' : ∀ b ∈ as, b.2.map? = none ∧ b.2.HasDistinctKeys := fun b hb => ha b (by simp [hb])
    obtain ⟨hn, -⟩ := ha a (by simp)
    obtain ⟨hp', -, hlast⟩ := List.pairwise_append.mp hp
    rw [setAll_append, setAll_append]
    by_cases has : as = []
    · rw [has, setAll_nil, setAll_nil, merge_set_empty hn _ hb]
    have ho : (empty.setAll as).HasDistinctKeys :=
      hasDistinctKeys_setAll (fun b hb => (ha' b hb).2) hasDistinctKeys_empty
    have hh : ¬ HidesMap base (empty.setAll as) a.1 := by
      rintro ⟨front, back, w, fs, he, hback, hw, hm, hf⟩
      obtain ⟨b, hbm, rfl⟩ := exists_of_setAll_leaf (fun b hb => (ha' b hb).1) hw hm
      have := hlast b hbm a (by simp) (he ▸ liesAbove_append hback)
      simp [hf, map?] at this
    rw [ih has ha' hp', merge_set hn a.1 hb ho hh]

/-! ### Without a condition -/

/-- What assignments to a base and the same assignments to nothing have in common at a path. -/
structure AssignedAt (base : Value) (as : List (KeyPath × Value)) (path : KeyPath) : Prop where
  /-- What is no map in the overlay is in the base too after the assignments. -/
  leaf : ∀ w, (empty.setAll as).get? path = some w → w.map? = none →
    (base.setAll as).get? path = some w
  /-- Where the overlay has a map below its root, so has the base. -/
  inner : path ≠ [] → ∀ gs, (empty.setAll as).get? path = some (.map gs) →
    ∃ fs, (base.setAll as).get? path = some (.map fs)
  /-- Where the overlay has nothing, the base is as it was, or it has lost what lay below an
  assignment. -/
  nothing : (empty.setAll as).get? path = none → (base.setAll as).get? path = base.get? path ∨
    (base.setAll as).get? path = none ∧ ∃ a ∈ as, LiesAbove a.1 path

theorem assignedAt (base : Value) {as : List (KeyPath × Value)} (hn : ∀ a ∈ as, a.2.map? = none)
    (path : KeyPath) : AssignedAt base as path := by
  induction as using List.reverseRecOn with
  | nil =>
    refine ⟨fun w h hw => ?_, fun hp gs h => ?_, fun _ => Or.inl rfl⟩
    · simp [map?_empty_get? h, empty, map?] at hw
    · cases path with
      | nil => exact absurd rfl hp
      | cons key rest => simp [setAll_nil, get?_step, fields, empty] at h
  | append_singleton as a ih =>
    specialize ih fun b hb => hn b (by simp [hb])
    have hna := hn a (by simp)
    have hmem : ∀ {b}, b ∈ as → b ∈ as ++ [a] := fun h => List.mem_append_left _ h
    by_cases hp : a.1 <+: path
    · obtain ⟨rest, rfl⟩ := hp
      refine ⟨fun w h _ => ?_, fun _ gs h => ?_, fun h => ?_⟩ <;>
        rw [setAll_append, get?_set_append] at h <;> rw [setAll_append, get?_set_append]
      · exact h
      · exact ⟨gs, h⟩
      · have hr : rest ≠ [] := fun hr => by simp [hr] at h
        exact Or.inr ⟨h, a, by simp, liesAbove_append hr⟩
    by_cases hq : path <+: a.1
    · obtain ⟨back, he⟩ := hq
      have hb : back ≠ [] := fun hb => hp ⟨[], by rw [← he, hb]; simp⟩
      obtain ⟨fs, hf⟩ := get?_set_front a.2 hb path (empty.setAll as)
      obtain ⟨fs', hf'⟩ := get?_set_front a.2 hb path (base.setAll as)
      rw [he, ← setAll_append] at hf hf'
      refine ⟨fun w h hw => ?_, fun _ _ _ => ⟨fs', hf'⟩, fun h => ?_⟩
      · obtain rfl : map fs = w := by rw [hf] at h; simpa using h
        simp [map?] at hw
      · simp [hf] at h
    · have hS : (empty.setAll (as ++ [a])).get? path = (empty.setAll as).get? path := by
        rw [setAll_append, get?_set_of_fork _ _ hp hq]
      have hD : (base.setAll (as ++ [a])).get? path = (base.setAll as).get? path := by
        rw [setAll_append, get?_set_of_fork _ _ hp hq]
      refine ⟨by rw [hS, hD]; exact ih.leaf, by rw [hS, hD]; exact ih.inner, fun h => ?_⟩
      rw [hD]
      rcases ih.nothing (hS ▸ h) with h | ⟨h, b, hb, hab⟩
      · exact Or.inl h
      · exact Or.inr ⟨h, b, hmem hb, hab⟩

/-- What is found at a path after assignments to a base, against what is found when they were
collected in an overlay first. -/
structure CollectedAt (base : Value) (as : List (KeyPath × Value)) (path : KeyPath)
    (direct collected : Option Value) : Prop where
  /-- What is no map is the same. -/
  leaf : ∀ w, direct = some w → w.map? = none → collected = some w
  /-- A map is a map. -/
  inner : ∀ fs, direct = some (.map fs) → ∃ gs, collected = some (.map gs)
  /-- Nothing is nothing, or what the base held behind an assignment. -/
  nothing : direct = none →
    collected = none ∨ collected = base.get? path ∧ ∃ a ∈ as, LiesAbove a.1 path

/-- Lookups that answer the same way answer alike. -/
theorem CollectedAt.refl (base : Value) (as : List (KeyPath × Value)) (path : KeyPath)
    (found : Option Value) : CollectedAt base as path found found :=
  ⟨fun _ h _ => h, fun fs h => ⟨fs, h⟩, Or.inl⟩

/-- After a map in the overlay there is a map in the merge. -/
theorem mergeOver_map (base : Option Value) (gs : Fields) :
    ∃ hs, mergeOver base (.map gs) = .map hs := by
  cases base with
  | none => exact ⟨gs, rfl⟩
  | some v =>
    rcases not_map_or v with hm | ⟨fs, rfl⟩
    · exact ⟨gs, merge_of_base hm _⟩
    · exact ⟨_, merge_map_map fs gs⟩

theorem collectedAt {base : Value} {as : List (KeyPath × Value)}
    (ha : ∀ a ∈ as, a.2.map? = none ∧ a.2.HasDistinctKeys) {path : KeyPath} (hp : path ≠ []) :
    CollectedAt base as path ((base.setAll as).get? path)
      ((base.merge (empty.setAll as)).get? path) := by
  have hn : ∀ a ∈ as, a.2.map? = none := fun a h => (ha a h).1
  have ho : (empty.setAll as).HasDistinctKeys :=
    hasDistinctKeys_setAll (fun a h => (ha a h).2) hasDistinctKeys_empty
  have hat := assignedAt base hn path
  cases hS : (empty.setAll as).get? path with
  | some u =>
    rw [get?_merge_of_some base ho hS]
    rcases not_map_or u with hm | ⟨gs, rfl⟩
    · rw [hat.leaf u hS hm, mergeOver_of_not_map hm]
      exact .refl _ _ _ _
    · obtain ⟨fs, hf⟩ := hat.inner hp gs hS
      obtain ⟨hs, hh⟩ := mergeOver_map (base.get? path) gs
      rw [hf, hh]
      refine ⟨fun w h hw => ?_, fun _ _ => ⟨hs, rfl⟩, fun h => by simp at h⟩
      obtain rfl : map fs = w := by simpa using h
      simp [map?] at hw
  | none =>
    by_cases hobs : (empty.setAll as).Obstructs path
    · obtain ⟨front, back, w, he, hb, hw, hm⟩ := id hobs
      have hD : (base.setAll as).get? path = none :=
        get?_of_obstructs ⟨front, back, w, he, hb, (assignedAt base hn front).leaf w hw hm, hm⟩
      rw [hD, get?_merge_of_obstructs base ho hobs]
      exact .refl _ _ _ _
    · rw [get?_merge_of_open base ho hobs hS]
      rcases hat.nothing hS with hD | ⟨hD, hex⟩
      · rw [hD]
        exact .refl _ _ _ _
      · rw [hD]
        exact ⟨fun _ h => by simp at h, fun _ h => by simp at h, fun _ => Or.inr ⟨rfl, hex⟩⟩

end Value
end ChartRender
