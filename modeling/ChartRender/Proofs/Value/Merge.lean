import ChartRender.Proofs.Value.Path
import ChartRender.Value.Basic
/-!
# What a merge holds at each path

A merge is described by what is found in it at paths (`Value.MergedAt`, `Value.get?_merge`). The
overlay decides wherever it holds something, the base decides where the overlay leaves the path open,
and nothing is found where the overlay ends the path early (`Value.Obstructs`). Where both hold maps
there is a map, with the keys of the base first.

Key definitions: `Value.mergeOver`, `Value.MergedAt`.
Key theorems: `Value.get?_mergeFields`, `Value.keys_mergeFields`, `Value.Hereditary.merge`,
`Value.get?_merge`.
-/

namespace ChartRender
namespace Value

/-! ### The fields of a merge -/

/-- An overlay merged over what there is, if there is anything. -/
def mergeOver : Option Value → Value → Value
  | some base, overlay => base.merge overlay
  | none, overlay => overlay

theorem mergeFields_nil (base : Fields) : mergeFields base [] = base := rfl

theorem mergeFields_cons (base : Fields) (key : String) (v : Value) (rest : Fields) :
    mergeFields base ((key, v) :: rest) =
      mergeFields (Fields.put base key (mergeOver (Fields.get? base key) v)) rest := by
  rw [mergeFields]
  cases Fields.get? base key <;> rfl

theorem merge_map_map (fs gs : Fields) : (map fs).merge (.map gs) = .map (mergeFields fs gs) := by
  rw [merge]

/-- An overlay that is no map replaces the base. -/
theorem merge_of_overlay {overlay : Value} (h : overlay.map? = none) (base : Value) :
    base.merge overlay = overlay := by
  cases overlay with
  | map gs => simp [map?] at h
  | _ => rfl

/-- A base that is no map is replaced by the overlay. -/
theorem merge_of_base {base : Value} (h : base.map? = none) (overlay : Value) :
    base.merge overlay = overlay := by
  cases overlay with
  | map gs =>
    cases base with
    | map fs => simp [map?] at h
    | _ => rfl
  | _ => rfl

theorem mergeOver_of_not_map {overlay : Value} (h : overlay.map? = none) (base : Option Value) :
    mergeOver base overlay = overlay := by
  cases base with
  | none => rfl
  | some v => exact merge_of_overlay h v

theorem mergeOver_of_base {base : Option Value} (h : base.bind map? = none) (overlay : Value) :
    mergeOver base overlay = overlay := by
  cases base with
  | none => rfl
  | some v => exact merge_of_base h overlay

/-- What a merge holds under a key: the overlay's value, merged over the base's if there is one, or
else the base's. -/
theorem get?_mergeFields : ∀ {overlay : Fields} (base : Fields), (Fields.keys overlay).Nodup →
    ∀ key, Fields.get? (mergeFields base overlay) key =
      (Fields.get? overlay key).elim (Fields.get? base key)
        (fun v => some (mergeOver (Fields.get? base key) v))
  | [], _, _, _ => rfl
  | (k, v) :: rest, base, hd, key => by
    rw [Fields.keys_cons, List.nodup_cons] at hd
    rw [mergeFields_cons, get?_mergeFields _ hd.2, Fields.get?_cons]
    by_cases h : key = k
    · rw [h, Fields.get?_eq_none_iff.mpr hd.1]
      simp
    · rw [Fields.get?_put_of_ne _ _ h, if_neg h]

/-- The keys of a merge: those of the base, then the overlay's new ones, both in order. -/
theorem keys_mergeFields : ∀ {overlay : Fields} (base : Fields), (Fields.keys overlay).Nodup →
    Fields.keys (mergeFields base overlay) =
      Fields.keys base ++ (Fields.keys overlay).filter (· ∉ Fields.keys base)
  | [], base, _ => by simp [mergeFields_nil]
  | (k, v) :: rest, base, hd => by
    rw [Fields.keys_cons, List.nodup_cons] at hd
    rw [mergeFields_cons, keys_mergeFields _ hd.2, Fields.keys_put, Fields.keys_cons]
    by_cases hk : k ∈ Fields.keys base
    · simp [hk]
    · have hrest : ∀ l ∈ Fields.keys rest, l ≠ k := fun l hl he => hd.1 (he ▸ hl)
      have hfilter : (Fields.keys rest).filter (· ∉ Fields.keys base ++ [k]) =
          (Fields.keys rest).filter (· ∉ Fields.keys base) :=
        List.filter_congr fun l hl => by simp [hrest l hl]
      rw [if_neg hk, hfilter]
      simp [hk]

theorem nodup_mergeFields {overlay : Fields} : ∀ {base : Fields}, (Fields.keys base).Nodup →
    (Fields.keys (mergeFields base overlay)).Nodup := by
  induction overlay with
  | nil => exact fun hb => hb
  | cons p rest ih =>
    intro base hb
    rw [mergeFields_cons base p.1 p.2]
    exact ih (Fields.nodup_put _ _ hb)

namespace Hereditary

variable {P : Value → Prop}

mutual

/-- **Merging keeps what is hereditary.** -/
theorem merge (hP : Hereditary P) : ∀ {overlay base : Value}, P base → P overlay →
    P (base.merge overlay)
  | .map overlay, base, hb, ho => by
    cases base with
    | map fields =>
      rw [merge_map_map]
      exact hP.mergeFields hb (hP.map.mp ho).2
    | _ => exact ho
  | .null, _, _, ho | .bool _, _, _, ho | .number _, _, _, ho | .int _, _, _, ho
  | .string _, _, _, ho | .list _, _, _, ho => ho

theorem mergeFields (hP : Hereditary P) : ∀ {overlay : List (String × Value)} {base : Fields},
    P (.map base) → (∀ p ∈ overlay, P p.2) → P (.map (mergeFields base overlay))
  | [], _, hb, _ => hb
  | (key, v) :: rest, base, hb, ho => by
    rw [List.forall_mem_cons] at ho
    rw [mergeFields_cons]
    refine hP.mergeFields (hP.map_put key hb ?_) ho.2
    cases hg : Fields.get? base key with
    | none => exact ho.1
    | some w => exact hP.merge (hP.get?_fields hb hg) ho.1

end

end Hereditary

theorem hasDistinctKeys_merge {overlay base : Value} (hb : base.HasDistinctKeys)
    (ho : overlay.HasDistinctKeys) : (base.merge overlay).HasDistinctKeys :=
  hereditary_hasDistinctKeys.merge hb ho

/-! ### Paths in a merge -/

/-- Where the overlay holds something, that is found, merged over what the base holds. -/
theorem get?_merge_of_some {w : Value} : ∀ {path : KeyPath} (base : Value) {overlay : Value},
    overlay.HasDistinctKeys → overlay.get? path = some w →
    (base.merge overlay).get? path = some (mergeOver (base.get? path) w)
  | [], base, overlay, _, hw => by
    obtain rfl : overlay = w := by simpa using hw
    rfl
  | key :: rest, base, overlay, ho, hw => by
    obtain ⟨u, hu, hr⟩ := Option.bind_eq_some_iff.mp hw
    rcases not_map_or overlay with hm | ⟨gs, rfl⟩
    · simp [fields_of_not_map hm] at hu
    rcases not_map_or base with hm | ⟨fs, rfl⟩
    · rw [merge_of_base hm, get?_step_of_not_map hm, get?_step, hu]
      exact hr
    have hg : (Fields.keys gs).Nodup := ho.nodup_fields
    have hu' : Fields.get? gs key = some u := hu
    rw [merge_map_map, get?_step, fields, get?_mergeFields fs hg, hu', get?_step, fields]
    cases Fields.get? fs key with
    | none => exact hr
    | some v => exact get?_merge_of_some v (ho.get?_fields hu) hr

/-- Where the overlay leaves the path open, what the base holds is found. -/
theorem get?_merge_of_open : ∀ {path : KeyPath} (base : Value) {overlay : Value},
    overlay.HasDistinctKeys → ¬ overlay.Obstructs path → overlay.get? path = none →
    (base.merge overlay).get? path = base.get? path
  | [], _, _, _, _, hw => by simp at hw
  | key :: rest, base, overlay, ho, hobs, hw => by
    rcases not_map_or overlay with hm | ⟨gs, rfl⟩
    · exact absurd (obstructs_step.mpr (Or.inl hm)) hobs
    rcases not_map_or base with hm | ⟨fs, rfl⟩
    · rw [merge_of_base hm, get?_step_of_not_map hm, hw]
    have hg : (Fields.keys gs).Nodup := ho.nodup_fields
    rw [merge_map_map, get?_step, get?_step, fields, fields, get?_mergeFields fs hg]
    cases hu : Fields.get? gs key with
    | none => rfl
    | some u =>
      have hw' : u.get? rest = none := by simpa [get?_step, fields, hu] using hw
      have hobs' : ¬ u.Obstructs rest := fun h => hobs (obstructs_step.mpr (Or.inr ⟨u, hu, h⟩))
      cases Fields.get? fs key with
      | none => exact hw'
      | some v => exact get?_merge_of_open v (ho.get?_fields hu) hobs' hw'

/-- Behind what is no map in the overlay nothing is found. -/
theorem get?_merge_of_obstructs {path : KeyPath} (base : Value) {overlay : Value}
    (ho : overlay.HasDistinctKeys) (h : overlay.Obstructs path) :
    (base.merge overlay).get? path = none := by
  obtain ⟨front, back, w, rfl, hb, hw, hm⟩ := h
  refine get?_of_obstructs ⟨front, back, w, rfl, hb, ?_, hm⟩
  rw [get?_merge_of_some base ho hw, mergeOver_of_not_map hm]

/-- What is found at a path after a merge, by what the base and the overlay hold there. -/
structure MergedAt (base overlay : Value) (path : KeyPath) (found : Option Value) : Prop where
  /-- Nothing is found behind what is no map in the overlay. -/
  obstructed : overlay.Obstructs path → found = none
  /-- The overlay decides unless both hold maps. -/
  ofOverlay : ∀ w, overlay.get? path = some w →
    w.map? = none ∨ (base.get? path).bind map? = none → found = some w
  /-- The base decides where the overlay leaves the path open. -/
  ofBase : ¬ overlay.Obstructs path → overlay.get? path = none → found = base.get? path
  /-- Two maps become one, with the keys of the base before the new ones. -/
  ofMaps : ∀ fs gs, base.get? path = some (.map fs) → overlay.get? path = some (.map gs) →
    ∃ hs, found = some (.map hs) ∧ (Fields.keys hs).Nodup ∧
      Fields.keys hs = Fields.keys fs ++ (Fields.keys gs).filter (· ∉ Fields.keys fs)

/-- **A merge is described by what is found at paths.** -/
theorem get?_merge (path : KeyPath) {base overlay : Value} (hb : base.HasDistinctKeys)
    (ho : overlay.HasDistinctKeys) :
    MergedAt base overlay path ((base.merge overlay).get? path) where
  obstructed := get?_merge_of_obstructs base ho
  ofOverlay w hw h := by
    rw [get?_merge_of_some base ho hw]
    rcases h with h | h
    · rw [mergeOver_of_not_map h]
    · rw [mergeOver_of_base h]
  ofBase := get?_merge_of_open base ho
  ofMaps fs gs hf hg := by
    rw [get?_merge_of_some base ho hg, hf]
    have hd := hasDistinctKeys_map.mp (hb.get? hf)
    have hd' := hasDistinctKeys_map.mp (ho.get? hg)
    exact ⟨mergeFields fs gs, by rw [mergeOver, merge_map_map], nodup_mergeFields hd.1,
      keys_mergeFields fs hd'.1⟩

/-- The fields of an image: those of the base come first, and the overlay's new one last. -/
theorem get?_merge_image :
    HasDistinctKeys (.map [("debug", .null),
      ("image", .map [("tag", .string "1"), ("name", .string "web")])]) ∧
    HasDistinctKeys (.map [("image", .map [("pull", .string "Always"), ("tag", .null)])]) ∧
    MergedAt
      (.map [("debug", .null), ("image", .map [("tag", .string "1"), ("name", .string "web")])])
      (.map [("image", .map [("pull", .string "Always"), ("tag", .null)])]) ["image"]
      (some (.map [("tag", .null), ("name", .string "web"), ("pull", .string "Always")])) := by
  refine ⟨by simp, by simp, ?_⟩
  exact get?_merge ["image"] (by simp) (by simp)

end Value
end ChartRender
