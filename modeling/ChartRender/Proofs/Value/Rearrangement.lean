import ChartRender.Proofs.Value.Occurrence
/-!
# Fields in another order

A value is rearranged by permuting the fields of maps in it, at any depth (`Value.Rearranged`). Under
each key stands what stood there before, or that rearranged. So the two values are equal, unless
not-a-number occurs in them, since then nothing is (`Value.Rearranged.equals_iff`).

Key definitions: `Value.Rearranged`.
Key theorems: `Value.Rearranged.hasDistinctKeys`, `Value.Rearranged.equals_iff`.
-/

namespace ChartRender

namespace Fields

/-- What is found does not depend on the order of fields. -/
theorem get?_perm {fs gs : Fields} (hf : (keys fs).Nodup) (h : fs.Perm gs) (k : String) :
    get? fs k = get? gs k := by
  have hkeys : (keys fs).Perm (keys gs) := h.map _
  have hg : (keys gs).Nodup := hkeys.nodup_iff.mp hf
  rcases Option.eq_none_or_eq_some (get? fs k) with hk | ⟨v, hv⟩
  · have hn : k ∉ keys gs := fun hm => get?_eq_none_iff.mp hk (hkeys.mem_iff.mpr hm)
    rw [hk, get?_eq_none_iff.mpr hn]
  · rw [hv, get?_of_mem hg (h.mem_iff.mp (mem_of_get? hv))]

/-- Fields with the same keys and with related values answer related values. -/
theorem rel_get?_of_forall₂ {R : Value → Value → Prop} (k : String) : ∀ {fs gs : Fields},
    keys fs = keys gs → List.Forall₂ R (fs.map (·.2)) (gs.map (·.2)) →
    Option.Rel R (get? fs k) (get? gs k)
  | [], gs, hk, _ => by
    rw [List.map_eq_nil_iff.mp hk.symm]
    exact .none
  | (l, v) :: fs, gs, hk, hv => by
    cases gs with
    | nil => cases hk
    | cons q gs =>
      obtain ⟨l', w⟩ := q
      obtain ⟨rfl, hkeys⟩ : l = l' ∧ keys fs = keys gs := List.cons.inj hk
      obtain ⟨hvw, hv⟩ := List.forall₂_cons.mp hv
      rw [get?_cons, get?_cons]
      split_ifs
      · exact .some hvw
      · exact rel_get?_of_forall₂ k hkeys hv

end Fields

namespace Value

/-- The second value is the first one with the fields of maps in it permuted, at any depth. -/
inductive Rearranged : Value → Value → Prop
  | same (v : Value) : Rearranged v v
  | list {vs ws : List Value} : List.Forall₂ Rearranged vs ws → Rearranged (.list vs) (.list ws)
  | map {fs gs hs : Fields} : Fields.keys fs = Fields.keys gs →
    List.Forall₂ Rearranged (fs.map (·.2)) (gs.map (·.2)) → gs.Perm hs →
    Rearranged (.map fs) (.map hs)

namespace Rearranged

/-- The elements of a list are rearranged one by one. -/
theorem of_list {vs : List Value} {w : Value} (h : Rearranged (.list vs) w) :
    ∃ ws, w = .list ws ∧ List.Forall₂ Rearranged vs ws := by
  cases h with
  | same => exact ⟨vs, rfl, List.forall₂_same.mpr fun v _ => .same v⟩
  | list h => exact ⟨_, rfl, h⟩

/-- A rearranged map holds rearranged values under the same keys. -/
theorem of_map {fs : Fields} {w : Value} (hf : (Fields.keys fs).Nodup)
    (h : Rearranged (.map fs) w) : ∃ hs, w = .map hs ∧ (Fields.keys hs).Nodup ∧
      ∀ k, Option.Rel Rearranged (Fields.get? fs k) (Fields.get? hs k) := by
  cases h with
  | same =>
    refine ⟨fs, rfl, hf, fun k => Fields.rel_get?_of_forall₂ k rfl ?_⟩
    exact List.forall₂_same.mpr fun v _ => .same v
  | @map _ gs hs hkeys hvalues horder =>
    have hg : (Fields.keys gs).Nodup := hkeys ▸ hf
    have hperm : (Fields.keys gs).Perm (Fields.keys hs) := horder.map _
    refine ⟨hs, rfl, hperm.nodup_iff.mp hg, fun k => ?_⟩
    rw [← Fields.get?_perm hg horder k]
    exact Fields.rel_get?_of_forall₂ k hkeys hvalues

theorem hasDistinctKeys {v : Value} : ∀ {w : Value}, Rearranged v w → v.HasDistinctKeys →
    w.HasDistinctKeys := by
  induction v using Value.induction with
  | list vs ih =>
    intro w h hv
    obtain ⟨ws, rfl, hvw⟩ := h.of_list
    obtain ⟨hl, hvw⟩ := List.forall₂_iff_get.mp hvw
    rw [hasDistinctKeys_list] at hv ⊢
    intro w hw
    obtain ⟨⟨n, hn⟩, rfl⟩ := List.mem_iff_get.mp hw
    have hn' : n < vs.length := hl ▸ hn
    exact ih _ (List.get_mem _ _) (hvw n hn' hn) (hv _ (List.get_mem _ _))
  | map fs ih =>
    intro w h hv
    obtain ⟨hf, hvs⟩ := hasDistinctKeys_map.mp hv
    obtain ⟨hs, rfl, hh, hrel⟩ := h.of_map hf
    refine hasDistinctKeys_map.mpr ⟨hh, fun p hp => ?_⟩
    have hget : Fields.get? hs p.1 = some p.2 := Fields.get?_of_mem hh hp
    obtain ⟨hk, hr⟩ := rel_get?_iff.mp (hrel p.1)
    obtain ⟨v, hv⟩ := Fields.mem_keys_iff.mp (hk.mpr (Fields.mem_keys_iff.mpr ⟨p.2, hget⟩))
    have hm := Fields.mem_of_get? hv
    exact ih _ hm (hr v p.2 hv hget) (hvs _ hm)
  | _ =>
    rintro w ⟨⟩ hv
    exact hv

/-- Without not-a-number a value is equal to what it is rearranged to. -/
theorem equals {v : Value} : ∀ {w : Value}, Rearranged v w → v.HasDistinctKeys → ¬ v.HasNaN →
    v.equals w = true := by
  induction v using Value.induction with
  | list vs ih =>
    intro w h hv hn
    obtain ⟨ws, rfl, hvw⟩ := h.of_list
    obtain ⟨hl, hvw⟩ := List.forall₂_iff_get.mp hvw
    rw [hasDistinctKeys_list] at hv
    rw [hasNaN_list] at hn
    push Not at hn
    refine equals_list_iff.mpr ⟨ws, rfl, List.forall₂_iff_get.mpr ⟨hl, fun n h₁ h₂ => ?_⟩⟩
    have hm := List.get_mem vs ⟨n, h₁⟩
    exact ih _ hm (hvw n h₁ h₂) (hv _ hm) (hn _ hm)
  | map fs ih =>
    intro w h hv hn
    have hw := h.hasDistinctKeys hv
    obtain ⟨hf, hvs⟩ := hasDistinctKeys_map.mp hv
    obtain ⟨hs, rfl, -, hrel⟩ := h.of_map hf
    rw [hasNaN_map] at hn
    push Not at hn
    refine (equals_map_iff hf hw).mpr ⟨hs, rfl, fun k => rel_get?_iff.mpr ?_⟩
    obtain ⟨hk, hr⟩ := rel_get?_iff.mp (hrel k)
    refine ⟨hk, fun v w hv hw => ?_⟩
    have hm := Fields.mem_of_get? hv
    exact ih _ hm (hr v w hv hw) (hvs _ hm) (hn _ hm)
  | _ =>
    rintro w ⟨⟩ hv hn
    exact (equals_self_iff _ hv).mpr hn

/-- **A value is equal to what it is rearranged to exactly if not-a-number does not occur in it.** -/
theorem equals_iff {v w : Value} (h : Rearranged v w) (hv : v.HasDistinctKeys) :
    v.equals w = true ↔ ¬ v.HasNaN :=
  ⟨not_hasNaN_of_equals hv (h.hasDistinctKeys hv), h.equals hv⟩

end Rearranged
end Value
end ChartRender
