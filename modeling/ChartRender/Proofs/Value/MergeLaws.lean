import ChartRender.Proofs.Value.Merge
/-!
# Laws of merging

Three layers can be merged from below or from above. The two ways give the same value, down to the
order of keys, unless at some path the middle layer holds what is no map while the layers around it
hold maps (`Value.SeparatedAt`): from below the lowest map is gone before the highest one comes,
from above both are merged. So the ways differ exactly if the highest map would have kept something
of the lowest (`Value.merge_assoc_iff`). Merging the same overlay once more changes nothing
(`Value.merge_merge_self`), which is associativity and the case of a value merged over itself.

Key definitions: `Value.mergeAt`, `Value.SeparatedAt`.
Key theorems: `Value.merge_assoc_iff`, `Value.merge_self`, `Value.merge_assoc_and_idem`.
-/

namespace ChartRender
namespace Value

variable {a b c : Value}

/-! ### One key -/

/-- What a merge holds under a key, by what the base and the overlay may hold there. -/
def mergeAt (base overlay : Option Value) : Option Value :=
  overlay.elim base fun v => some (mergeOver base v)

theorem get?_mergeFields_eq_mergeAt {overlay : Fields} (base : Fields)
    (h : (Fields.keys overlay).Nodup) (key : String) :
    Fields.get? (mergeFields base overlay) key =
      mergeAt (Fields.get? base key) (Fields.get? overlay key) :=
  get?_mergeFields base h key

/-- Under one key three layers can be merged either way if all of them hold something there for
which that is so, or if one of them holds nothing. -/
theorem mergeAt_assoc {x y z : Option Value}
    (h : ∀ u v w, x = some u → y = some v → z = some w →
      (u.merge v).merge w = u.merge (v.merge w)) :
    mergeAt (mergeAt x y) z = mergeAt x (mergeAt y z) := by
  cases z with
  | none => rfl
  | some w =>
    cases y with
    | none => rfl
    | some v =>
      cases x with
      | none => rfl
      | some u => exact congrArg some (h u v w rfl rfl rfl)

/-! ### The keys of three layers -/

theorem keys_mergeFields_assoc {fs gs hs : Fields} (hg : (Fields.keys gs).Nodup)
    (hh : (Fields.keys hs).Nodup) : Fields.keys (mergeFields (mergeFields fs gs) hs) =
      Fields.keys (mergeFields fs (mergeFields gs hs)) := by
  have hgh : (Fields.keys (mergeFields gs hs)).Nodup := nodup_mergeFields hg
  rw [keys_mergeFields _ hh, keys_mergeFields _ hg, keys_mergeFields _ hgh, keys_mergeFields _ hh,
    List.filter_append, List.filter_filter, List.append_assoc]
  congr 2
  refine List.filter_congr fun k _ => ?_
  by_cases hf : k ∈ Fields.keys fs
  · simp [hf]
  · simp [hf]

theorem mergeFields_assoc {fs gs hs : Fields} (hf : (Fields.keys fs).Nodup)
    (hg : (Fields.keys gs).Nodup) (hh : (Fields.keys hs).Nodup)
    (h : ∀ k u v w, Fields.get? fs k = some u → Fields.get? gs k = some v →
      Fields.get? hs k = some w → (u.merge v).merge w = u.merge (v.merge w)) :
    mergeFields (mergeFields fs gs) hs = mergeFields fs (mergeFields gs hs) := by
  refine Fields.ext_get? (nodup_mergeFields (nodup_mergeFields hf)) (keys_mergeFields_assoc hg hh)
    fun k => ?_
  have hgh : (Fields.keys (mergeFields gs hs)).Nodup := nodup_mergeFields hg
  rw [get?_mergeFields_eq_mergeAt _ hh, get?_mergeFields_eq_mergeAt _ hg,
    get?_mergeFields_eq_mergeAt _ hgh, get?_mergeFields_eq_mergeAt _ hh]
  exact mergeAt_assoc (h k)

/-! ### Associativity -/

/-- At a path the lowest and the highest of three layers hold maps, and the one between them holds
what is no map. -/
def SeparatedAt (a b c : Value) (path : KeyPath) (fs hs : Fields) : Prop :=
  a.get? path = some (.map fs) ∧ (∃ w, b.get? path = some w ∧ w.map? = none) ∧
    c.get? path = some (.map hs)

/-- Behind a key maps are separated only if it leads on in all three layers. -/
theorem separatedAt_step {fs gs hs us ws : Fields} {k : String} {rest : KeyPath} :
    SeparatedAt (.map fs) (.map gs) (.map hs) (k :: rest) us ws ↔
      ∃ u v w, Fields.get? fs k = some u ∧ Fields.get? gs k = some v ∧
        Fields.get? hs k = some w ∧ SeparatedAt u v w rest us ws := by
  simp only [SeparatedAt, get?_step, fields, Option.bind_eq_some_iff]
  constructor
  · rintro ⟨⟨u, hu, ha⟩, ⟨x, ⟨v, hv, hb⟩, hm⟩, w, hw, hc⟩
    exact ⟨u, v, w, hu, hv, hw, ha, ⟨x, hb, hm⟩, hc⟩
  · rintro ⟨u, v, w, hu, hv, hw, ha, ⟨x, hb, hm⟩, hc⟩
    exact ⟨⟨u, hu, ha⟩, ⟨x, ⟨v, hv, hb⟩, hm⟩, w, hw, hc⟩

theorem not_separatedAt_root {v : Value} (hb : b.map? ≠ none) (fs hs : Fields) :
    ¬ SeparatedAt a b v [] fs hs := by
  rintro ⟨-, ⟨w, hw, hm⟩, -⟩
  exact hb (Option.some.inj hw ▸ hm)

/-- Layers can be merged either way if, wherever two maps are separated, the upper one replaces the
lower one anyway. -/
theorem merge_assoc_of_replaces (c : Value) : ∀ a b : Value, a.HasDistinctKeys →
    b.HasDistinctKeys → c.HasDistinctKeys →
    (∀ path fs hs, SeparatedAt a b c path fs hs → (map fs).merge (.map hs) = .map hs) →
    (a.merge b).merge c = a.merge (b.merge c) := by
  induction c using Value.induction with
  | map hs ih =>
    intro a b ha hb hc h
    rcases not_map_or b with hm | ⟨gs, rfl⟩
    · -- The middle layer replaces the lowest one from below, but is replaced itself from above.
      rw [merge_of_overlay hm, merge_of_base hm]
      rcases not_map_or a with hm' | ⟨fs, rfl⟩
      · rw [merge_of_base hm']
      · exact (h [] fs hs ⟨rfl, ⟨b, rfl, hm⟩, rfl⟩).symm
    rcases not_map_or a with hm | ⟨fs, rfl⟩
    · rw [merge_of_base hm, merge_of_base hm]
    rw [merge_map_map, merge_map_map, merge_map_map, merge_map_map]
    refine congrArg map (mergeFields_assoc ha.nodup_fields hb.nodup_fields hc.nodup_fields ?_)
    intro k u v w hu hv hw
    exact ih (k, w) (Fields.mem_of_get? hw) u v (ha.get?_fields hu) (hb.get?_fields hv)
      (hc.get?_fields hw) fun path us ws hs =>
        h (k :: path) us ws (separatedAt_step.mpr ⟨u, v, w, hu, hv, hw, hs⟩)
  | _ =>
    intro a b _ _ _ _
    rw [merge_of_overlay rfl, merge_of_overlay rfl, merge_of_overlay rfl]

/-- **Layers can be merged either way exactly if, wherever two maps are separated, the upper one
replaces the lower one anyway.** -/
theorem merge_assoc_iff (ha : a.HasDistinctKeys) (hb : b.HasDistinctKeys)
    (hc : c.HasDistinctKeys) : (a.merge b).merge c = a.merge (b.merge c) ↔
      ∀ path fs hs, SeparatedAt a b c path fs hs → (map fs).merge (.map hs) = .map hs := by
  refine ⟨fun he path fs hs hsep => ?_, merge_assoc_of_replaces c a b ha hb hc⟩
  obtain ⟨hfs, ⟨w, hw, hm⟩, hhs⟩ := hsep
  have habove : (b.merge c).get? path = some (.map hs) := by
    rw [get?_merge_of_some b hc hhs, hw, mergeOver, merge_of_base hm]
  have hbelow : ((a.merge b).merge c).get? path = some (.map hs) := by
    rw [get?_merge_of_some _ hc hhs, get?_merge_of_some a hb hw, mergeOver,
      mergeOver_of_not_map hm, merge_of_base hm]
  have := get?_merge_of_some a (hasDistinctKeys_merge hb hc) habove
  rw [← he, hbelow, hfs] at this
  exact (Option.some.inj this).symm

/-! ### Idempotence -/

/-- **A value merged over itself is itself.** -/
theorem merge_self (v : Value) : v.HasDistinctKeys → v.merge v = v := by
  induction v using Value.induction with
  | map fs ih =>
    intro h
    obtain ⟨hk, hv⟩ := hasDistinctKeys_map.mp h
    have hkeys : Fields.keys (mergeFields fs fs) = Fields.keys fs := by
      rw [keys_mergeFields _ hk, List.filter_eq_nil_iff.mpr (by simp), List.append_nil]
    rw [merge_map_map]
    refine congrArg map (Fields.ext_get? (hkeys ▸ hk) hkeys fun k => ?_)
    rw [get?_mergeFields_eq_mergeAt _ hk]
    cases hu : Fields.get? fs k with
    | none => rfl
    | some u =>
      have hm := Fields.mem_of_get? hu
      exact congrArg some (ih (k, u) hm (hv (k, u) hm))
  | _ => exact fun _ => rfl

/-- **Merging the same overlay again changes nothing.** -/
theorem merge_merge_self (ha : a.HasDistinctKeys) (hb : b.HasDistinctKeys) :
    (a.merge b).merge b = a.merge b := by
  have hsep : ∀ path fs hs, ¬ SeparatedAt a b b path fs hs := by
    rintro path fs hs ⟨-, ⟨w, hw, hm⟩, hhs⟩
    rw [hw] at hhs
    obtain rfl := Option.some.inj hhs
    cases hm
  rw [(merge_assoc_iff ha hb hb).mpr fun path fs hs h => absurd h (hsep path fs hs),
    merge_self b hb]

/-- **Merging is associative wherever it can be, and idempotent.** Three layers can be merged either
way if nowhere what is no map separates two maps; where it does, the ways agree only if the upper
map would have replaced the lower one. -/
theorem merge_assoc_and_idem (ha : a.HasDistinctKeys) (hb : b.HasDistinctKeys)
    (hc : c.HasDistinctKeys) :
    ((∀ path fs hs, ¬ SeparatedAt a b c path fs hs) →
      (a.merge b).merge c = a.merge (b.merge c)) ∧
    ((a.merge b).merge c = a.merge (b.merge c) ↔
      ∀ path fs hs, SeparatedAt a b c path fs hs → (map fs).merge (.map hs) = .map hs) ∧
    (a.merge b).merge b = a.merge b := by
  have hiff := merge_assoc_iff ha hb hc
  exact ⟨fun h => hiff.mpr fun path fs hs hsep => absurd hsep (h path fs hs), hiff,
    merge_merge_self ha hb⟩

/-- Three layers of an image: what is no map in the middle stands over nothing. -/
theorem merge_assoc_and_idem_image :
    let a := map [("image", .map [("tag", .string "1")])]
    let b := map [("debug", .bool true), ("image", .map [("pull", .string "Always")])]
    let c := map [("image", .map [("tag", .null)]), ("debug", .map [])]
    a.HasDistinctKeys ∧ b.HasDistinctKeys ∧ c.HasDistinctKeys ∧
      (∀ path fs hs, ¬ SeparatedAt a b c path fs hs) ∧
      (a.merge b).merge c = a.merge (b.merge c) ∧ (a.merge b).merge b = a.merge b := by
  intro a b c
  have ha : a.HasDistinctKeys := by simp [a]
  have hb : b.HasDistinctKeys := by simp [b]
  have hc : c.HasDistinctKeys := by simp [c]
  have hsep : ∀ path fs hs, ¬ SeparatedAt a b c path fs hs := by
    intro path fs hs h
    cases path with
    | nil => exact not_separatedAt_root (by simp [b, map?]) fs hs h
    | cons key rest =>
      obtain ⟨u, v, w, hu, hv, hw, h⟩ := separatedAt_step.mp h
      obtain ⟨rfl, rfl⟩ : key = "image" ∧ u = map [("tag", .string "1")] := by
        simpa [Fields.get?_cons, eq_comm] using hu
      obtain rfl : v = map [("pull", .string "Always")] := by
        simpa [Fields.get?_cons, eq_comm] using hv
      obtain rfl : w = map [("tag", .null)] := by simpa [Fields.get?_cons, eq_comm] using hw
      cases rest with
      | nil => exact not_separatedAt_root (by simp [map?]) fs hs h
      | cons key rest =>
        obtain ⟨u, v, w, hu, hv, -⟩ := separatedAt_step.mp h
        simp only [Fields.get?_cons, Fields.get?_nil] at hu hv
        grind
  have := merge_assoc_and_idem ha hb hc
  exact ⟨ha, hb, hc, hsep, this.1 hsep, this.2.2⟩

-- From below the first map is gone before the last one comes, from above it is merged with it.
example : ((map [("a", .map [("b", .null)])]).merge (.map [("a", .null)])).merge
      (.map [("a", .map [])]) ≠
    (map [("a", .map [("b", .null)])]).merge ((map [("a", .null)]).merge (.map [("a", .map [])])) := by
  decide

end Value
end ChartRender
