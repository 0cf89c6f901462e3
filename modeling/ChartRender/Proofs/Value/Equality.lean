import ChartRender.Proofs.Binary64.Integer
import ChartRender.Proofs.Value.Place
import ChartRender.Proofs.Value.Sorted
/-!
# Equality of values

Lists are equal element by element, and maps if they hold equal values under the same keys, in
whatever order (`Value.equals_map_iff`). From this equality is symmetric, and equal values have equal
parts at the same places. It is not transitive: an integer is equal to the nearest number, and so may
be another integer. But only where the outer two values hold such integers at the same place it fails
(`Value.equals_trans_of_sameInts`), so that it is transitive from a value without integers on.

Key definitions: `Value.isIntFree`, `Value.SameInts`.
Key theorems: `Value.equals_map_iff`, `Value.equals_symm`, `Value.equals_part?`,
`Value.equals_trans_of_sameInts`, `Value.equals_trans`.
-/

namespace ChartRender
namespace Value

/-! ### Values without integers -/

mutual

/-- Whether there is no integer in the value, at any depth. -/
def isIntFree : Value → Bool
  | .int _ => false
  | .list items => areIntFree items
  | .map fields => areIntFreeFields fields
  | _ => true

/-- Whether there is no integer in some values. -/
def areIntFree : List Value → Bool
  | [] => true
  | v :: rest => isIntFree v && areIntFree rest

/-- Whether there is no integer in some fields. -/
def areIntFreeFields : List (String × Value) → Bool
  | [] => true
  | (_, v) :: rest => isIntFree v && areIntFreeFields rest

end

theorem areIntFree_iff : ∀ {items : List Value},
    areIntFree items = true ↔ ∀ v ∈ items, v.isIntFree = true
  | [] => by simp [areIntFree]
  | v :: rest => by
    have ih : areIntFree rest = true ↔ ∀ v ∈ rest, v.isIntFree = true := areIntFree_iff
    rw [areIntFree, Bool.and_eq_true, ih, List.forall_mem_cons]

theorem areIntFreeFields_iff : ∀ {fields : Fields},
    areIntFreeFields fields = true ↔ ∀ p ∈ fields, p.2.isIntFree = true
  | [] => by simp [areIntFreeFields]
  | (k, v) :: rest => by
    have ih : areIntFreeFields rest = true ↔ ∀ p ∈ rest, p.2.isIntFree = true :=
      areIntFreeFields_iff
    rw [areIntFreeFields, Bool.and_eq_true, ih, List.forall_mem_cons]

@[simp] theorem isIntFree_list {items : List Value} :
    isIntFree (.list items) = true ↔ ∀ v ∈ items, v.isIntFree = true := by
  rw [isIntFree, areIntFree_iff]

@[simp] theorem isIntFree_map {fields : Fields} :
    isIntFree (.map fields) = true ↔ ∀ p ∈ fields, p.2.isIntFree = true := by
  rw [isIntFree, areIntFreeFields_iff]

/-! ### What is equal to a value -/

theorem equals_null_iff {w : Value} : Value.null.equals w = true ↔ w = .null := by
  cases w with
  | null => exact iff_of_true rfl rfl
  | _ => exact iff_of_false Bool.false_ne_true (by rintro ⟨⟩)

theorem equals_bool_iff {b : Bool} {w : Value} : (Value.bool b).equals w = true ↔ w = .bool b := by
  cases w with
  | bool c =>
    change (b == c) = true ↔ _
    rw [beq_iff_eq, Value.bool.injEq, eq_comm]
  | _ => exact iff_of_false Bool.false_ne_true (by rintro ⟨⟩)

theorem equals_string_iff {s : String} {w : Value} :
    (Value.string s).equals w = true ↔ w = .string s := by
  cases w with
  | string t =>
    change (s == t) = true ↔ _
    rw [beq_iff_eq, Value.string.injEq, eq_comm]
  | _ => exact iff_of_false Bool.false_ne_true (by rintro ⟨⟩)

theorem equals_number_iff {x : Binary64} {w : Value} : (Value.number x).equals w = true ↔
    (∃ y, w = .number y ∧ (x == y) = true) ∨ ∃ i, w = .int i ∧ (x == .ofInt64 i) = true := by
  cases w with
  | number y =>
    change (x == y) = true ↔ _
    simp
  | int i =>
    change (x == .ofInt64 i) = true ↔ _
    simp
  | _ => exact iff_of_false Bool.false_ne_true (by simp)

theorem equals_int_iff {i : Int64} {w : Value} : (Value.int i).equals w = true ↔
    w = .int i ∨ ∃ y, w = .number y ∧ (y == .ofInt64 i) = true := by
  cases w with
  | int j =>
    change (i == j) = true ↔ _
    rw [beq_iff_eq, Value.int.injEq, eq_comm]
    simp
  | number y =>
    change (y == .ofInt64 i) = true ↔ _
    simp
  | _ => exact iff_of_false Bool.false_ne_true (by simp)

theorem equalsAll_iff : ∀ {vs ws : List Value}, equalsAll vs ws = true ↔
    List.Forall₂ (fun v w => v.equals w = true) vs ws
  | [], [] => by simp [equalsAll]
  | [], _ :: _ => by simp [equalsAll]
  | _ :: _, [] => by simp [equalsAll]
  | v :: vs, w :: ws => by
    have ih : equalsAll vs ws = true ↔ List.Forall₂ (fun v w => v.equals w = true) vs ws :=
      equalsAll_iff
    rw [equalsAll, Bool.and_eq_true, ih, List.forall₂_cons]

/-- **Lists are equal element by element.** -/
theorem equals_list_iff {vs : List Value} {w : Value} : (Value.list vs).equals w = true ↔
    ∃ ws, w = .list ws ∧ List.Forall₂ (fun v w => v.equals w = true) vs ws := by
  cases w with
  | list ws =>
    change equalsAll vs ws = true ↔ _
    simp [equalsAll_iff]
  | _ => exact iff_of_false Bool.false_ne_true (by simp)

theorem equalsFields_iff : ∀ {fs gs : Fields}, equalsFields fs gs = true ↔
    ∀ p ∈ fs, ∃ w, Fields.get? gs p.1 = some w ∧ p.2.equals w = true
  | [], gs => by simp [equalsFields]
  | (k, v) :: rest, gs => by
    have ih : equalsFields rest gs = true ↔
        ∀ p ∈ rest, ∃ w, Fields.get? gs p.1 = some w ∧ p.2.equals w = true := equalsFields_iff
    rw [equalsFields, Bool.and_eq_true, ih, List.forall_mem_cons]
    cases Fields.get? gs k <;> simp

/-- What is related to something that was found was found itself. -/
theorem exists_of_rel_some {R : Value → Value → Prop} {v : Value} {found : Option Value}
    (h : Option.Rel R (some v) found) : ∃ w, found = some w ∧ R v w := by
  cases h with
  | some hr => exact ⟨_, rfl, hr⟩

/-- Related look-ups go on to related look-ups. -/
theorem rel_bind {R : Value → Value → Prop} {o o' : Option Value} {f g : Value → Option Value}
    (h : Option.Rel R o o') (hfg : ∀ v w, o = some v → o' = some w → R v w →
      Option.Rel R (f v) (g w)) : Option.Rel R (o.bind f) (o'.bind g) := by
  cases h with
  | none => exact .none
  | some hr => exact hfg _ _ rfl rfl hr

/-- Two look-ups are related if both find nothing, or related values. -/
theorem rel_get?_iff {R : Value → Value → Prop} {fs gs : Fields} {k : String} :
    Option.Rel R (Fields.get? fs k) (Fields.get? gs k) ↔
      (k ∈ Fields.keys fs ↔ k ∈ Fields.keys gs) ∧
        ∀ v w, Fields.get? fs k = some v → Fields.get? gs k = some w → R v w := by
  rw [Fields.mem_keys_iff, Fields.mem_keys_iff]
  cases Fields.get? fs k <;> cases Fields.get? gs k <;> simp

/-- To count fields and to look up those of one side is to relate all that is found. -/
theorem fields_rel_iff {R : Value → Value → Prop} {fs gs : Fields} (hf : (Fields.keys fs).Nodup)
    (hg : (Fields.keys gs).Nodup) :
    (fs.length = gs.length ∧ ∀ p ∈ fs, ∃ w, Fields.get? gs p.1 = some w ∧ R p.2 w) ↔
      ∀ k, Option.Rel R (Fields.get? fs k) (Fields.get? gs k) := by
  constructor
  · rintro ⟨hl, h⟩ k
    have hsub : Fields.keys fs ⊆ Fields.keys gs := by
      intro k hk
      obtain ⟨p, hp, rfl⟩ := List.mem_map.mp hk
      obtain ⟨w, hw, -⟩ := h p hp
      exact Fields.mem_keys_iff.mpr ⟨w, hw⟩
    have hperm : (Fields.keys fs).Perm (Fields.keys gs) :=
      (List.subperm_of_subset hf hsub).perm_of_length_le
        (by rw [Fields.length_keys, Fields.length_keys, hl])
    refine rel_get?_iff.mpr ⟨hperm.mem_iff, fun v w hv hw => ?_⟩
    obtain ⟨w', hw', hr⟩ := h (k, v) (Fields.mem_of_get? hv)
    obtain rfl := Option.some.inj (hw.symm.trans hw')
    exact hr
  · intro h
    have hperm : (Fields.keys fs).Perm (Fields.keys gs) :=
      (List.perm_ext_iff_of_nodup hf hg).mpr fun k => (rel_get?_iff.mp (h k)).1
    refine ⟨by rw [← Fields.length_keys, hperm.length_eq, Fields.length_keys], fun p hp => ?_⟩
    have hp := Fields.get?_of_mem hf hp
    obtain ⟨w, hw⟩ := Fields.mem_keys_iff.mp
      ((rel_get?_iff.mp (h p.1)).1.mp (Fields.mem_keys_iff.mpr ⟨p.2, hp⟩))
    exact ⟨w, hw, (rel_get?_iff.mp (h p.1)).2 p.2 w hp hw⟩

/-- **Maps are equal if they hold equal values under the same keys**, in whatever order. -/
theorem equals_map_iff {fs : Fields} {w : Value} (hf : (Fields.keys fs).Nodup)
    (hw : w.HasDistinctKeys) : (Value.map fs).equals w = true ↔ ∃ gs, w = .map gs ∧
      ∀ k, Option.Rel (fun v w => v.equals w = true) (Fields.get? fs k) (Fields.get? gs k) := by
  cases w with
  | map gs =>
    have hg := (hasDistinctKeys_map.mp hw).1
    change (fs.length == gs.length && equalsFields fs gs) = true ↔ _
    rw [Bool.and_eq_true, beq_iff_eq, equalsFields_iff,
      fields_rel_iff (R := fun v w => v.equals w = true) hf hg]
    simp
  | _ => exact iff_of_false Bool.false_ne_true (by simp)

/-! ### Symmetry -/

theorem equals_symm (v : Value) : ∀ w : Value, v.HasDistinctKeys → w.HasDistinctKeys →
    v.equals w = true → w.equals v = true := by
  induction v using Value.induction with
  | null =>
    intro w _ _ h
    rw [equals_null_iff.mp h]
    rfl
  | bool b =>
    intro w _ _ h
    rw [equals_bool_iff.mp h]
    exact equals_bool_iff.mpr rfl
  | string s =>
    intro w _ _ h
    rw [equals_string_iff.mp h]
    exact equals_string_iff.mpr rfl
  | number x =>
    intro w _ _ h
    rcases equals_number_iff.mp h with ⟨y, rfl, he⟩ | ⟨i, rfl, he⟩
    · exact Binary64.beq_symm he
    · exact he
  | int i =>
    intro w _ _ h
    rcases equals_int_iff.mp h with rfl | ⟨y, rfl, he⟩
    · exact equals_int_iff.mpr (Or.inl rfl)
    · exact he
  | list vs ih =>
    intro w hv hw h
    obtain ⟨ws, rfl, hvw⟩ := equals_list_iff.mp h
    rw [hasDistinctKeys_list] at hv hw
    rw [List.forall₂_iff_zip] at hvw
    refine equals_list_iff.mpr ⟨vs, rfl, List.Forall₂.flip (List.forall₂_iff_zip.mpr ⟨hvw.1, ?_⟩)⟩
    intro v w hm
    obtain ⟨hvm, hwm⟩ := List.of_mem_zip hm
    exact ih v hvm w (hv v hvm) (hw w hwm) (hvw.2 hm)
  | map fs ih =>
    intro w hv hw h
    obtain ⟨hf, hvs⟩ := hasDistinctKeys_map.mp hv
    obtain ⟨gs, rfl, hfg⟩ := (equals_map_iff hf hw).mp h
    obtain ⟨hg, hws⟩ := hasDistinctKeys_map.mp hw
    refine (equals_map_iff hg hv).mpr ⟨fs, rfl, fun k => rel_get?_iff.mpr ?_⟩
    obtain ⟨hk, he⟩ := rel_get?_iff.mp (hfg k)
    refine ⟨hk.symm, fun w v hgw hfv => ?_⟩
    have hvm := Fields.mem_of_get? hfv
    exact ih _ hvm w (hvs _ hvm) (hws _ (Fields.mem_of_get? hgw)) (he v w hfv hgw)

/-! ### Parts -/

/-- What a step leads to in equal values is equal. -/
theorem equals_child? {v w : Value} (hv : v.HasDistinctKeys) (hw : w.HasDistinctKeys)
    (h : v.equals w = true) (step : Step) :
    Option.Rel (fun v w => v.equals w = true) (v.child? step) (w.child? step) := by
  cases v with
  | null =>
    rw [equals_null_iff.mp h]
    exact .none
  | bool b =>
    rw [equals_bool_iff.mp h]
    exact .none
  | string s =>
    rw [equals_string_iff.mp h]
    exact .none
  | number x =>
    rcases equals_number_iff.mp h with ⟨y, rfl, -⟩ | ⟨i, rfl, -⟩
    · exact .none
    · exact .none
  | int i =>
    rcases equals_int_iff.mp h with rfl | ⟨y, rfl, -⟩
    · exact .none
    · exact .none
  | list vs =>
    obtain ⟨ws, rfl, hvw⟩ := equals_list_iff.mp h
    cases step with
    | key k => exact .none
    | index n =>
      rw [child?_list, child?_list]
      obtain ⟨hl, hvw⟩ := List.forall₂_iff_get.mp hvw
      rcases Nat.lt_or_ge n vs.length with hn | hn
      · have hn' : n < ws.length := hl ▸ hn
        rw [List.getElem?_eq_getElem hn, List.getElem?_eq_getElem hn']
        exact .some (hvw n hn hn')
      · rw [List.getElem?_eq_none hn, List.getElem?_eq_none (hl ▸ hn)]
        exact .none
  | map fs =>
    obtain ⟨gs, rfl, hfg⟩ := (equals_map_iff (hasDistinctKeys_map.mp hv).1 hw).mp h
    cases step with
    | index n => exact .none
    | key k => exact hfg k

/-- **Equal values have equal parts at the same places.** -/
theorem equals_part? : ∀ (place : List Step) {v w : Value}, v.HasDistinctKeys →
    w.HasDistinctKeys → v.equals w = true →
    Option.Rel (fun v w => v.equals w = true) (v.part? place) (w.part? place)
  | [], _, _, _, _, h => .some h
  | step :: rest, _, _, hv, hw, h =>
    rel_bind (equals_child? hv hw h step) fun _ _ hcv hcw he =>
      equals_part? rest (hereditary_hasDistinctKeys.child? hv hcv)
        (hereditary_hasDistinctKeys.child? hw hcw) he

/-- Wherever two values both hold an integer, it is the same. -/
def SameInts (v u : Value) : Prop :=
  ∀ place i j, v.part? place = some (.int i) → u.part? place = some (.int j) → i = j

theorem SameInts.child {v u v' u' : Value} (h : SameInts v u) (step : Step)
    (hv : v.child? step = some v') (hu : u.child? step = some u') : SameInts v' u' := by
  intro place i j hi hj
  refine h (step :: place) i j ?_ ?_
  · rwa [part?_step hv]
  · rwa [part?_step hu]

/-- Equal values do not hold different integers at the same place. -/
theorem sameInts_of_equals {v u : Value} (hv : v.HasDistinctKeys) (hu : u.HasDistinctKeys)
    (h : v.equals u = true) : SameInts v u := by
  intro place i j hi hj
  obtain ⟨w, hw, he⟩ := exists_of_rel_some (hi ▸ equals_part? place hv hu h)
  obtain rfl := Option.some.inj (hj.symm.trans hw)
  rcases equals_int_iff.mp he with hij | ⟨y, hij, -⟩
  · exact (Value.int.inj hij).symm
  · cases hij

theorem isIntFree_child? {v w : Value} {step : Step} (h : v.isIntFree = true)
    (hw : v.child? step = some w) : w.isIntFree = true := by
  rcases child?_cases hw with ⟨items, rfl, hm⟩ | ⟨fields, k, rfl, -, hm⟩
  · exact isIntFree_list.mp h w hm
  · exact isIntFree_map.mp h _ hm

theorem part?_ne_int_of_isIntFree (i : Int64) : ∀ (place : List Step) {v : Value},
    v.isIntFree = true → v.part? place ≠ some (.int i)
  | [], v, h => by
    rintro he
    rw [Option.some.inj he, isIntFree] at h
    cases h
  | step :: rest, v, h => by
    rw [part?]
    cases hc : v.child? step with
    | none => simp
    | some w => exact part?_ne_int_of_isIntFree i rest (isIntFree_child? h hc)

/-! ### Transitivity -/

/-- **Equality is transitive between values that do not hold different integers** at the same
place. -/
theorem equals_trans_of_sameInts (v : Value) : ∀ w u : Value, v.HasDistinctKeys →
    w.HasDistinctKeys → u.HasDistinctKeys → v.equals w = true → w.equals u = true →
    SameInts v u → v.equals u = true := by
  induction v using Value.induction with
  | null =>
    intro w u _ _ _ h h' _
    rwa [equals_null_iff.mp h] at h'
  | bool b =>
    intro w u _ _ _ h h' _
    rwa [equals_bool_iff.mp h] at h'
  | string s =>
    intro w u _ _ _ h h' _
    rwa [equals_string_iff.mp h] at h'
  | number x =>
    intro w u _ _ _ h h' _
    rcases equals_number_iff.mp h with ⟨y, rfl, he⟩ | ⟨i, rfl, he⟩
    · rcases equals_number_iff.mp h' with ⟨z, rfl, he'⟩ | ⟨j, rfl, he'⟩
      · exact Binary64.beq_trans he he'
      · exact Binary64.beq_trans he he'
    · rcases equals_int_iff.mp h' with rfl | ⟨z, rfl, he'⟩
      · exact he
      · exact Binary64.beq_trans he (Binary64.beq_symm he')
  | int i =>
    intro w u _ _ _ h h' hs
    rcases equals_int_iff.mp h with rfl | ⟨y, rfl, he⟩
    · exact h'
    · rcases equals_number_iff.mp h' with ⟨z, rfl, he'⟩ | ⟨j, rfl, -⟩
      · exact equals_int_iff.mpr (.inr ⟨z, rfl, Binary64.beq_trans (Binary64.beq_symm he') he⟩)
      -- The number in the middle may be nearest to both integers, so that only `hs` says more.
      · exact equals_int_iff.mpr (.inl (congrArg Value.int (hs [] i j rfl rfl).symm))
  | list vs ih =>
    intro w u hv hw hu h h' hs
    obtain ⟨ws, rfl, hvw⟩ := equals_list_iff.mp h
    obtain ⟨us, rfl, hwu⟩ := equals_list_iff.mp h'
    rw [hasDistinctKeys_list] at hv hw hu
    obtain ⟨hl, hvw⟩ := List.forall₂_iff_get.mp hvw
    obtain ⟨hl', hwu⟩ := List.forall₂_iff_get.mp hwu
    refine equals_list_iff.mpr ⟨us, rfl, List.forall₂_iff_get.mpr ⟨hl.trans hl', ?_⟩⟩
    intro i h₁ h₃
    have h₂ := hl ▸ h₁
    have hsame : SameInts (vs.get ⟨i, h₁⟩) (us.get ⟨i, h₃⟩) :=
      hs.child (.index i) (List.getElem?_eq_getElem h₁) (List.getElem?_eq_getElem h₃)
    exact ih _ (List.get_mem _ _) _ _ (hv _ (List.get_mem _ _)) (hw _ (List.get_mem _ _))
      (hu _ (List.get_mem _ _)) (hvw i h₁ h₂) (hwu i h₂ h₃) hsame
  | map fs ih =>
    intro w u hv hw hu h h' hs
    obtain ⟨hf, hvs⟩ := hasDistinctKeys_map.mp hv
    obtain ⟨gs, rfl, hfg⟩ := (equals_map_iff hf hw).mp h
    obtain ⟨hg, hws⟩ := hasDistinctKeys_map.mp hw
    obtain ⟨hs', rfl, hgh⟩ := (equals_map_iff hg hu).mp h'
    refine (equals_map_iff hf hu).mpr ⟨hs', rfl, fun k => rel_get?_iff.mpr ?_⟩
    obtain ⟨hk, he⟩ := rel_get?_iff.mp (hfg k)
    obtain ⟨hk', he'⟩ := rel_get?_iff.mp (hgh k)
    refine ⟨hk.trans hk', fun v u hfv hhu => ?_⟩
    have hvm := Fields.mem_of_get? hfv
    have hum := Fields.mem_of_get? hhu
    obtain ⟨w, hgw⟩ := Fields.mem_keys_iff.mp (hk.mp (Fields.mem_keys_iff.mpr ⟨v, hfv⟩))
    have hsame : SameInts v u := hs.child (.key k) hfv hhu
    exact ih _ hvm w u (hvs _ hvm) (hws _ (Fields.mem_of_get? hgw))
      ((hasDistinctKeys_map.mp hu).2 _ hum) (he v w hfv hgw) (he' w u hgw hhu) hsame

/-- Equality is transitive from a value without integers on. -/
theorem equals_trans (v w u : Value) (hi : v.isIntFree = true) (hv : v.HasDistinctKeys)
    (hw : w.HasDistinctKeys) (hu : u.HasDistinctKeys) (h : v.equals w = true)
    (h' : w.equals u = true) : v.equals u = true :=
  equals_trans_of_sameInts v w u hv hw hu h h' fun place i _ hv _ =>
    absurd hv (part?_ne_int_of_isIntFree i place hi)

end Value
end ChartRender
