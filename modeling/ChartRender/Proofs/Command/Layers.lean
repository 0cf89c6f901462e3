import ChartRender.Proofs.Command.LoadValues
import ChartRender.Proofs.Result
import ChartRender.Proofs.Value.Layers
/-!
# What is loaded

Loading either fails, at a file that gives no values or at an override that cannot be read, or it
merges the documents of the files and the overlay of the overrides in layers
(`Command.loadValues_outcome`). A document need not be a map. One that is none discards all that was
loaded before it, its root and every key, though nothing overrides them
(`Command.loadValues_scalar_root`); `Command.loadValues_keeps_keys` says when the root is a map and
which keys are still there.

Key definitions: `Command.layers`, `Command.LoadOutcome`, `Command.KeepsKeys`.
Key theorems: `Command.loadValues_outcome`, `Command.loadValues_keeps_keys`.
-/

namespace ChartRender
namespace Command

/-- The layers that are merged: the documents of the files and, if there are overrides, the overlay
of their assignments. -/
def layers (vs : List Value) (as : List (String × Value)) : List Value :=
  if as.isEmpty then vs else vs ++ [Value.empty.setAll (as.map Values.keyed)]

/-- What loading comes to: the first file that gives no values is the error, then the first override
that cannot be read, and else the layers are merged. -/
inductive LoadOutcome (fs : FileSystem) (files overrides : List String) :
    Except CommandError Value → Prop
  | file {path : String} {e : ValuesFileError} (hp : path ∈ files)
      (he : Values.ofFile fs path = .error e) : LoadOutcome fs files overrides
        (.error (.valuesFile path e))
  | override {vs : List Value} {argument : String} {e : ValuesError}
      (hv : files.mapM (Values.ofFile fs) = .ok vs) (ha : argument ∈ overrides)
      (he : Values.assignment argument = .error e) : LoadOutcome fs files overrides
        (.error (.overrides e))
  | merged {vs : List Value} {as : List (String × Value)}
      (hv : files.mapM (Values.ofFile fs) = .ok vs)
      (ha : overrides.mapM Values.assignment = .ok as) : LoadOutcome fs files overrides
        (.ok (mergeAll (layers vs as)))

/-- A file that gives no values ends the merging of files. -/
theorem mergeFiles_error (debug : Bool) {fs : FileSystem} {e : ValuesFileError} :
    ∀ {files : List String} (base : Value), files.mapM (Values.ofFile fs) = .error e →
    ∃ path ∈ files, Values.ofFile fs path = .error e ∧ ∀ s : Session, s.files = fs →
      Tells (mergeFiles debug base files) s (.error (.valuesFile path e))
  | [], _, h => by cases h
  | path :: rest, base, h => by
    rw [List.mapM_cons] at h
    cases hv : Values.ofFile fs path with
    | error e' =>
      rw [hv] at h
      obtain rfl : e' = e := Except.error.inj h
      refine ⟨path, List.mem_cons_self, hv, fun s hs => ?_⟩
      subst hs
      exact (Tells.get s).bind fun _ => (tells_orFail_error _ hv _).bind_error
    | ok v =>
      have hrest : rest.mapM (Values.ofFile fs) = .error e := by
        rw [hv] at h
        cases hr : rest.mapM (Values.ofFile fs) with
        | error e' => rw [hr] at h; exact h
        | ok vs => rw [hr] at h; cases h
      obtain ⟨p, hp, he, ht⟩ := mergeFiles_error debug (base.merge v) hrest
      refine ⟨p, List.mem_cons_of_mem path hp, he, fun s hs => ?_⟩
      subst hs
      exact (Tells.get s).bind fun _ => (tells_orFail_ok _ hv _).bind fun _ =>
        (tells_note debug _ _).bind fun _ => ht _ rfl

theorem mergeAll_layers (vs : List Value) (as : List (String × Value)) :
    mergeAll (layers vs as) = if as.isEmpty then mergeAll vs
      else (mergeAll vs).merge (Value.empty.setAll (as.map Values.keyed)) := by
  unfold layers
  split_ifs
  · rfl
  · rw [mergeAll, List.foldl_append]
    rfl

theorem isEmpty_of_mapM {α β ε : Type} {f : α → Except ε β} {xs : List α} {ys : List β}
    (h : xs.mapM f = .ok ys) : ys.isEmpty = xs.isEmpty := by
  cases xs with
  | nil =>
    obtain rfl : [] = ys := Except.ok.inj h
    rfl
  | cons x xs =>
    obtain ⟨y, zs, -, -, rfl⟩ := mapM_cons_ok h
    rfl

/-- **Loading fails or merges the layers**, and changes nothing but the messages. -/
theorem loadValues_outcome (files overrides : List String) (debug : Bool) (s : Session) :
    ∃ r, Tells (loadValues files overrides debug) s r ∧
      LoadOutcome s.files files overrides r := by
  cases hv : files.mapM (Values.ofFile s.files) with
  | error e =>
    obtain ⟨path, hp, he, ht⟩ := mergeFiles_error debug .empty hv
    exact ⟨_, (ht s rfl).bind_error, .file hp he⟩
  | ok vs =>
    cases ha : overrides.mapM Values.assignment with
    | ok as =>
      refine ⟨_, ?_, .merged hv ha⟩
      rw [mergeAll_layers, isEmpty_of_mapM ha]
      exact loadValues_ok debug s hv ha
    | error e =>
      obtain ⟨argument, hmem, he⟩ := mapM_eq_error ha
      refine ⟨_, ?_, .override hv hmem he⟩
      refine Tells.bind (mergeFiles_ok debug s .empty hv) fun m => ?_
      have hne : overrides.isEmpty = false := by
        cases overrides with
        | nil => cases hmem
        | cons o os => rfl
      rw [hne]
      exact Tells.bind_error (tells_orFail_error _ (by rw [Values.ofOverrides_eq, ha]; rfl) _)

/-! ### The root and the keys -/

variable {vs : List Value} {as : List (String × Value)} {path : KeyPath}

theorem layers_append (front vs : List Value) (as : List (String × Value)) :
    layers (front ++ vs) as = front ++ layers vs as := by
  unfold layers
  split_ifs
  · rfl
  · rw [List.append_assoc]

theorem mem_layers {w : Value} (h : w ∈ layers vs as) :
    w ∈ vs ∨ w = Value.empty.setAll (as.map Values.keyed) := by
  unfold layers at h
  split_ifs at h
  · exact .inl h
  · simpa using h

theorem hasDistinctKeys_layers (hv : ∀ v ∈ vs, v.HasDistinctKeys)
    (ha : ∀ a ∈ as, a.2.HasDistinctKeys) : ∀ w ∈ layers vs as, w.HasDistinctKeys := by
  intro w hw
  rcases mem_layers hw with hw | rfl
  · exact hv w hw
  · refine Value.hasDistinctKeys_setAll (fun b hb => ?_) Value.hasDistinctKeys_empty
    obtain ⟨a, hm, rfl⟩ := List.mem_map.mp hb
    exact ha a hm

/-- The overlay of the overrides is a map, and the first layers are put on an empty one. -/
theorem map?_mergeAll_layers : (mergeAll (layers vs as)).map? ≠ none ↔
    as ≠ [] ∨ ∀ v, vs.getLast? = some v → v.map? ≠ none := by
  rw [mergeAll, ne_eq, Value.map?_foldl_merge]
  cases as with
  | nil =>
    rw [show layers vs [] = vs from rfl]
    cases vs.getLast? <;> simp [Value.empty, Value.map?]
  | cons a as =>
    have ho : (Value.empty.setAll ((a :: as).map Values.keyed)).map? ≠ none :=
      Value.map?_setAll_ne_none fun b hb => by
        obtain ⟨c, -, rfl⟩ := List.mem_map.mp hb
        exact KeyPath.ofText_ne_nil c.1
    rw [show layers vs (a :: as) = vs ++ [Value.empty.setAll ((a :: as).map Values.keyed)] from rfl,
      List.getLast?_concat]
    exact ⟨fun _ => .inl (List.cons_ne_nil a as), fun _ => ho⟩

theorem get?_mergeAll_layers (hd : ∀ w ∈ layers vs as, w.HasDistinctKeys) (hp : path ≠ []) :
    (mergeAll (layers vs as)).get? path ≠ none ↔ Value.HeldBy (layers vs as) path := by
  obtain ⟨key, rest, rfl⟩ := List.exists_cons_of_ne_nil hp
  rw [mergeAll, Value.get?_foldl_merge _ hd, Value.heldBy_cons_of_none rfl]

/-- What loading leaves of the documents of the files. -/
structure KeepsKeys (vs : List Value) (as : List (String × Value)) (loaded : Value) : Prop where
  /-- The root is a map if there are overrides, or no files, or if the last document is a map. -/
  root : loaded.map? ≠ none ↔ as ≠ [] ∨ ∀ v, vs.getLast? = some v → v.map? ≠ none
  /-- A key is there if a layer has it and no later layer obstructs it. -/
  held : ∀ path, path ≠ [] → (loaded.get? path ≠ none ↔ Value.HeldBy (layers vs as) path)
  /-- A key of a document that is not there any more was discarded by a later document that is no
  map, or a later document or an override has replaced a key above it. -/
  lost : ∀ front v back path, vs = front ++ v :: back → path ≠ [] → v.get? path ≠ none →
    loaded.get? path = none →
    (∃ w ∈ back, w.map? = none) ∨
    (∃ w ∈ back, ∃ key u, key ≠ [] ∧ Value.LiesAbove key path ∧ w.get? key = some u ∧
      u.map? = none) ∨
    ∃ a ∈ as, Value.LiesAbove (KeyPath.ofText a.1) path

theorem keepsKeys_mergeAll (hd : ∀ w ∈ layers vs as, w.HasDistinctKeys) :
    KeepsKeys vs as (mergeAll (layers vs as)) where
  root := map?_mergeAll_layers
  held _ := get?_mergeAll_layers hd
  lost front v back path hvs hp hv hn := by
    have hnot : ¬ Value.HeldBy (layers vs as) path := fun h =>
      (get?_mergeAll_layers hd hp).mpr h hn
    have hobs : ∃ w ∈ layers back as, w.Obstructs path := by
      by_contra hno
      refine hnot ⟨front, v, layers back as, ?_, hv, fun w hw ho => hno ⟨w, hw, ho⟩⟩
      rw [hvs, layers_append, ← List.singleton_append, layers_append]
      rfl
    obtain ⟨w, hw, ho⟩ := hobs
    rcases mem_layers hw with hw | rfl
    · rcases ho.root_or_key with hm | ⟨key, u, hk, habove, hu, hm⟩
      · exact .inl ⟨w, hw, hm⟩
      · exact .inr (.inl ⟨w, hw, key, u, hk, habove, hu, hm⟩)
    · obtain ⟨b, hb, habove⟩ := Value.exists_of_setAll_obstructs ho
      obtain ⟨a, ha, rfl⟩ := List.mem_map.mp hb
      exact .inr (.inr ⟨a, ha, habove⟩)

/-- **A loaded root is a map if the last document is one** or if there are overrides, and a key is
lost only to a later document that is no map or to a key above it. So if all documents are maps, the
root is a map, and a key is still there unless it lies behind one that was overridden. -/
theorem loadValues_keeps_keys {s s' : Session} {debug : Bool} {files overrides : List String}
    {loaded : Value} (h : runIn (loadValues files overrides debug) s = (.ok loaded, s')) :
    ∃ vs as, files.mapM (Values.ofFile s.files) = .ok vs ∧
      overrides.mapM Values.assignment = .ok as ∧ KeepsKeys vs as loaded := by
  obtain ⟨r, ⟨m, ht⟩, ho⟩ := loadValues_outcome files overrides debug s
  obtain rfl : r = .ok loaded := congrArg Prod.fst (ht.symm.trans h)
  cases ho with
  | merged hv ha =>
    refine ⟨_, _, hv, ha, keepsKeys_mergeAll (hasDistinctKeys_layers ?_ ?_)⟩
    · exact forall_of_mapM (fun _ _ => Values.hasDistinctKeys_of_ofFile) hv
    · exact forall_of_mapM (fun _ _ => Values.hasDistinctKeys_of_assignment) ha

/-! ### Documents that are no maps -/

/-- Files that hold a map, a number and a list. -/
def mixedFiles : FileSystem := ⟨.directory [("map.yaml", .file "a: x\n".toUTF8),
  ("number.yaml", .file "5\n".toUTF8), ("list.yaml", .file "[]\n".toUTF8)], []⟩

/-- An override over a list makes a map, but the key of the first file is lost behind the list. -/
theorem loadValues_keeps_keys_list : ∃ loaded s',
    runIn (loadValues ["map.yaml", "list.yaml"] ["c=q"] false) (.start mixedFiles) =
      (.ok loaded, s') ∧ loaded.map? ≠ none ∧ loaded.get? ["a"] = none := by
  have hv : ["map.yaml", "list.yaml"].mapM (Values.ofFile mixedFiles) =
      .ok [.map [("a", .string "x")], .list []] := by decide +kernel
  have ha : ["c=q"].mapM Values.assignment = .ok [("c", .string "q")] := by decide +kernel
  obtain ⟨m, hrun⟩ := loadValues_ok false (.start mixedFiles) hv ha
  refine ⟨_, _, hrun, ?_⟩
  obtain ⟨vs, as, hv', ha', hk⟩ := loadValues_keeps_keys hrun
  obtain rfl := Except.ok.inj (hv.symm.trans hv')
  obtain rfl := Except.ok.inj (ha.symm.trans ha')
  exact ⟨hk.root.mpr (.inl (by simp)), by decide +kernel⟩

/-- A document that is no map discards the map of an earlier file, which nothing overrides. -/
theorem loadValues_scalar_root :
    ¬ ∀ (s : Session) (debug : Bool) (files overrides : List String) (loaded : Value),
      (runIn (loadValues files overrides debug) s).1 = .ok loaded → loaded.map? ≠ none := by
  intro h
  exact h (.start mixedFiles) false ["map.yaml", "number.yaml"] [] (.number (.ofInt 5))
    (by decide +kernel) rfl

end Command
end ChartRender
