import ChartRender.Command.Render
import ChartRender.Proofs.Command.Run
import ChartRender.Proofs.Values.Override
/-!
# Loading values

The values of files are merged in order, and the overrides are collected in an overlay that is merged
over them. That is not always what writing the overrides one after the other would give: when an
override writes behind an earlier one that had replaced a map of the files, the fields of that map
come back. `Command.loadValues_overrides` says where the two agree, `Command.loadValues_brings_back`
shows the difference.

Key theorems: `Command.mergeFiles_ok`, `Command.loadValues_ok`, `Command.loadValues_overrides`.
-/

namespace ChartRender
namespace Command

/-- The values of files merged one after the other. -/
def mergeAll (vs : List Value) : Value := vs.foldl Value.merge .empty

/-- Files that can be read are merged in order, and nothing changes but the messages. -/
theorem mergeFiles_ok (debug : Bool) : ∀ {files : List String} {vs : List Value} (s : Session)
    (base : Value), files.mapM (Values.ofFile s.files) = .ok vs →
    ∃ messages, runIn (mergeFiles debug base files) s =
      (.ok (vs.foldl Value.merge base), { s with messages := messages })
  | [], vs, s, base, h => by
    obtain rfl : [] = vs := Except.ok.inj h
    exact ⟨s.messages, rfl⟩
  | path :: rest, vs, s, base, h => by
    obtain ⟨v, ws, hv, hws, rfl⟩ := mapM_cons_ok h
    obtain ⟨m, hm⟩ := runIn_note debug ("Merged values from " ++ path) s
    obtain ⟨m', hm'⟩ := mergeFiles_ok debug { s with messages := m } (base.merge v) hws
    refine ⟨m', ?_⟩
    rw [mergeFiles, runIn_bind_ok (runIn_get s), hv, runIn_bind_ok (runIn_orFail_ok _ _ _),
      runIn_bind_ok hm, hm']
    rfl

/-- Values that are loaded are those of the files, with the overlay of the overrides merged over
them if there are overrides. -/
theorem loadValues_ok (debug : Bool) {files overrides : List String} {vs : List Value}
    {as : List (String × Value)} (s : Session)
    (hv : files.mapM (Values.ofFile s.files) = .ok vs)
    (ha : overrides.mapM Values.assignment = .ok as) :
    ∃ messages, runIn (loadValues files overrides debug) s =
      (.ok (if overrides.isEmpty then mergeAll vs
        else (mergeAll vs).merge (Value.empty.setAll (as.map Values.keyed))),
        { s with messages := messages }) := by
  obtain ⟨m, hm⟩ := mergeFiles_ok debug s .empty hv
  rw [loadValues, runIn_bind_ok hm]
  split_ifs with he
  · exact ⟨m, rfl⟩
  · rw [Values.ofOverrides_eq, ha]
    obtain ⟨m', hm'⟩ := runIn_note debug
      ("Applied " ++ toString overrides.length ++ " --set values") { s with messages := m }
    exact ⟨m', by
      rw [Except.map, runIn_bind_ok (runIn_orFail_ok _ _ _), runIn_bind_ok hm']
      rfl⟩

theorem hasDistinctKeys_foldl_merge : ∀ {vs : List Value} {base : Value}, base.HasDistinctKeys →
    (∀ v ∈ vs, v.HasDistinctKeys) → (vs.foldl Value.merge base).HasDistinctKeys
  | [], _, hb, _ => hb
  | v :: vs, base, hb, h => by
    rw [List.forall_mem_cons] at h
    rw [List.foldl_cons]
    exact hasDistinctKeys_foldl_merge (Value.hasDistinctKeys_merge hb h.1) h.2

/-- **Loaded values answer like overrides written one by one**, unless an override writes behind an
earlier one at whose path the files hold a map. Whatever the overrides are, all that can differ is
that something of the files is found behind an override where nothing should be. -/
theorem loadValues_overrides (s : Session) (debug : Bool) {files overrides : List String}
    {vs : List Value} {as : List (String × Value)}
    (hv : files.mapM (Values.ofFile s.files) = .ok vs)
    (ha : overrides.mapM Values.assignment = .ok as) (hn : ∀ a ∈ as, a.2.map? = none) :
    ∃ loaded direct messages,
      runIn (loadValues files overrides debug) s = (.ok loaded, { s with messages := messages }) ∧
      as.foldlM (fun v a => Values.set v a.1 a.2) (mergeAll vs) = .ok direct ∧
      ((as.Pairwise fun a b => Value.LiesAbove (KeyPath.ofText a.1) (KeyPath.ofText b.1) →
          (Values.get? (mergeAll vs) a.1).bind Value.map? = none) →
        ∀ path, Values.get? loaded path = Values.get? direct path) ∧
      ∀ path, Value.CollectedAt (mergeAll vs) (as.map Values.keyed) (KeyPath.ofText path)
        (Values.get? direct path) (Values.get? loaded path) := by
  obtain ⟨messages, hrun⟩ := loadValues_ok debug s hv ha
  have hb : (mergeAll vs).HasDistinctKeys := hasDistinctKeys_foldl_merge
    Value.hasDistinctKeys_empty (forall_of_mapM (fun _ _ => Values.hasDistinctKeys_of_ofFile) hv)
  have hd : ∀ a ∈ as, a.2.HasDistinctKeys :=
    forall_of_mapM (fun _ _ => Values.hasDistinctKeys_of_assignment) ha
  have hk : ∀ a ∈ as.map Values.keyed, a.2.map? = none ∧ a.2.HasDistinctKeys := by
    intro a h
    obtain ⟨b, hb, rfl⟩ := List.mem_map.mp h
    exact ⟨hn b hb, hd b hb⟩
  refine ⟨_, _, messages, hrun, Values.foldlM_set _ ha, ?_⟩
  cases overrides with
  | nil =>
    obtain rfl : [] = as := Except.ok.inj ha
    exact ⟨fun _ _ => rfl, fun path => .refl _ _ _ _⟩
  | cons o os =>
    obtain ⟨a, bs, -, -, rfl⟩ := mapM_cons_ok ha
    refine ⟨fun hp path => ?_, fun path => Value.collectedAt hk (KeyPath.ofText_ne_nil path)⟩
    rw [Value.setAll_eq_merge hb (by simp) hk (List.pairwise_map.mpr hp)]
    rfl

/-! ### One map in one file -/

/-- Files of which one holds values, with a map among them. -/
def nestedFiles : FileSystem := ⟨.directory [("v.yaml", .file "a:\n  c: x\n".toUTF8)], []⟩

theorem ofFile_nestedFiles : ["v.yaml"].mapM (Values.ofFile nestedFiles) =
    .ok [.map [("a", .map [("c", .string "x")])]] := by decide +kernel

/-- An override of a field in the map is found there after loading. -/
theorem loadValues_overrides_field : ∃ loaded messages,
    runIn (loadValues ["v.yaml"] ["b=p", "a.c=q"] false) (.start nestedFiles) =
      (.ok loaded, { Session.start nestedFiles with messages := messages }) ∧
    Values.get? loaded "a.c" = some (.string "q") := by
  have ha : ["b=p", "a.c=q"].mapM Values.assignment =
      .ok [("b", .string "p"), ("a.c", .string "q")] := by decide +kernel
  obtain ⟨loaded, direct, messages, hrun, hset, heq, -⟩ :=
    loadValues_overrides (.start nestedFiles) false ofFile_nestedFiles ha (by decide +kernel)
  refine ⟨loaded, messages, hrun, ?_⟩
  rw [heq (by decide +kernel)]
  have hd : [("b", Value.string "p"), ("a.c", .string "q")].foldlM
      (fun v a => Values.set v a.1 a.2) (mergeAll [.map [("a", .map [("c", .string "x")])]]) =
      .ok (.map [("a", .map [("c", .string "q")]), ("b", .string "p")]) := by decide +kernel
  obtain rfl := Except.ok.inj (hd.symm.trans hset)
  decide +kernel

/-- Loaded values do not always answer like overrides written one by one: `a.b=q` makes a map of
what `a=p` had put in the place of one, and the fields of the old map come back with it. -/
theorem loadValues_brings_back :
    ¬ ∀ (s : Session) (debug : Bool) (files overrides : List String) (vs : List Value)
      (as : List (String × Value)) (loaded direct : Value),
      files.mapM (Values.ofFile s.files) = .ok vs →
      overrides.mapM Values.assignment = .ok as → (∀ a ∈ as, a.2.map? = none) →
      (runIn (loadValues files overrides debug) s).1 = .ok loaded →
      as.foldlM (fun v a => Values.set v a.1 a.2) (mergeAll vs) = .ok direct →
      ∀ path, Values.get? loaded path = Values.get? direct path := by
  intro h
  have := h (.start nestedFiles) false ["v.yaml"] ["a=p", "a.b=q"] _
    [("a", .string "p"), ("a.b", .string "q")]
    (.map [("a", .map [("c", .string "x"), ("b", .string "q")])])
    (.map [("a", .map [("b", .string "q")])]) ofFile_nestedFiles
    (by decide +kernel) (by decide +kernel) (by decide +kernel) (by decide +kernel) "a.c"
  exact absurd this (by decide +kernel)

end Command
end ChartRender
