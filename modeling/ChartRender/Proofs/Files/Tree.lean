import ChartRender.Files.Basic
import ChartRender.Proofs.Result
import ChartRender.Proofs.Text.Split
import Mathlib.Data.List.Nodup
import Mathlib.Data.List.Pairwise
/-!
# Files of a tree

In a tree that a file system can hold, the entries of a directory have different names, and no name
is empty or has a slash in it (`FileTree.WellFormed`). In such a tree every file is found once, and
different files have different paths (`FileTree.WellFormed.nodup_paths`), since the names that lead
to a file can be read off its path (`Text.split_join`).

Key definitions: `IsFileName`, `FileTree.WellFormed`.
Key theorems: `Location.text_injective`, `FileTree.WellFormed.find`,
`FileTree.WellFormed.nodup_files`, `FileTree.WellFormed.nodup_paths`.
-/

namespace ChartRender

/-! ### Locations -/

/-- A name that a file or a directory can have. -/
def IsFileName (name : String) : Prop := name ≠ "" ∧ '/' ∉ name.toList

instance (name : String) : Decidable (IsFileName name) :=
  inferInstanceAs (Decidable (name ≠ "" ∧ '/' ∉ name.toList))

/-- Only the root of a tree has an empty path. -/
theorem Location.text_ne_empty {l : Location} (h : ∀ name ∈ l, IsFileName name) (hl : l ≠ []) :
    l.text ≠ "" := by
  intro he
  have hs := Text.split_join '/' hl fun name hn => (h name hn).2
  change Text.split '/' l.text.toList = _ at hs
  rw [he] at hs
  obtain ⟨name, rest, rfl⟩ := List.exists_cons_of_ne_nil hl
  have hn : [] = name.toList := (List.cons.inj hs).1
  exact (h name List.mem_cons_self).1 (String.toList_eq_nil_iff.mp hn.symm)

/-- **A location can be read off its path.** -/
theorem Location.text_injective {l l' : Location} (h : ∀ name ∈ l, IsFileName name)
    (h' : ∀ name ∈ l', IsFileName name) (he : l.text = l'.text) : l = l' := by
  by_cases hl : l = []
  · by_contra hne
    subst hl
    exact Location.text_ne_empty h' (Ne.symm hne) he.symm
  by_cases hl' : l' = []
  · subst hl'
    exact absurd he (Location.text_ne_empty h hl)
  have hs := Text.split_join '/' hl fun name hn => (h name hn).2
  have hs' := Text.split_join '/' hl' fun name hn => (h' name hn).2
  change Text.split '/' l.text.toList = _ at hs
  change Text.split '/' l'.text.toList = _ at hs'
  rw [he, hs'] at hs
  exact (List.map_inj_right fun _ _ => String.toList_inj.mp).mp hs.symm

/-! ### Trees -/

/-- A tree in whose directories no name stands twice, and every name is one of a file. -/
inductive FileTree.WellFormed : FileTree → Prop
  | file (bytes : ByteArray) : WellFormed (.file bytes)
  | directory {entries : List (String × FileTree)} : (entries.map (·.1)).Nodup →
      (∀ e ∈ entries, IsFileName e.1) → (∀ e ∈ entries, WellFormed e.2) →
      WellFormed (.directory entries)

namespace FileTree.WellFormed

variable {t : FileTree}

/-- What lies in a well-formed tree is well-formed. -/
theorem get? {t' : FileTree} (h : t.WellFormed) {l : Location} (hg : t.get? l = some t') :
    t'.WellFormed := by
  induction l generalizing t with
  | nil =>
    rw [FileTree.get?] at hg
    exact Option.some.inj hg ▸ h
  | cons name rest ih =>
    cases h with
    | file bytes => cases hg
    | directory _ _ hw =>
      rw [FileTree.get?] at hg
      obtain ⟨inner, hi, hr⟩ := Option.bind_eq_some_iff.mp hg
      obtain ⟨front, back, rfl, -⟩ := List.lookup_eq_some_iff.mp hi
      exact ih (hw (name, inner) (by simp)) hr

/-- A path in a well-formed tree leads to a well-formed tree. -/
theorem find {fs : FileSystem} (h : fs.root.WellFormed) {path : String}
    (hf : fs.find path = .ok t) : t.WellFormed := by
  obtain ⟨l, -, hf⟩ := bind_eq_ok hf
  split at hf
  · obtain rfl := Except.ok.inj hf
    exact h.get? ‹_›
  · cases hf

/-- A tree of one directory, with files in it and no more, is well-formed if its names are. -/
theorem of_files {name : String} {entries : List (String × FileTree)} (hname : IsFileName name)
    (hd : (entries.map (·.1)).Nodup) (hn : ∀ e ∈ entries, IsFileName e.1)
    (hf : ∀ e ∈ entries, e.2.isDirectory = false) :
    (FileTree.directory [(name, .directory entries)]).WellFormed := by
  refine .directory (List.nodup_singleton _) (List.forall_mem_singleton.mpr hname) ?_
  refine List.forall_mem_singleton.mpr (.directory hd hn fun e he => ?_)
  obtain ⟨n, t⟩ := e
  cases t with
  | file bytes => exact .file bytes
  | directory inner => exact absurd (hf _ he) (by simp [FileTree.isDirectory])

end FileTree.WellFormed

/-! ### Walking -/

theorem perm_insertByName {α : Type} (entry : String × α) : ∀ es : List (String × α),
    (insertByName entry es).Perm (entry :: es)
  | [] => .refl _
  | e :: rest => by
    rw [insertByName]
    split
    · exact ((perm_insertByName entry rest).cons e).trans (.swap entry e rest)
    · exact .refl _

theorem perm_sortedByName {α : Type} : ∀ es : List (String × α), (sortedByName es).Perm es
  | [] => .refl _
  | e :: rest => (perm_insertByName e (sortedByName rest)).trans ((perm_sortedByName rest).cons e)

theorem FileTree.filesOfEntries_eq_map : ∀ entries : List (String × FileTree),
    filesOfEntries entries = entries.map fun e => (e.1, e.2.files)
  | [] => by rw [filesOfEntries, List.map_nil]
  | (name, t) :: rest => by rw [filesOfEntries, filesOfEntries_eq_map rest, List.map_cons]

/-- The files of a directory are those of its entries, each under the name of its entry. -/
theorem FileTree.perm_files_directory (entries : List (String × FileTree)) :
    (FileTree.directory entries).files.Perm
      (entries.flatMap fun e => e.2.files.map fun found => (e.1 :: found.1, found.2)) := by
  have h := (perm_sortedByName (filesOfEntries entries)).flatMap_right
    fun e => e.2.map fun found : FoundFile => (e.1 :: found.1, found.2)
  rw [FileTree.files]
  refine h.trans (.of_eq ?_)
  rw [filesOfEntries_eq_map, List.flatMap_map]

namespace FileTree.WellFormed

variable {t : FileTree}

/-- The names on the way to a file are names of files. -/
theorem isFileName (h : t.WellFormed) : ∀ found ∈ t.files, ∀ name ∈ found.1, IsFileName name := by
  induction h with
  | file bytes =>
    intro found hf name hn
    rw [FileTree.files, List.mem_singleton] at hf
    subst hf
    cases hn
  | @directory entries _ hv _ ih =>
    intro found hf name hn
    obtain ⟨e, he, hf⟩ := List.mem_flatMap.mp ((perm_files_directory entries).mem_iff.mp hf)
    obtain ⟨inner, hi, rfl⟩ := List.mem_map.mp hf
    rcases List.mem_cons.mp hn with rfl | hn
    · exact hv e he
    · exact ih e he inner hi name hn

/-- **Every file is found once.** -/
theorem nodup_files (h : t.WellFormed) : (t.files.map (·.1)).Nodup := by
  induction h with
  | file bytes =>
    rw [FileTree.files]
    exact List.nodup_singleton _
  | @directory entries hn _ _ ih =>
    rw [((perm_files_directory entries).map (·.1)).nodup_iff, List.map_flatMap,
      List.nodup_flatMap]
    constructor
    · intro e he
      have hm : (e.2.files.map fun found => (e.1 :: found.1, found.2)).map (·.1) =
          (e.2.files.map (·.1)).map (e.1 :: ·) := by simp
      rw [hm]
      exact (ih e he).map (List.cons_injective)
    · -- Locations in different entries start with different names.
      refine (List.pairwise_map.mp hn).imp fun {e e'} hne => ?_
      intro l hl hl'
      simp only [List.map_map, List.mem_map] at hl hl'
      obtain ⟨_, -, rfl⟩ := hl
      obtain ⟨_, -, he⟩ := hl'
      exact hne (List.cons.inj he).1.symm

/-- **Different files have different paths.** -/
theorem nodup_paths (h : t.WellFormed) : (t.files.map (·.1.text)).Nodup := by
  have hl := h.nodup_files
  rw [List.Nodup, List.pairwise_map] at hl ⊢
  refine hl.imp_of_mem fun {f f'} hf hf' hne he => ?_
  exact hne (Location.text_injective (h.isFileName f hf) (h.isFileName f' hf') he)

end FileTree.WellFormed
end ChartRender
