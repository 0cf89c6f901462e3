import ChartRender.Proofs.Files.Tree
import ChartRender.Proofs.Text.ByteOrder
/-!
# The order of the files of a tree

A walk goes through each directory by the names of its entries, and through an entry before the next
one. So it finds the files in the order of their locations, compared name by name
(`FileTree.WellFormed.ascending_files`), and it finds all of them (`FileTree.WellFormed.mem_files_iff`).
Both together leave no choice: trees with the same files are walked alike, however the entries of their
directories are arranged (`FileTree.WellFormed.files_eq`).

Key definitions: `Location.Before`, `FileTree.SameFiles`.
Key theorems: `ascending_sortedByName`, `FileTree.sameFiles_of_perm`,
`FileTree.WellFormed.mem_files_iff`, `FileTree.WellFormed.ascending_files`,
`FileTree.WellFormed.files_eq`.
-/

namespace ChartRender

/-! ### Locations -/

/-- A location comes before another if its bytes do, name by name. -/
def Location.Before (l l' : Location) : Prop := l.map Text.bytes < l'.map Text.bytes

theorem Location.before_iff_lt : ∀ {l l' : Location}, l.Before l' ↔ l < l'
  | l, [] => by simp [Before]
  | [], name' :: rest' => by simp [Before]
  | name :: rest, name' :: rest' => by
    have ih : rest.map Text.bytes < rest'.map Text.bytes ↔ rest < rest' := before_iff_lt
    rw [Before, List.map_cons, List.map_cons, List.cons_lt_cons_iff, List.cons_lt_cons_iff,
      ← Text.lt_iff_bytes_lt, Text.bytes_injective.eq_iff, ih]

/-! ### Entries in order of their names -/

section
variable {α : Type} {entries : List (String × α)}

theorem ascending_insertByName {entry : String × α} :
    ∀ {es : List (String × α)}, (es.map (·.1)).Pairwise (· < ·) → entry.1 ∉ es.map (·.1) →
      ((insertByName entry es).map (·.1)).Pairwise (· < ·)
  | [], _, _ => List.pairwise_singleton _ _
  | e :: rest, h, hn => by
    rw [List.map_cons, List.pairwise_cons] at h
    rw [List.map_cons, List.mem_cons, not_or] at hn
    rw [insertByName]
    split_ifs with hlt
    · rw [List.map_cons, List.pairwise_cons]
      refine ⟨fun name hm => ?_, ascending_insertByName h.2 hn.2⟩
      rw [((perm_insertByName entry rest).map _).mem_iff] at hm
      rcases List.mem_cons.mp hm with rfl | hm
      · exact hlt
      · exact h.1 name hm
    · have hgt : entry.1 < e.1 := lt_of_le_of_ne (not_lt.mp hlt) hn.1
      rw [List.map_cons, List.map_cons, List.pairwise_cons]
      refine ⟨List.forall_mem_cons.mpr ⟨hgt, fun name hm => hgt.trans (h.1 name hm)⟩, ?_⟩
      exact List.pairwise_cons.mpr h

/-- **Entries of different names are put in ascending order.** -/
theorem ascending_sortedByName : ∀ {es : List (String × α)}, (es.map (·.1)).Nodup →
    ((sortedByName es).map (·.1)).Pairwise (· < ·)
  | [], _ => List.Pairwise.nil
  | e :: rest, h => by
    rw [List.map_cons, List.nodup_cons] at h
    have hrest : e.1 ∉ (sortedByName rest).map (·.1) := by
      rw [((perm_sortedByName rest).map _).mem_iff]
      exact h.1
    exact ascending_insertByName (ascending_sortedByName h.2) hrest

/-- The entry that is looked up is the only one of its name. -/
theorem lookup_eq_some_iff_mem (h : (entries.map (·.1)).Nodup) {name : String} {a : α} :
    entries.lookup name = some a ↔ (name, a) ∈ entries := by
  constructor
  · intro hl
    obtain ⟨front, back, rfl, -⟩ := List.lookup_eq_some_iff.mp hl
    simp
  · intro hm
    obtain ⟨front, back, rfl⟩ := List.append_of_mem hm
    refine List.lookup_eq_some_iff.mpr ⟨front, back, rfl, fun p hp => ?_⟩
    rw [List.map_append, List.nodup_append] at h
    exact bne_iff_ne.mpr (h.2.2 p.1 (List.mem_map_of_mem hp) name (by simp)).symm

end

/-! ### Files -/

namespace FileTree

/-- Trees that have the same files at the same locations. -/
def SameFiles (t t' : FileTree) : Prop :=
  ∀ l bytes, t.get? l = some (.file bytes) ↔ t'.get? l = some (.file bytes)

/-- Rearranging the entries of a directory changes none of its files. -/
theorem sameFiles_of_perm {entries entries' : List (String × FileTree)}
    (hn : (entries.map (·.1)).Nodup) (hp : entries.Perm entries') :
    (directory entries).SameFiles (directory entries') := by
  have hl : ∀ name, entries.lookup name = entries'.lookup name := fun name => by
    ext inner
    rw [lookup_eq_some_iff_mem hn, lookup_eq_some_iff_mem ((hp.map _).nodup_iff.mp hn),
      hp.mem_iff]
  rintro (_ | ⟨name, rest⟩) bytes
  · simp [FileTree.get?]
  · rw [FileTree.get?, FileTree.get?, hl]

namespace WellFormed

variable {t t' : FileTree}

/-- **All files are found, and nothing else.** -/
theorem mem_files_iff (h : t.WellFormed) {l : Location} {f : FileTree} :
    (l, f) ∈ t.files ↔ ∃ bytes, f = .file bytes ∧ t.get? l = some (.file bytes) := by
  induction h generalizing l with
  | file content =>
    rw [FileTree.files, List.mem_singleton, Prod.mk.injEq]
    cases l with
    | nil => simp [FileTree.get?]
    | cons name rest => simp [FileTree.get?]
  | @directory entries hn _ _ ih =>
    rw [(perm_files_directory entries).mem_iff, List.mem_flatMap]
    cases l with
    | nil => simp [FileTree.get?]
    | cons name rest =>
      constructor
      · rintro ⟨⟨key, inner⟩, he, hf⟩
        obtain ⟨⟨l, f⟩, hi, heq⟩ := List.mem_map.mp hf
        obtain ⟨hkey, rfl⟩ := Prod.mk.inj heq
        obtain ⟨rfl, rfl⟩ := List.cons.inj hkey
        obtain ⟨bytes, rfl, hg⟩ := (ih _ he).mp hi
        refine ⟨bytes, rfl, ?_⟩
        rw [FileTree.get?, (lookup_eq_some_iff_mem hn).mpr he]
        exact hg
      · rintro ⟨bytes, rfl, hg⟩
        rw [FileTree.get?] at hg
        obtain ⟨inner, hl, hg⟩ := Option.bind_eq_some_iff.mp hg
        have he : (name, inner) ∈ entries := (lookup_eq_some_iff_mem hn).mp hl
        exact ⟨_, he, List.mem_map.mpr ⟨(rest, .file bytes), (ih _ he).mpr ⟨bytes, rfl, hg⟩, rfl⟩⟩

/-- **Files are found in the order of their locations.** -/
theorem ascending_files (h : t.WellFormed) : (t.files.map (·.1)).Pairwise (· < ·) := by
  induction h with
  | file bytes =>
    rw [FileTree.files]
    exact List.pairwise_singleton _ _
  | @directory entries hn _ _ ih =>
    rw [FileTree.files, List.map_flatMap, List.pairwise_flatMap]
    constructor
    · -- files of one entry differ behind its name
      intro group hg
      rw [(perm_sortedByName _).mem_iff, filesOfEntries_eq_map] at hg
      obtain ⟨e, he, rfl⟩ := List.mem_map.mp hg
      rw [List.map_map, List.pairwise_map]
      refine (List.pairwise_map.mp (ih e he)).imp fun hlt => ?_
      exact List.cons_lt_cons_iff.mpr (.inr ⟨rfl, hlt⟩)
    · -- files of different entries differ in the name of the entry
      have hsorted : ((sortedByName (filesOfEntries entries)).map (·.1)).Pairwise (· < ·) := by
        refine ascending_sortedByName ?_
        rw [filesOfEntries_eq_map, List.map_map]
        exact hn
      refine (List.pairwise_map.mp hsorted).imp fun {group group'} hlt l hl l' hl' => ?_
      simp only [List.map_map, List.mem_map] at hl hl'
      obtain ⟨found, -, rfl⟩ := hl
      obtain ⟨found', -, rfl⟩ := hl'
      exact List.cons_lt_cons_iff.mpr (.inl hlt)

/-- **Trees with the same files are walked alike.** -/
theorem files_eq (h : t.WellFormed) (h' : t'.WellFormed) (hs : t.SameFiles t') :
    t.files = t'.files := by
  have hmem : ∀ found, found ∈ t.files ↔ found ∈ t'.files := by
    rintro ⟨l, f⟩
    rw [h.mem_files_iff, h'.mem_files_iff]
    exact exists_congr fun bytes => and_congr_right fun _ => hs l bytes
  have hperm : t.files.Perm t'.files :=
    (List.perm_ext_iff_of_nodup h.nodup_files.of_map h'.nodup_files.of_map).mpr hmem
  refine hperm.eq_of_pairwise (fun found found' _ _ hlt hlt' => ?_)
    (List.pairwise_map.mp h.ascending_files) (List.pairwise_map.mp h'.ascending_files)
  exact absurd hlt' (lt_asymm hlt)

end WellFormed
end FileTree
end ChartRender
