import ChartRender.Files.Write
import Mathlib
/-!
# What is at a location

A location names a file with its bytes, a directory, or nothing (`FileSystem.node?`). Steps are taken
by looking at that alone (`FileSystem.step_eq`), and a tree that holds no others, put where there is
nothing or a file, changes what is there and nowhere else (`FileSystem.node?_put`). So a file system
that keeps its files and directories as they are, or only what is in the files, leads every path to
where it led before (`FileSystem.Keeps.follow`).

Key definitions: `FileNode`, `FileSystem.node?`, `FileSystem.Keeps`.
Key theorems: `FileSystem.step_eq`, `FileSystem.node?_put`, `FileSystem.Keeps.follow`.
-/

namespace ChartRender

/-- A file with its bytes, or a directory, whatever is in it. -/
inductive FileNode where
  | file (bytes : ByteArray)
  | directory

namespace FileTree

/-- A tree without what is in it. -/
def node : FileTree → FileNode
  | .file bytes => .file bytes
  | .directory _ => .directory

theorem eq_directory_of_node {t : FileTree} (h : t.node = .directory) :
    ∃ entries, t = .directory entries := by
  cases t with
  | file bytes => cases h
  | directory entries => exact ⟨entries, rfl⟩

/-! ### Reading a tree -/

@[simp] theorem get?_root (t : FileTree) : t.get? [] = some t := by rw [get?]

theorem get?_file (bytes : ByteArray) (name : String) (rest : Location) :
    (FileTree.file bytes).get? (name :: rest) = none := by rw [get?]

theorem get?_directory (entries : List (String × FileTree)) (name : String) (rest : Location) :
    (FileTree.directory entries).get? (name :: rest) =
      (entries.lookup name).bind fun t => t.get? rest := by rw [get?]

theorem get?_append (back : Location) : ∀ (front : Location) (t : FileTree),
    t.get? (front ++ back) = (t.get? front).bind fun t => t.get? back
  | [], t => by rw [List.nil_append, get?_root, Option.bind_some]
  | name :: front, .file bytes => by rw [List.cons_append, get?_file, get?_file, Option.bind_none]
  | name :: front, .directory entries => by
    rw [List.cons_append, get?_directory, get?_directory]
    cases entries.lookup name with
    | none => rfl
    | some t => exact get?_append back front t

/-! ### Putting into a tree -/

theorem lookup_cons (n m : String) (t : FileTree) (rest : List (String × FileTree)) :
    ((m, t) :: rest).lookup n = if n = m then some t else rest.lookup n := by
  by_cases h : n = m
  · simp [h]
  · have hb : (n == m) = false := by simpa using h
    simp [List.lookup_cons, hb, h]

theorem lookup_putEntry (name : String) (new : FileTree) (n : String) :
    ∀ entries : List (String × FileTree), (putEntry entries name new).lookup n =
      if n = name then some new else entries.lookup n
  | [] => by rw [putEntry, lookup_cons]
  | (m, old) :: rest => by
    rw [putEntry]
    by_cases hm : m = name
    · rw [if_pos hm, lookup_cons, lookup_cons, hm]
      split_ifs <;> rfl
    · rw [if_neg hm, lookup_cons, lookup_cons, lookup_putEntry name new n rest]
      by_cases h : n = name
      · rw [if_pos h, if_pos h, if_neg fun hn => hm (hn.symm.trans h)]
      · rw [if_neg h, if_neg h]

theorem put_name (entries : List (String × FileTree)) (new : FileTree) (name : String) :
    (FileTree.directory entries).put new [name] = .directory (putEntry entries name new) := by
  rw [put]

theorem put_step {entries : List (String × FileTree)} {name : String} {inner : FileTree}
    (h : entries.lookup name = some inner) (new : FileTree) {rest : Location} (hr : rest ≠ []) :
    (FileTree.directory entries).put new (name :: rest) =
      .directory (putEntry entries name (inner.put new rest)) := by
  obtain ⟨next, rest, rfl⟩ := List.exists_cons_of_ne_nil hr
  rw [put]
  simp only [h]

/-- Below the place of a put there is what was put. -/
theorem get?_put_append (new : FileTree) (name : String) (rest : Location) :
    ∀ {parent : Location} {t : FileTree} {entries : List (String × FileTree)},
    t.get? parent = some (.directory entries) →
    (t.put new (parent ++ [name])).get? (parent ++ [name] ++ rest) = new.get? rest
  | [], t, entries, h => by
    obtain rfl : t = .directory entries := by simpa using h
    rw [List.nil_append, put_name, List.singleton_append, get?_directory, lookup_putEntry,
      if_pos rfl, Option.bind_some]
  | p :: parent, .file bytes, entries, h => by
    rw [get?_file] at h
    cases h
  | p :: parent, .directory es, entries, h => by
    rw [get?_directory] at h
    obtain ⟨inner, hi, h⟩ := Option.bind_eq_some_iff.mp h
    rw [List.cons_append, put_step hi new (by simp), List.cons_append, get?_directory,
      lookup_putEntry, if_pos rfl, Option.bind_some]
    exact get?_put_append new name rest h

/-- **Beside the place of a put there is what was there**, but for what is in the directories that
lead to it. -/
theorem node_put_of_not_prefix (new : FileTree) (name : String) :
    ∀ {parent : Location} {t : FileTree} {entries : List (String × FileTree)} {l : Location},
    t.get? parent = some (.directory entries) → ¬ parent ++ [name] <+: l →
    ((t.put new (parent ++ [name])).get? l).map node = (t.get? l).map node
  | [], t, entries, l, h, hl => by
    obtain rfl : t = .directory entries := by simpa using h
    rw [List.nil_append] at hl ⊢
    rw [put_name]
    cases l with
    | nil => rfl
    | cons n rest =>
      have hn : n ≠ name := fun hn => hl (by rw [hn]; exact ⟨rest, rfl⟩)
      rw [get?_directory, get?_directory, lookup_putEntry, if_neg hn]
  | p :: parent, .file bytes, entries, _, h, _ => by
    rw [get?_file] at h
    cases h
  | p :: parent, .directory es, entries, l, h, hl => by
    rw [get?_directory] at h
    obtain ⟨inner, hi, h⟩ := Option.bind_eq_some_iff.mp h
    rw [List.cons_append, put_step hi new (by simp)]
    cases l with
    | nil => rfl
    | cons n rest =>
      rw [get?_directory, get?_directory, lookup_putEntry]
      by_cases hn : n = p
      · have hr : ¬ parent ++ [name] <+: rest := fun hr => hl (by
          rw [List.cons_append]
          exact List.cons_prefix_cons.mpr ⟨hn.symm, hr⟩)
        rw [if_pos hn, hn, hi, Option.bind_some, Option.bind_some]
        exact node_put_of_not_prefix new name h hr
      · rw [if_neg hn]

end FileTree

namespace FileSystem

/-- What is at a location. -/
def node? (fs : FileSystem) (l : Location) : Option FileNode := (fs.root.get? l).map FileTree.node

variable {fs fs' fs'' : FileSystem} {l l' parent : Location} {name path : String}

theorem node?_eq_directory_iff :
    fs.node? l = some .directory ↔ ∃ entries, fs.root.get? l = some (.directory entries) := by
  rw [node?]
  constructor
  · intro h
    obtain ⟨t, ht, hn⟩ := Option.map_eq_some_iff.mp h
    obtain ⟨entries, rfl⟩ := FileTree.eq_directory_of_node hn
    exact ⟨entries, ht⟩
  · rintro ⟨entries, h⟩
    rw [h]
    rfl

theorem hasDirectory_iff : fs.hasDirectory l = true ↔ fs.node? l = some .directory := by
  rw [hasDirectory, node?]
  cases fs.root.get? l with
  | none => simp
  | some t => cases t <;> simp [FileTree.isDirectory, FileTree.node]

/-- What has something in it is a directory. -/
theorem node?_eq_directory_of_append {back : Location} (h : fs.node? (l ++ back) ≠ none)
    (hb : back ≠ []) : fs.node? l = some .directory := by
  obtain ⟨name, back, rfl⟩ := List.exists_cons_of_ne_nil hb
  rw [node?, FileTree.get?_append] at h
  rw [node?]
  cases hl : fs.root.get? l with
  | none => simp [hl] at h
  | some t =>
    cases t with
    | file bytes => simp [hl, FileTree.get?_file] at h
    | directory entries => rfl

/-- **A step is taken by what is at the location** and at the one that it may lead to. -/
theorem step_eq (fs : FileSystem) (l : Location) (name : String) :
    fs.step l name = match fs.node? l with
      | none => .error .notFound
      | some (.file _) => .error .notDirectory
      | some .directory =>
        if name = "." then .ok l
        else if name = ".." then .ok l.dropLast
        else if (fs.node? (l ++ [name])).isSome then .ok (l ++ [name])
        else .error .notFound := by
  rw [step, node?, node?, FileTree.get?_append]
  cases fs.root.get? l with
  | none => rfl
  | some t =>
    cases t with
    | file bytes => rfl
    | directory entries =>
      rw [Option.bind_some, FileTree.get?_directory]
      simp only [Option.map_some, FileTree.node, FileTree.get?_root, Option.isSome_map]
      cases entries.lookup name <;> rfl

/-! ### Keeping what is there -/

/-- Every file is still a file, and every directory a directory. -/
structure Keeps (fs fs' : FileSystem) : Prop where
  working : fs'.working = fs.working
  directory : ∀ l, fs.node? l = some .directory → fs'.node? l = some .directory
  file : ∀ l bytes, fs.node? l = some (.file bytes) → ∃ bytes', fs'.node? l = some (.file bytes')

namespace Keeps

theorem isSome (h : Keeps fs fs') (hl : (fs.node? l).isSome = true) :
    (fs'.node? l).isSome = true := by
  obtain ⟨n, hn⟩ := Option.isSome_iff_exists.mp hl
  cases n with
  | directory => rw [h.directory l hn]; rfl
  | file bytes =>
    obtain ⟨bytes', hb⟩ := h.file l bytes hn
    rw [hb]
    rfl

theorem step (h : Keeps fs fs') (hs : fs.step l name = .ok l') : fs'.step l name = .ok l' := by
  rw [step_eq] at hs
  split at hs
  · cases hs
  · cases hs
  · rw [step_eq, h.directory l ‹_›]
    split_ifs at hs with hd hu hn
    · exact (if_pos hd).trans hs
    · exact (if_neg hd).trans ((if_pos hu).trans hs)
    · exact (if_neg hd).trans ((if_neg hu).trans ((if_pos (h.isSome hn)).trans hs))

/-- **Paths lead to where they led before.** -/
theorem follow (h : Keeps fs fs') : ∀ {steps : List String} {l : Location},
    fs.follow l steps = .ok l' → fs'.follow l steps = .ok l'
  | [], _, hf => hf
  | name :: steps, l, hf => by
    unfold FileSystem.follow at hf ⊢
    rw [List.foldlM_cons] at hf ⊢
    cases hs : fs.step l name with
    | error e =>
      rw [hs] at hf
      cases hf
    | ok m =>
      rw [hs] at hf
      rw [h.step hs]
      exact follow h hf

end Keeps

/-! ### Putting -/

/-- **A put changes what is at one location**, if it is made in a directory and neither what it
replaces nor what it brings has anything in it. -/
theorem node?_put {new : FileTree} (hp : fs.node? parent = some .directory)
    (hold : fs.node? (parent ++ [name]) = none ∨
      ∃ bytes, fs.node? (parent ++ [name]) = some (.file bytes))
    (hnew : ∀ rest, rest ≠ [] → new.get? rest = none) (l : Location) :
    (fs.put (parent ++ [name]) new).node? l =
      if l = parent ++ [name] then some new.node else fs.node? l := by
  obtain ⟨entries, hp⟩ := node?_eq_directory_iff.mp hp
  by_cases hl : parent ++ [name] <+: l
  · obtain ⟨rest, rfl⟩ := hl
    rw [node?, put, FileTree.get?_put_append new name rest hp]
    by_cases hr : rest = []
    · rw [hr, List.append_nil, if_pos rfl]
      rfl
    · have hne : parent ++ [name] ++ rest ≠ parent ++ [name] := fun he =>
        hr (List.append_right_eq_self.mp he)
      rw [if_neg hne, hnew rest hr, Option.map_none]
      by_contra hn
      have := node?_eq_directory_of_append (Ne.symm hn) hr
      rcases hold with h | ⟨bytes, h⟩ <;> rw [h] at this <;> cases this
  · have hne : l ≠ parent ++ [name] := fun he => hl (he ▸ List.prefix_rfl)
    rw [if_neg hne]
    exact FileTree.node_put_of_not_prefix new name hp hl

end FileSystem
end ChartRender
