import ChartRender.Proofs.Files.Node
import ChartRender.Proofs.Result
/-!
# What writing changes

Making directories puts directories where there was nothing, and changes nothing else, whether it
succeeds or fails half way (`FileSystem.gains_makeDirectories`). A text is written under a name in a
directory, where there was a file or nothing (`FileSystem.target_eq_ok`); from then on its path names
a file that holds it, and everything else is as it was (`FileSystem.holdsText_of_writeText`).

Key definitions: `FileSystem.Gains`, `FileSystem.HoldsText`.
Key theorems: `FileSystem.gains_makeDirectories`, `FileSystem.target_eq_ok`,
`FileSystem.holdsText_of_writeText`.
-/

namespace ChartRender
namespace FileSystem

variable {fs fs' fs'' : FileSystem} {l l' parent : Location} {name path text : String}

/-! ### Making directories -/

/-- There is what was there before, or a directory where there was nothing. -/
def GainsAt (fs fs' : FileSystem) (l : Location) : Prop :=
  fs'.node? l = fs.node? l ∨ fs.node? l = none ∧ fs'.node? l = some .directory

theorem GainsAt.trans (h : fs.GainsAt fs' l) (h' : fs'.GainsAt fs'' l) : fs.GainsAt fs'' l := by
  rcases h' with he' | ⟨hn', hd'⟩
  · rw [GainsAt, he']
    exact h
  · rcases h with he | ⟨-, hd⟩
    · exact .inr ⟨he ▸ hn', hd'⟩
    · rw [hd] at hn'
      cases hn'

/-- There are new directories where there was nothing, and everything else is as it was. -/
structure Gains (fs fs' : FileSystem) : Prop where
  working : fs'.working = fs.working
  node : ∀ l, fs.GainsAt fs' l

namespace Gains

theorem refl (fs : FileSystem) : fs.Gains fs := ⟨rfl, fun _ => .inl rfl⟩

theorem trans (h : fs.Gains fs') (h' : fs'.Gains fs'') : fs.Gains fs'' :=
  ⟨h'.working.trans h.working, fun l => (h.node l).trans (h'.node l)⟩

end Gains

/-- A step that finds nothing in a directory is one to a name that nothing there has. -/
theorem node?_of_step_notFound (hs : fs.step l name = .error .notFound)
    (hd : fs.node? l = some .directory) :
    name ≠ "." ∧ name ≠ ".." ∧ fs.node? (l ++ [name]) = none := by
  rw [step_eq, hd] at hs
  dsimp only at hs
  split_ifs at hs with h1 h2 h3
  exact ⟨h1, h2, by simpa using h3⟩

theorem gains_put_directory (hp : fs.node? parent = some .directory)
    (hn : fs.node? (parent ++ [name]) = none) :
    fs.Gains (fs.put (parent ++ [name]) (.directory [])) := by
  have hnode := @node?_put fs parent name (.directory []) hp (.inl hn) fun rest hr => by
    obtain ⟨n, rest, rfl⟩ := List.exists_cons_of_ne_nil hr
    exact FileTree.get?_directory [] n rest
  refine ⟨rfl, fun l => ?_⟩
  by_cases hl : l = parent ++ [name]
  · exact .inr ⟨hl ▸ hn, by rw [hnode, if_pos hl]; rfl⟩
  · exact .inl (by rw [hnode, if_neg hl])

theorem gains_makeDirectory {steps : List String} (h : fs.makeDirectory l steps = .ok fs') :
    fs.Gains fs' := by
  rw [makeDirectory] at h
  cases hl : steps.getLast? with
  | none => simp [hl] at h
  | some name =>
    simp only [hl] at h
    obtain ⟨parent, -, h⟩ := bind_eq_ok h
    split at h
    · cases h
    · split_ifs at h with hd
      obtain rfl := Except.ok.inj h
      have hp := hasDirectory_iff.mp hd
      have hn := (node?_of_step_notFound ‹_› hp).2.2
      exact gains_put_directory hp hn
    · cases h

/-- The directories on the way are made first, which may be all that is done. -/
theorem gains_makeDirectoriesFrom (l : Location) : ∀ (steps : List String) (fs : FileSystem),
    fs.Gains (fs.makeDirectoriesFrom l steps).1
  | [], fs => .refl fs
  | name :: rest, fs => by
    have ih := gains_makeDirectoriesFrom l rest fs
    rw [makeDirectoriesFrom]
    split
    · exact gains_makeDirectory ‹_›
    · split
      next he =>
        rw [he] at ih
        exact ih
      next he =>
        rw [he] at ih
        split
        · exact ih.trans (gains_makeDirectory ‹_›)
        · exact ih
    · exact .refl fs

/-- **Making directories only adds directories**, also when it fails. -/
theorem gains_makeDirectories (fs : FileSystem) (path : String) :
    fs.Gains (fs.makeDirectories path).1 := gains_makeDirectoriesFrom _ _ _

/-! ### Writing a text -/

/-- A step that leads to a file enters it. -/
theorem eq_append_of_step_file {bytes : ByteArray} (hs : fs.step l name = .ok l')
    (hf : fs.node? l' = some (.file bytes)) :
    fs.node? l = some .directory ∧ name ≠ "." ∧ name ≠ ".." ∧ l' = l ++ [name] := by
  rw [step_eq] at hs
  split at hs
  · cases hs
  · cases hs
  · rename_i hd
    refine ⟨hd, ?_⟩
    split_ifs at hs with h1 h2 h3
    · obtain rfl := Except.ok.inj hs
      rw [hd] at hf
      cases hf
    · obtain rfl := Except.ok.inj hs
      -- Above a directory there is a directory, and the root is above itself.
      rcases List.eq_nil_or_concat' l with rfl | ⟨front, last, rfl⟩
      · rw [List.dropLast_nil, hd] at hf
        cases hf
      · rw [List.dropLast_concat] at hf
        have hfront : fs.node? front = some .directory :=
          node?_eq_directory_of_append (by rw [hd]; simp) (List.cons_ne_nil last [])
        rw [hfront] at hf
        cases hf
    · exact ⟨h1, h2, (Except.ok.inj hs).symm⟩

/-- **A text is written under a name in a directory**, where there is a file or nothing. -/
theorem target_eq_ok (h : fs.target path = .ok l) : ∃ front name parent,
    (PathParts.ofText path).steps = front ++ [name] ∧ (PathParts.ofText path).slashed = false ∧
    fs.follow (fs.start (PathParts.ofText path)) front = .ok parent ∧ l = parent ++ [name] ∧
    name ≠ "." ∧ name ≠ ".." ∧ fs.node? parent = some .directory ∧
    (fs.node? l = none ∨ ∃ bytes, fs.node? l = some (.file bytes)) := by
  rw [target] at h
  cases hl : (PathParts.ofText path).steps.getLast? with
  | none => simp [hl] at h
  | some name =>
    simp only [hl] at h
    have hsteps := (List.dropLast_append_getLast? name hl).symm
    obtain ⟨parent, hf, h⟩ := bind_eq_ok h
    refine ⟨_, name, parent, hsteps, ?_⟩
    split at h
    · split_ifs at h with hd hs
      have hp : fs.node? parent = some .directory := hasDirectory_iff.mp (by simpa using hd)
      obtain ⟨h1, h2, hn⟩ := node?_of_step_notFound ‹_› hp
      obtain rfl := Except.ok.inj h
      exact ⟨by simpa using hs, hf, rfl, h1, h2, hp, .inl hn⟩
    · cases h
    · rename_i m hstep
      cases hm : fs.root.get? m with
      | none => simp [hm] at h
      | some t =>
        cases t with
        | directory entries => simp [hm] at h
        | file bytes =>
          simp only [hm] at h
          split_ifs at h with hs
          obtain rfl := Except.ok.inj h
          have hn : fs.node? m = some (.file bytes) := by rw [node?, hm]; rfl
          obtain ⟨hp, h1, h2, rfl⟩ := eq_append_of_step_file hstep hn
          exact ⟨by simpa using hs, hf, rfl, h1, h2, hp, .inr ⟨bytes, hn⟩⟩

theorem follow_concat (fs : FileSystem) (l : Location) (front : List String) (name : String) :
    fs.follow l (front ++ [name]) = (fs.follow l front).bind fun m => fs.step m name := by
  unfold follow
  rw [List.foldlM_append]
  congr 1
  funext m
  simp

/-- A step to a name that something in a directory has enters it. -/
theorem step_eq_ok (hd : fs.node? l = some .directory) (h1 : name ≠ ".") (h2 : name ≠ "..")
    (hn : (fs.node? (l ++ [name])).isSome = true) : fs.step l name = .ok (l ++ [name]) := by
  rw [step_eq, hd]
  exact (if_neg h1).trans ((if_neg h2).trans (if_pos hn))

/-- A text is what its bytes are read as. -/
theorem text_file_toUTF8 (s : String) : (FileTree.file s.toUTF8).text = .ok s := by
  have hs : String.fromUTF8? s.toUTF8 = some s := by
    unfold String.fromUTF8?
    rw [String.toUTF8_eq_toByteArray, dif_pos s.isValidUTF8]
    rfl
  rw [FileTree.text, hs]

theorem readText_of_resolve (hr : fs.resolve path = .ok l)
    (hn : fs.node? l = some (.file text.toUTF8)) : fs.readText path = .ok text := by
  rw [node?] at hn
  obtain ⟨t, ht, hn⟩ := Option.map_eq_some_iff.mp hn
  cases t with
  | directory entries => cases hn
  | file bytes =>
    obtain rfl : bytes = text.toUTF8 := FileNode.file.inj hn
    simp only [readText, find, hr, bind, Except.bind, ht]
    exact text_file_toUTF8 text

/-- What a put of a file in a directory, in place of a file or of nothing, leaves. -/
theorem node?_put_file (hp : fs.node? parent = some .directory)
    (hold : fs.node? (parent ++ [name]) = none ∨
      ∃ bytes, fs.node? (parent ++ [name]) = some (.file bytes)) (bytes : ByteArray)
    (l : Location) : (fs.put (parent ++ [name]) (.file bytes)).node? l =
      if l = parent ++ [name] then some (.file bytes) else fs.node? l :=
  node?_put hp hold (fun rest hr => by
    obtain ⟨n, rest, rfl⟩ := List.exists_cons_of_ne_nil hr
    exact FileTree.get?_file _ n rest) l

theorem keeps_put_file (hp : fs.node? parent = some .directory)
    (hold : fs.node? (parent ++ [name]) = none ∨
      ∃ bytes, fs.node? (parent ++ [name]) = some (.file bytes)) (bytes : ByteArray) :
    fs.Keeps (fs.put (parent ++ [name]) (.file bytes)) where
  working := rfl
  directory l hl := by
    rw [node?_put_file hp hold]
    split_ifs with he
    · rw [← he, hl] at hold
      simp at hold
    · exact hl
  file l old hl := by
    rw [node?_put_file hp hold]
    split_ifs
    · exact ⟨_, rfl⟩
    · exact ⟨old, hl⟩

/-- A path names a file that holds a text. Beside that file nothing has changed, but that there may
be new directories where there was nothing. -/
structure HoldsText (fs fs' : FileSystem) (path text : String) : Prop where
  readText : fs'.readText path = .ok text
  elsewhere : ∃ place, fs'.resolve path = .ok place ∧
    fs'.node? place = some (.file text.toUTF8) ∧ ∀ l ≠ place, fs.GainsAt fs' l

theorem HoldsText.of_gains (h : fs.Gains fs') (ht : fs'.HoldsText fs'' path text) :
    fs.HoldsText fs'' path text where
  readText := ht.readText
  elsewhere := by
    obtain ⟨place, hr, hp, he⟩ := ht.elsewhere
    exact ⟨place, hr, hp, fun l hl => (h.node l).trans (he l hl)⟩

/-- **A text that was written is what its path is read as**, and nothing else has changed. -/
theorem holdsText_of_writeText (h : fs.writeText path text = .ok fs') :
    fs.HoldsText fs' path text := by
  obtain ⟨place, ht, h⟩ := bind_eq_ok h
  obtain ⟨front, name, parent, hsteps, hslash, hf, rfl, h1, h2, hp, hold⟩ := target_eq_ok ht
  have hnode := node?_put_file hp hold text.toUTF8
  have hkeeps := keeps_put_file hp hold text.toUTF8
  have hplace := hnode (parent ++ [name])
  rw [if_pos rfl] at hplace
  rw [Except.ok.inj h] at hnode hkeeps hplace
  have hne : path ≠ "" := by
    rintro rfl
    cases front <;> cases hsteps
  have hr : fs'.resolve path = .ok (parent ++ [name]) := by
    have hstart : fs'.start (PathParts.ofText path) = fs.start (PathParts.ofText path) := by
      rw [start, start, hkeeps.working]
    rw [resolve, if_neg hne, hslash, if_neg Bool.false_ne_true, hsteps, follow_concat, hstart,
      hkeeps.follow hf]
    exact step_eq_ok (hkeeps.directory _ hp) h1 h2 (by rw [hplace]; rfl)
  exact ⟨readText_of_resolve hr hplace, _, hr, hplace, fun l hl => .inl (by
    rw [hnode, if_neg hl])⟩

end FileSystem
end ChartRender
