import ChartRender.Proofs.Files.Order
import ChartRender.Proofs.Rendering.Isolation
/-!
# The listing of template files

The template files of a directory are those of its files, at any depth, whose names end with one of the
extensions. They are listed in the order in which the walk finds them, that of their locations, which
does not depend on how the directory came about (`Config.listSources_directory`). A file is known by
its path from the directory, and no two have the same, so each keeps its own text and its own output.

Key definitions: `Config.IsTemplateAt`, `Config.sourceAt`, `Config.Lists`.
Key theorems: `Config.mem_templateLocations_iff`, `Config.ascending_templateLocations`,
`Config.listSources_eq`, `Config.listSources_directory`.
-/

namespace ChartRender
namespace Config

variable (c : Config)

/-! ### Template files by location -/

/-- At the location there is a file whose own name ends with one of the extensions. -/
def IsTemplateAt (t : FileTree) (l : Location) : Prop :=
  (∃ bytes, t.get? l = some (.file bytes)) ∧
    ∃ name, l.getLast? = some name ∧ ∃ e ∈ c.extensions, e.toList <:+ name.toList

/-- What is known of the template file at a location: its path, its own name and its text. -/
def sourceAt (t : FileTree) (l : Location) : SourceFile where
  name := l.text
  fileName := l.getLast?.getD ""
  text := match t.get? l with
    | some f => f.text
    | none => .error .notFound

/-- The locations at which the walk through a tree finds template files. -/
def templateLocations (t : FileTree) : List Location :=
  (t.files.map (·.1)).filter fun l => c.isTemplate (l.getLast?.getD "")

theorem isTemplate_iff {fileName : String} :
    c.isTemplate fileName = true ↔ ∃ e ∈ c.extensions, e.toList <:+ fileName.toList := by
  rw [isTemplate, List.any_eq_true]
  simp only [List.isSuffixOf_iff_suffix]

/-! ### The walk -/

section
variable {c : Config} {t : FileTree} (h : t.WellFormed) (hd : t.isDirectory = true)
include h hd

/-- A file in a directory has a name. -/
theorem exists_name_of_mem_files {found : FoundFile} (hf : found ∈ t.files) :
    ∃ name, found.1.getLast? = some name := by
  refine Option.ne_none_iff_exists'.mp fun he => ?_
  obtain ⟨bytes, -, hg⟩ := h.mem_files_iff.mp hf
  rw [List.getLast?_eq_none_iff.mp he, FileTree.get?] at hg
  rw [Option.some.inj hg] at hd
  cases hd

/-- **The walk finds template files exactly where there are some.** -/
theorem mem_templateLocations_iff {l : Location} :
    l ∈ c.templateLocations t ↔ c.IsTemplateAt t l := by
  rw [templateLocations, List.mem_filter, isTemplate_iff]
  constructor
  · rintro ⟨hl, hname⟩
    obtain ⟨⟨l, f⟩, hf, rfl⟩ := List.mem_map.mp hl
    obtain ⟨name, hn⟩ := exists_name_of_mem_files h hd hf
    obtain ⟨bytes, -, hg⟩ := h.mem_files_iff.mp hf
    rw [hn] at hname
    exact ⟨⟨bytes, hg⟩, name, hn, hname⟩
  · rintro ⟨⟨bytes, hg⟩, name, hn, hname⟩
    refine ⟨List.mem_map.mpr ⟨(l, .file bytes), h.mem_files_iff.mpr ⟨bytes, rfl, hg⟩, rfl⟩, ?_⟩
    rw [hn]
    exact hname

/-- **Listed are the template files where the walk finds them**, in its order. -/
theorem listSources_eq {fs : FileSystem} {path : String} (ht : fs.find path = .ok t) :
    c.listSources fs path = .ok ((c.templateLocations t).map (sourceAt t)) := by
  have hsource : ∀ found ∈ t.files, c.sourceFile? path found =
      if c.isTemplate (found.1.getLast?.getD "") then some (sourceAt t found.1) else none := by
    rintro ⟨l, f⟩ hf
    obtain ⟨name, hn⟩ := exists_name_of_mem_files h hd hf
    obtain ⟨bytes, rfl, hg⟩ := h.mem_files_iff.mp hf
    simp only at hn
    simp only [sourceFile?, sourceAt, hn, hg, Option.some_or, Option.getD_some]
  rw [listSources, ht]
  change Except.ok (t.files.filterMap (c.sourceFile? path)) = _
  rw [List.filterMap_congr hsource, templateLocations, List.filter_map, List.map_map,
    ← List.filterMap_eq_map, List.filterMap_filter]
  rfl

end

/-- The template files are found in the order of their locations. -/
theorem ascending_templateLocations {t : FileTree} (h : t.WellFormed) :
    (c.templateLocations t).Pairwise Location.Before :=
  (h.ascending_files.imp Location.before_iff_lt.mpr).filter _

/-- Trees with the same files have the same template files. -/
theorem templateLocations_congr {t t' : FileTree} (h : t.WellFormed) (h' : t'.WellFormed)
    (hs : t.SameFiles t') : c.templateLocations t = c.templateLocations t' := by
  rw [templateLocations, templateLocations, h.files_eq h' hs]

/-! ### The listing -/

/-- What holds of a listing of the template files of a tree. -/
structure Lists [Template.DebugText] (t : FileTree) (locations : List Location) (files : List SourceFile) : Prop where
  /-- Listed are the template files of the tree, and nothing else. -/
  complete : ∀ l, l ∈ locations ↔ c.IsTemplateAt t l
  /-- Each stands strictly in front of the next. -/
  ascending : locations.Pairwise Location.Before
  /-- The listed files are those at the locations. -/
  files_eq : files = locations.map (sourceAt t)
  /-- No two have the same name. -/
  distinct : (files.map (·.name)).Nodup
  /-- The text of each file is there after all are loaded. -/
  source : ∀ f ∈ files, (loadSources files).sources.lookup f.name = f.text.toOption
  /-- The output of each file is there after all are rendered, unless it is blank. -/
  output : ∀ values, ∀ f ∈ files, (c.renderSources values files).outputs.lookup f.name =
    (c.textOf values files f).filter (!isBlankText ·)

/-- Loading keeps the text of each file. -/
theorem lookup_sources_loadSources {files : List SourceFile} (hd : (files.map (·.name)).Nodup)
    {f : SourceFile} (hf : f ∈ files) :
    (loadSources files).sources.lookup f.name = f.text.toOption := by
  have hu : (loadSources files).sources.lookup f.name = (loadedUnder f).2.1 :=
    congrArg (·.2.1) (under_loadSources hd hf)
  rw [hu, loadedUnder]
  rcases loadable_cases f with ⟨e, ht⟩ | ⟨source, fault, ht, hp⟩ | ⟨source, statements, ht, hp⟩
  · simp [ht, Except.toOption]
  · simp [ht, hp, Except.toOption]
  · simp [ht, hp, Except.toOption]

/-- Rendering keeps the output of each file. -/
theorem lookup_outputs_renderSources [Template.DebugText] (values : Value) {files : List SourceFile}
    (hd : (files.map (·.name)).Nodup) {f : SourceFile} (hf : f ∈ files) :
    (c.renderSources values files).outputs.lookup f.name =
      (c.textOf values files f).filter (!isBlankText ·) := by
  have hu : (c.renderSources values files).outputs.lookup f.name =
      (outcomeUnder (c.outcome values files f)).2.1 :=
    congrArg (·.2.1) (under_renderSources c hd hf)
  rw [hu, textOf]
  cases c.outcome values files f with
  | none => rfl
  | some result =>
    cases result with
    | error d => rfl
    | ok text =>
      cases hb : isBlankText text <;> simp [outcomeUnder, Except.toOption, Option.filter, hb]

/-- **The template files of a directory are listed completely and in order**, each under a name of its
own; and the listing is the same whatever the order of the entries in the directories. -/
theorem listSources_directory [Template.DebugText] {fs : FileSystem} {path : String} {t : FileTree}
    (hw : fs.root.WellFormed) (ht : fs.find path = .ok t) (hd : t.isDirectory = true) :
    (∃ locations files, c.listSources fs path = .ok files ∧ c.Lists t locations files) ∧
    ∀ (fs' : FileSystem) (path' : String) (t' : FileTree), fs'.root.WellFormed →
      fs'.find path' = .ok t' → t'.isDirectory = true → t.SameFiles t' →
      c.listSources fs' path' = c.listSources fs path := by
  have h := hw.find ht
  have hl := listSources_eq (c := c) h hd ht
  have hn := nodup_names_of_listSources hw hl
  constructor
  · exact ⟨c.templateLocations t, _, hl,
      { complete := fun l => mem_templateLocations_iff h hd
        ascending := c.ascending_templateLocations h
        files_eq := rfl
        distinct := hn
        source := fun f hf => lookup_sources_loadSources hn hf
        output := fun values f hf => lookup_outputs_renderSources c values hn hf }⟩
  · intro fs' path' t' hw' ht' hd' hs
    have h' := hw'.find ht'
    rw [hl, listSources_eq h' hd' ht', c.templateLocations_congr h h' hs]
    refine congrArg Except.ok (List.map_congr_left fun l hl => ?_)
    obtain ⟨⟨bytes, hg⟩, -⟩ := (mem_templateLocations_iff h' hd').mp hl
    rw [sourceAt, sourceAt, hg, (hs l bytes).mpr hg]

/-- A file whose name is that of a directory next to it and an extension, one of another extension, and
one that is no template. -/
def nestedEntries : List (String × FileTree) :=
  [("b.txt", .file "".toUTF8), ("a.yaml", .file "".toUTF8), ("README.md", .file "".toUTF8),
    ("a", .directory [("x.yaml", .file "".toUTF8)])]

/-- A chart with the entries in its template directory. -/
def chartOf (entries : List (String × FileTree)) : FileSystem :=
  ⟨.directory [("t", .directory entries)], []⟩

theorem find_chartOf (entries : List (String × FileTree)) :
    (chartOf entries).find "t" = .ok (.directory entries) := by
  have hp : PathParts.ofText "t" = ⟨false, ["t"], false⟩ := by decide +kernel
  have hr : (chartOf entries).resolve "t" = .ok ["t"] := by
    rw [FileSystem.resolve, hp]
    rfl
  rw [FileSystem.find, hr]
  rfl

theorem nodup_nestedEntries : (nestedEntries.map (·.1)).Nodup := by decide +kernel

theorem wellFormed_chartOf {entries : List (String × FileTree)} (hp : nestedEntries.Perm entries) :
    (chartOf entries).root.WellFormed := by
  have hn : IsFileName "t" ∧ (IsFileName "b.txt" ∧ IsFileName "a.yaml" ∧ IsFileName "README.md" ∧
      IsFileName "a") ∧ IsFileName "x.yaml" := by decide +kernel
  refine .directory (List.nodup_singleton _) (by simpa using hn.1) ?_
  rw [List.forall_mem_singleton]
  refine .directory ((hp.map _).nodup_iff.mp nodup_nestedEntries) ?_ ?_
  · intro e he
    rw [← hp.mem_iff] at he
    revert e
    simpa [nestedEntries] using hn.2.1
  · intro e he
    rw [← hp.mem_iff] at he
    revert e
    simp only [nestedEntries, List.forall_mem_cons, FileTree.WellFormed.file, true_and]
    refine ⟨.directory (by decide +kernel) (by simpa using hn.2.2) ?_, by simp⟩
    simp [FileTree.WellFormed.file]

/-- The files of the directory come before the file of the same name and an extension, a file without
one of the extensions is left out, and putting the entries the other way round changes nothing. -/
theorem listSources_directory_nestedEntries : ∃ locations files,
    standard.listSources (chartOf nestedEntries) "t" = .ok files ∧
    standard.Lists (.directory nestedEntries) locations files ∧
    files.map (·.name) = ["a/x.yaml", "a.yaml", "b.txt"] ∧
    standard.listSources (chartOf nestedEntries.reverse) "t" = .ok files := by
  have hn : (standard.listSources (chartOf nestedEntries) "t").toOption.map (·.map (·.name)) =
      some ["a/x.yaml", "a.yaml", "b.txt"] := by decide +kernel
  have hp : nestedEntries.Perm nestedEntries.reverse := (List.reverse_perm _).symm
  obtain ⟨⟨locations, files, hl, h⟩, heq⟩ := listSources_directory standard
    (wellFormed_chartOf .rfl) (find_chartOf nestedEntries) rfl
  rw [hl] at hn
  refine ⟨locations, files, hl, h, Option.some.inj hn, ?_⟩
  rw [heq _ "t" _ (wellFormed_chartOf hp) (find_chartOf _) rfl
    (FileTree.sameFiles_of_perm nodup_nestedEntries hp), hl]

end Config
end ChartRender
