import ChartRender.Proofs.Rendering.Outcome
import ChartRender.Proofs.Result
/-!
# Accounts of a directory

Rendering a directory accounts for each of its template files once: a template is a success or has
one diagnostic, a helper has one if it cannot be loaded, and nothing else is reported. The outputs
are the texts of the successes, the blank ones left out, in the order of the files.

Key definitions: `Config.CanLoad`, `Config.Accounts`.
Key theorems: `Config.nodup_failingNames_renderSources`, `Config.renderDirectory_accounts`.
-/

namespace ChartRender
namespace Config

variable {f : SourceFile} (c : Config)

/-! ### Groups of diagnostics -/

theorem nodup_failingNames_loadSource {l : Loading} (h : l.report.failingNames.Nodup)
    (f : SourceFile) : (loadSource l f).report.failingNames.Nodup := by
  rcases loadable_cases f with ⟨e, ht⟩ | ⟨source, fault, ht, hp⟩ | ⟨source, statements, ht, hp⟩
  · rw [loadSource_of_unreadable l ht]
    exact Report.nodup_failingNames_addError h _ _
  · rw [loadSource_of_malformed l ht hp]
    exact Report.nodup_failingNames_addError h _ _
  · rw [loadSource_of_parsed l ht hp]
    exact h

theorem nodup_failingNames_renderSource (e : Template.Engine) (sources : List (String × String))
    (values : Value) {r : Rendering} (h : r.report.failingNames.Nodup) (f : SourceFile) :
    (renderSource e sources values r f).report.failingNames.Nodup := by
  rw [renderSource_eq]
  split
  · exact h
  · exact h
  · exact Report.nodup_failingNames_addError h _ _

section Accounts

variable [Template.DebugText]

/-- No name has two groups of diagnostics. -/
theorem nodup_failingNames_renderSources (values : Value) (files : List SourceFile) :
    (c.renderSources values files).report.failingNames.Nodup := by
  have hl : (loadSources files).report.failingNames.Nodup :=
    List.foldlRecOn (motive := fun l : Loading => l.report.failingNames.Nodup) files loadSource
      List.nodup_nil fun _ h f _ => nodup_failingNames_loadSource h f
  exact List.foldlRecOn (motive := fun r : Rendering => r.report.failingNames.Nodup) files _ hl
    fun _ h f _ => nodup_failingNames_renderSource _ _ _ h f

/-! ### Accounts -/

/-- A file can be loaded if it can be read and what is read is a template. -/
def CanLoad (f : SourceFile) : Prop :=
  ∃ source statements, f.text = .ok source ∧ Template.parse f.name source = .ok statements

/-- Something comes of every file that is no helper. -/
theorem outcome_ne_none (values : Value) (files : List SourceFile) (h : f.isHelper = false) :
    c.outcome values files f ≠ none := by
  rw [outcome]
  rcases loadable_cases f with ⟨e, ht⟩ | ⟨source, fault, ht, hp⟩ | ⟨source, statements, ht, hp⟩
  · simp [ht]
  · simp [ht, hp]
  · simp only [ht, hp, h]
    cases (c.engineOf files).run f.name statements (names values) <;> simp

/-- All that can come of a helper is that it cannot be loaded. -/
theorem outcome_of_helper (values : Value) (files : List SourceFile) (h : f.isHelper = true) :
    (CanLoad f ∧ c.outcome values files f = none) ∨
      (¬ CanLoad f ∧ ∃ d, c.outcome values files f = some (.error d)) := by
  rw [outcome]
  rcases loadable_cases f with ⟨e, ht⟩ | ⟨source, fault, ht, hp⟩ | ⟨source, statements, ht, hp⟩
  · refine Or.inr ⟨?_, by simp [ht]⟩
    rintro ⟨_, _, ht', -⟩
    rw [ht] at ht'
    cases ht'
  · refine Or.inr ⟨?_, by simp [ht, hp]⟩
    rintro ⟨_, _, ht', hp'⟩
    obtain rfl := Except.ok.inj (ht.symm.trans ht')
    rw [hp] at hp'
    cases hp'
  · exact Or.inl ⟨⟨source, statements, ht, hp⟩, by simp [ht, hp, h]⟩

/-- How a rendering accounts for the files that it was made of. -/
structure Accounts (values : Value) (files : List SourceFile) (r : Rendering) : Prop where
  /-- A template succeeds once, or has one diagnostic, but not both. -/
  template : ∀ f ∈ files, f.isHelper = false →
    (r.report.successes.count f.name = 1 ∧ r.report.errors.lookup f.name = none) ∨
      (r.report.successes.count f.name = 0 ∧ ∃ d, r.report.errors.lookup f.name = some [d])
  /-- A helper never succeeds, and has one diagnostic if it cannot be loaded and none otherwise. -/
  helper : ∀ f ∈ files, f.isHelper = true → f.name ∉ r.report.successes ∧
    (CanLoad f → r.report.errors.lookup f.name = none) ∧
    (¬ CanLoad f → ∃ d, r.report.errors.lookup f.name = some [d])
  /-- There are no other names. -/
  named : ∀ name, name ∈ r.report.successes ∨ name ∈ r.report.failingNames →
    ∃ f ∈ files, f.name = name
  /-- No name has two groups of diagnostics. -/
  grouped : r.report.failingNames.Nodup
  /-- The successes are the files that give a text. -/
  successes : r.report.successes =
    files.filterMap fun f => (c.textOf values files f).map fun _ => f.name
  /-- Of their texts those that are not blank are put out, in the order of the files. -/
  outputs : r.outputs = files.filterMap fun f =>
    ((c.textOf values files f).filter (!isBlankText ·)).map (f.name, ·)
  /-- The rendering succeeds if no file has a diagnostic. -/
  isSuccess : r.isSuccess = true ↔ ∀ f ∈ files, r.report.errors.lookup f.name = none

/-- **The rendering of a directory accounts for every template file once**, if their names are
distinct. -/
theorem renderDirectory_accounts (c : Config) (values : Value) {fs : FileSystem} {path : String}
    {files : List SourceFile} (hl : c.listSources fs path = .ok files)
    (hd : (files.map (·.name)).Nodup) :
    c.Accounts values files (c.renderDirectory values fs path) := by
  rw [renderDirectory_of_listSources values hl]
  have hunder : ∀ f ∈ files, (c.renderSources values files).under f.name =
      outcomeUnder (c.outcome values files f) := fun f hf => under_renderSources c hd hf
  have hnamed : ∀ name, name ∈ (c.renderSources values files).report.successes ∨
      name ∈ (c.renderSources values files).report.failingNames → ∃ f ∈ files, f.name = name := by
    intro name h
    by_contra hn
    have hm : name ∉ files.map (·.name) := by simpa using hn
    have hu := under_renderSources_of_notMem c values hm
    simp only [Rendering.under, Prod.mk.injEq, List.count_eq_zero] at hu
    rcases h with h | h
    · exact hu.1 h
    · exact Report.mem_failingNames_iff.mp h hu.2.2
  refine {
    template := fun f hf hh => ?_
    helper := fun f hf hh => ?_
    named := hnamed
    grouped := nodup_failingNames_renderSources c values files
    successes := successes_renderSources c values hd
    outputs := outputs_renderSources c values hd
    isSuccess := ?_ }
  · have hu := hunder f hf
    obtain ⟨result, ho⟩ := Option.ne_none_iff_exists'.mp (outcome_ne_none c values files hh)
    rw [ho] at hu
    cases result with
    | ok text => exact Or.inl ⟨congrArg (·.1) hu, congrArg (·.2.2) hu⟩
    | error d => exact Or.inr ⟨congrArg (·.1) hu, d, congrArg (·.2.2) hu⟩
  · have hu := hunder f hf
    rcases outcome_of_helper c values files hh with ⟨hc, ho⟩ | ⟨hc, d, ho⟩
    · rw [ho] at hu
      exact ⟨List.count_eq_zero.mp (congrArg (·.1) hu), fun _ => congrArg (·.2.2) hu,
        fun hn => absurd hc hn⟩
    · rw [ho] at hu
      exact ⟨List.count_eq_zero.mp (congrArg (·.1) hu), fun h => absurd h hc,
        fun _ => ⟨d, congrArg (·.2.2) hu⟩⟩
  · rw [Rendering.isSuccess, Bool.not_eq_true', Report.hasErrors_eq_false_iff]
    constructor
    · intro h f _
      have hn : f.name ∉ (c.renderSources values files).report.failingNames := by simp [h]
      exact not_not.mp (mt Report.mem_failingNames_iff.mpr hn)
    · intro h
      refine List.eq_nil_iff_forall_not_mem.mpr fun name hm => ?_
      obtain ⟨f, hf, rfl⟩ := hnamed name (Or.inr hm)
      exact Report.mem_failingNames_iff.mp hm (h f hf)

end Accounts

/-- A directory with a helper, a template that is malformed, and one that gives a text. -/
def smallChart : FileSystem :=
  ⟨.directory [("t", .directory [("good.yaml", .file "a: \x7b\x7b 1 \x7d\x7d".toUTF8),
    ("bad.yaml", .file "\x7b\x7b 1 +".toUTF8), ("_size.tpl", .file "".toUTF8)])], []⟩

/-- The three files of a small directory are accounted for: the malformed template does not keep the
other one from being put out. -/
theorem renderDirectory_accounts_smallChart : ∃ files,
    standard.listSources smallChart "t" = .ok files ∧
    files.map (·.name) = ["_size.tpl", "bad.yaml", "good.yaml"] ∧
    standard.Accounts .empty files (standard.renderDirectory .empty smallChart "t") ∧
    (standard.renderDirectory .empty smallChart "t").outputs = [("good.yaml", "a: 1")] := by
  have hn : (standard.listSources smallChart "t").toOption.map (·.map (·.name)) =
      some ["_size.tpl", "bad.yaml", "good.yaml"] := by decide +kernel
  obtain ⟨files, hl, hn⟩ := Option.map_eq_some_iff.mp hn
  have hl := eq_ok_of_toOption hl
  refine ⟨files, hl, hn, renderDirectory_accounts standard .empty hl ?_, by decide +kernel⟩
  rw [hn]
  decide

end Config
end ChartRender
