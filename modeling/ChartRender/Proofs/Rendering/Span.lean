import ChartRender.Proofs.Rendering.Isolation
import ChartRender.Proofs.Template.Reach
import ChartRender.Proofs.Text.Lines
/-!
# Spans of reported faults

The diagnostic of a file that fails has the span of a line of that file, whose number is the line
where the fault is located. The fault is located in the file itself or in another one that lends it
a routine (`Config.renderDirectory_span`); in the latter case the span marks a line that has nothing
to do with the fault (`Config.renderDirectory_span_borrowed`).

Key definitions: `Config.faultOf`, `Config.Points`, `Config.PointsAtFaults`.
Key theorems: `Config.outcome_eq_error`, `Config.within_reach_of_faultOf`,
`Config.renderDirectory_span`.
-/

namespace ChartRender

theorem Diagnostic.span_ofFault (fault : Template.Fault) (name source : String) :
    (Diagnostic.ofFault fault name source).span =
      fault.place.bind fun place => Text.lineSpan source place.line := by
  unfold Diagnostic.ofFault
  dsimp only
  cases fault.failure? <;> rfl

/-- A text that is no template is at fault itself. -/
theorem Template.place_of_parse {name source : String} {fault : Template.Fault}
    (h : Template.parse name source = .error fault) : ∃ line, fault.place = some ⟨name, line⟩ := by
  unfold Template.parse at h
  split at h
  · cases h
  · rename_i r _
    cases h
    unfold Template.Rejection.fault
    cases r.kind <;> exact ⟨r.line, rfl⟩

namespace Config

section Faults

variable [Template.DebugText] {c : Config} {values : Value} {files : List SourceFile} {f : SourceFile}

/-- The fault of a file among others: that of its text, if it is no template; and else that of running
its template, unless it is a helper. -/
def faultOf (c : Config) (values : Value) (files : List SourceFile) (f : SourceFile) :
    Option Template.Fault :=
  match f.text with
  | .error _ => none
  | .ok source =>
    match Template.parse f.name source with
    | .error fault => some fault
    | .ok statements =>
      if f.isHelper then none
      else match (c.engineOf files).run f.name statements (names values) with
        | .ok _ => none
        | .error fault => some fault

/-- A file that fails cannot be read, or its diagnostic is that of its fault. -/
theorem outcome_eq_error {d : Diagnostic} (h : c.outcome values files f = some (.error d)) :
    (∃ message, d = .simple message) ∨ ∃ source fault, f.text = .ok source ∧
      c.faultOf values files f = some fault ∧ d = .ofFault fault f.name source := by
  rw [outcome] at h
  rw [faultOf]
  rcases loadable_cases f with ⟨e, ht⟩ | ⟨source, fault, ht, hp⟩ | ⟨source, statements, ht, hp⟩
  · rw [ht] at h
    cases h
    exact Or.inl ⟨_, rfl⟩
  · rw [ht] at h ⊢
    simp only [hp] at h ⊢
    cases h
    exact Or.inr ⟨source, fault, rfl, rfl, rfl⟩
  · rw [ht] at h ⊢
    simp only [hp] at h ⊢
    split_ifs at h ⊢
    cases hr : (c.engineOf files).run f.name statements (names values) with
    | ok text =>
      rw [hr] at h
      cases h
    | error fault =>
      rw [hr] at h
      cases h
      exact Or.inr ⟨source, fault, rfl, rfl, rfl⟩

/-- **The fault of a file is located in it**, or in another one that lends it routines. -/
theorem within_reach_of_faultOf (hd : (files.map (·.name)).Nodup) (hf : f ∈ files)
    {fault : Template.Fault} (h : c.faultOf values files f = some fault) :
    fault.Within ((c.engineOf files).reach f.name) f.name := by
  have hload := under_loadSources hd hf
  rw [faultOf] at h
  rcases loadable_cases f with ⟨e, ht⟩ | ⟨source, fault', ht, hp⟩ | ⟨source, statements, ht, hp⟩
  · rw [ht] at h
    cases h
  · rw [ht] at h
    simp only [hp] at h
    cases h
    obtain ⟨line, hplace⟩ := Template.place_of_parse hp
    intro place hpl
    rw [hplace] at hpl
    cases hpl
    exact Or.inl rfl
  · rw [ht] at h
    simp only [hp] at h
    simp only [Loading.under, loadedUnder, ht, hp, Prod.mk.injEq] at hload
    split_ifs at h
    cases hr : (c.engineOf files).run f.name statements (names values) with
    | ok text =>
      rw [hr] at h
      cases h
    | error fault' =>
      rw [hr] at h
      cases h
      exact (c.engineOf files).within_reach_of_run hload.1 hr

/-! ### Spans -/

/-- What the span of a diagnostic on a file stands for: the diagnostic is that of the fault of the file,
which has a place, and the span marks the line of that number in the file. -/
structure Points (c : Config) (values : Value) (files : List SourceFile) (f : SourceFile)
    (d : Diagnostic) (span : Text.Span) (source : String) (fault : Template.Fault)
    (place : Template.Place) : Prop where
  text_eq : f.text = .ok source
  faultOf_eq : c.faultOf values files f = some fault
  diagnostic_eq : d = .ofFault fault f.name source
  place_eq : fault.place = some place
  marks : Text.Marks source place.line span

/-- **A span marks the line where the fault is located**, in the source of the file that is reported;
and that is the file of the fault, unless another one that it reaches lends it a routine. -/
theorem renderDirectory_span {fs : FileSystem} {path : String} (hw : fs.root.WellFormed)
    (hl : c.listSources fs path = .ok files) (hf : f ∈ files) {ds : List Diagnostic}
    (hds : (c.renderDirectory values fs path).report.errors.lookup f.name = some ds)
    {d : Diagnostic} (hd : d ∈ ds) {span : Text.Span} (hspan : d.span = some span) :
    ∃ source fault place, c.Points values files f d span source fault place ∧
      (place.template = f.name ∨ (c.engineOf files).Lends f.name place.template) := by
  have hnodup := nodup_names_of_listSources hw hl
  have hunder : (c.renderSources values files).under f.name = _ := under_renderSources c hnodup hf
  rw [renderDirectory_of_listSources values hl] at hds
  simp only [Rendering.under, hds] at hunder
  cases ho : c.outcome values files f with
  | none =>
    rw [ho] at hunder
    simp [outcomeUnder] at hunder
  | some result =>
    cases result with
    | ok text =>
      rw [ho] at hunder
      simp [outcomeUnder] at hunder
    | error d' =>
      rw [ho] at hunder
      simp only [outcomeUnder, Prod.mk.injEq, Option.some.injEq] at hunder
      obtain ⟨-, -, rfl⟩ := hunder
      obtain rfl := List.mem_singleton.mp hd
      rcases outcome_eq_error ho with ⟨message, rfl⟩ | ⟨source, fault, ht, hfault, rfl⟩
      · cases hspan
      · rw [Diagnostic.span_ofFault] at hspan
        obtain ⟨place, hplace, hline⟩ := Option.bind_eq_some_iff.mp hspan
        have hwithin := within_reach_of_faultOf hnodup hf hfault
        exact ⟨source, fault, place, ⟨ht, hfault, rfl, hplace, Text.lineSpan_marks hline⟩,
          hwithin place hplace⟩

/-- Every span of a diagnostic marks a line of the file that the fault is located in. -/
def PointsAtFaults (c : Config) (values : Value) (fs : FileSystem) (path : String) : Prop :=
  ∀ files, c.listSources fs path = .ok files → ∀ f ∈ files, ∀ ds,
    (c.renderDirectory values fs path).report.errors.lookup f.name = some ds →
    ∀ d ∈ ds, ∀ span, d.span = some span → ∃ source fault place,
      c.Points values files f d span source fault place ∧ place.template = f.name

end Faults

/-- A directory with a routine that fails for every argument, a file that calls it, and a file that
fails by itself on its second line. -/
def lendingChart : FileSystem :=
  ⟨.directory [("t", .directory
    [("_h.tpl", .file "\x7b% macro bad(x) %\x7d\x7b\x7b x.y.z \x7d\x7d\x7b% endmacro %\x7d".toUTF8),
    ("borrow.yaml", .file
      "\x7b% from '_h.tpl' import bad %\x7d\nb: \x7b\x7b bad(values) \x7d\x7d".toUTF8),
    ("own.yaml", .file "a: 1\n\x7b\x7b nowhere.x \x7d\x7d".toUTF8)])], []⟩

theorem wellFormed_lendingChart : lendingChart.root.WellFormed := by
  refine .of_files ?_ ?_ ?_ ?_ <;> decide +kernel

/-- A file of the directory, and what is told of it: the place of its fault, and the span of its
diagnostic. -/
theorem exists_of_lendingChart (index : Nat) {name : String} {place : Template.Place}
    {span : Text.Span}
    (hp : ((standard.listSources lendingChart "t").toOption.bind fun files =>
      files[index]?.map fun f => (f.name, (standard.faultOf .empty files f).bind (·.place))) =
        some (name, some place))
    (hs : ((standard.renderDirectory .empty lendingChart "t").report.errors.lookup name).map
      (·.map (·.span)) = some [some span]) :
    ∃ files f fault d, standard.listSources lendingChart "t" = .ok files ∧ f ∈ files ∧
      f.name = name ∧ standard.faultOf .empty files f = some fault ∧ fault.place = some place ∧
      (standard.renderDirectory .empty lendingChart "t").report.errors.lookup f.name = some [d] ∧
      d.span = some span := by
  obtain ⟨files, hl, hfile⟩ := Option.bind_eq_some_iff.mp hp
  obtain ⟨f, hf, hpair⟩ := Option.map_eq_some_iff.mp hfile
  obtain ⟨rfl, hfp⟩ := Prod.mk.inj hpair
  obtain ⟨fault, hfault, hplace⟩ := Option.bind_eq_some_iff.mp hfp
  obtain ⟨ds, hds, hspans⟩ := Option.map_eq_some_iff.mp hs
  obtain ⟨d, rfl, hd⟩ := List.map_eq_singleton_iff.mp hspans
  exact ⟨files, f, fault, d, eq_ok_of_toOption hl, List.mem_of_getElem? hf, rfl, hfault, hplace, hds,
    hd⟩

theorem fault_ownFile : ((standard.listSources lendingChart "t").toOption.bind fun files =>
    files[2]?.map fun f => (f.name, (standard.faultOf .empty files f).bind (·.place))) =
      some ("own.yaml", some ⟨"own.yaml", 2⟩) := by decide +kernel

theorem span_ownFile : ((standard.renderDirectory .empty lendingChart "t").report.errors.lookup
    "own.yaml").map (·.map (·.span)) = some [some ⟨5, 15⟩] := by decide +kernel

theorem fault_borrowingFile : ((standard.listSources lendingChart "t").toOption.bind fun files =>
    files[1]?.map fun f => (f.name, (standard.faultOf .empty files f).bind (·.place))) =
      some ("borrow.yaml", some ⟨"_h.tpl", 1⟩) := by decide +kernel

theorem span_borrowingFile : ((standard.renderDirectory .empty lendingChart "t").report.errors.lookup
    "borrow.yaml").map (·.map (·.span)) = some [some ⟨0, 30⟩] := by decide +kernel

/-- The span of the file that fails by itself marks its second line, where its fault is. -/
theorem renderDirectory_span_lendingChart : ∃ files f d source fault place,
    standard.listSources lendingChart "t" = .ok files ∧ f ∈ files ∧ f.name = "own.yaml" ∧
    (standard.renderDirectory .empty lendingChart "t").report.errors.lookup f.name = some [d] ∧
    d.span = some ⟨5, 15⟩ ∧
    standard.Points .empty files f d ⟨5, 15⟩ source fault place ∧
    (place.template = f.name ∨ (standard.engineOf files).Lends f.name place.template) := by
  obtain ⟨files, f, -, d, hl, hf, hn, -, -, hds, hd⟩ :=
    exists_of_lendingChart 2 fault_ownFile span_ownFile
  obtain ⟨source, fault, place, hp, ho⟩ := renderDirectory_span wellFormed_lendingChart hl hf hds
    List.mem_cons_self hd
  exact ⟨files, f, d, source, fault, place, hl, hf, hn, hds, hd, hp, ho⟩

/-- The span of the file that calls a routine marks its first line, and the fault is in the file that
lends the routine. -/
theorem renderDirectory_span_borrowed : ¬ standard.PointsAtFaults .empty lendingChart "t" := by
  intro h
  obtain ⟨files, f, fault, d, hl, hf, hn, hfault, hplace, hds, hd⟩ :=
    exists_of_lendingChart 1 fault_borrowingFile span_borrowingFile
  obtain ⟨source, fault', place, hp, hown⟩ := h files hl f hf _ hds d List.mem_cons_self _ hd
  have hfe := hp.faultOf_eq
  rw [hfault] at hfe
  obtain rfl := Option.some.inj hfe
  have hpe := hp.place_eq
  rw [hplace] at hpe
  obtain rfl := Option.some.inj hpe
  rw [hn] at hown
  exact absurd hown (by decide)

end Config
end ChartRender
