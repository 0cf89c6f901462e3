import ChartRender.Proofs.Rendering.Report
import ChartRender.Rendering
/-!
# What comes of the files of a directory

The template files of a directory are gone through twice, to load them and to render them, and the
second pass knows of the first only what stands under a file's name. If names are distinct, either
pass puts under the name of a file what it makes of that file, wherever the file stands
(`Config.under_foldl`). So each file has an outcome (`Config.outcome`), and the rendering of the
directory consists of the outcomes of its files (`Config.under_renderSources`).

Key definitions: `Config.outcome`, `Config.textOf`.
Key theorems: `Config.under_foldl`, `Config.under_loadSources`, `Config.under_renderSources`,
`Config.successes_renderSources`, `Config.outputs_renderSources`.
-/

namespace ChartRender

open Template (Stmt)

/-- What loading has put under a name: a template, its text, and diagnostics. -/
def Loading.under (l : Loading) (name : String) :
    Option (List Stmt) × Option String × Option (List Diagnostic) :=
  (l.library.lookup name, l.sources.lookup name, l.report.errors.lookup name)

/-- What rendering has put under a name: how many successes, a text, and diagnostics. -/
def Rendering.under (r : Rendering) (name : String) :
    Nat × Option String × Option (List Diagnostic) :=
  (r.report.successes.count name, r.outputs.lookup name, r.report.errors.lookup name)

namespace Config

variable {values : Value} {files : List SourceFile} {f : SourceFile}

/-! ### Passes over files -/

section Passes

variable {β γ : Type} {step : β → SourceFile → β} {under : β → String → γ}

/-- A pass leaves alone what stands under the names of no file. -/
theorem under_foldl_of_notMem
    (frame : ∀ b f name, f.name ≠ name → under (step b f) name = under b name) {name : String} :
    ∀ {files : List SourceFile} (b : β), name ∉ files.map (·.name) →
      under (files.foldl step b) name = under b name
  | [], _, _ => rfl
  | f :: rest, b, h => by
    rw [List.map_cons, List.mem_cons, not_or] at h
    rw [List.foldl_cons, under_foldl_of_notMem frame _ h.2, frame b f name (Ne.symm h.1)]

/-- **A pass puts under the name of a file what the file makes of it**, wherever the file stands. -/
theorem under_foldl
    (frame : ∀ b f name, f.name ≠ name → under (step b f) name = under b name) {f : SourceFile} :
    ∀ {files : List SourceFile} (b : β), (files.map (·.name)).Nodup → f ∈ files →
      ∃ b', under b' f.name = under b f.name ∧
        under (files.foldl step b) f.name = under (step b' f) f.name
  | g :: rest, b, hd, hf => by
    rw [List.map_cons, List.nodup_cons] at hd
    rcases List.mem_cons.mp hf with rfl | hf
    · exact ⟨b, rfl, under_foldl_of_notMem frame _ hd.1⟩
    · have hn : g.name ≠ f.name := fun h => hd.1 (h ▸ List.mem_map_of_mem (f := (·.name)) hf)
      obtain ⟨b', hb, he⟩ := under_foldl frame (step b g) hd.2 hf
      exact ⟨b', hb.trans (frame b g f.name hn), he⟩

end Passes

/-! ### Outputs -/

theorem lookup_putOutput (name text n : String) : ∀ os : List (String × String),
    (putOutput name text os).lookup n = if n = name then some text else os.lookup n
  | [] => by
    by_cases h : n = name
    · simp [putOutput, h]
    · have hb : (n == name) = false := by simpa using h
      simp [putOutput, List.lookup_cons, hb, h]
  | (k, old) :: rest => by
    have ih := lookup_putOutput name text n rest
    rw [putOutput]
    by_cases hk : k = name
    · subst hk
      by_cases h : n = k
      · simp [h]
      · have hb : (n == k) = false := by simpa using h
        simp [List.lookup_cons, hb, h]
    · rw [if_neg hk, List.lookup_cons, List.lookup_cons, ih]
      by_cases h : n = name
      · have hb : (name == k) = false := by simpa using Ne.symm hk
        simp [h, hb]
      · simp [h]

/-- A text under a new name comes last. -/
theorem putOutput_of_new {name : String} (text : String) : ∀ {os : List (String × String)},
    name ∉ os.map (·.1) → putOutput name text os = os ++ [(name, text)]
  | [], _ => rfl
  | (k, old) :: rest, h => by
    rw [List.map_cons, List.mem_cons, not_or] at h
    rw [putOutput, if_neg (Ne.symm h.1), putOutput_of_new text h.2, List.cons_append]

/-! ### Loading -/

/-- A file cannot be read, or its text is no template, or it is one. -/
theorem loadable_cases (f : SourceFile) : (∃ e, f.text = .error e) ∨
    (∃ source fault, f.text = .ok source ∧ Template.parse f.name source = .error fault) ∨
    ∃ source statements, f.text = .ok source ∧ Template.parse f.name source = .ok statements := by
  cases ht : f.text with
  | error e => exact Or.inl ⟨e, rfl⟩
  | ok source =>
    cases hp : Template.parse f.name source with
    | error fault => exact Or.inr (Or.inl ⟨source, fault, rfl, hp⟩)
    | ok statements => exact Or.inr (Or.inr ⟨source, statements, rfl, hp⟩)

section Load

variable (l : Loading) {source : String}

theorem loadSource_of_unreadable {e : FileError} (h : f.text = .error e) : loadSource l f =
    { l with report :=
      l.report.addError f.name (.simple ("Failed to read template: " ++ e.message)) } := by
  simp only [loadSource, h]

theorem loadSource_of_malformed {fault : Template.Fault} (h : f.text = .ok source)
    (hp : Template.parse f.name source = .error fault) : loadSource l f =
      ⟨l.library, (f.name, source) :: l.sources,
        l.report.addError f.name (.ofFault fault f.name source)⟩ := by
  simp only [loadSource, h, hp]

theorem loadSource_of_parsed {statements : List Stmt} (h : f.text = .ok source)
    (hp : Template.parse f.name source = .ok statements) : loadSource l f =
      ⟨(f.name, statements) :: l.library, (f.name, source) :: l.sources, l.report⟩ := by
  simp only [loadSource, h, hp]

end Load

theorem under_loadSource_of_ne (l : Loading) (f : SourceFile) (name : String) (h : f.name ≠ name) :
    (loadSource l f).under name = l.under name := by
  have hb : (name == f.name) = false := by simpa using Ne.symm h
  rcases loadable_cases f with ⟨e, ht⟩ | ⟨source, fault, ht, hp⟩ | ⟨source, statements, ht, hp⟩
  · simp [loadSource_of_unreadable l ht, Loading.under, Report.lookup_addError, Ne.symm h]
  · simp [loadSource_of_malformed l ht hp, Loading.under, Report.lookup_addError, List.lookup_cons,
      Ne.symm h, hb]
  · simp [loadSource_of_parsed l ht hp, Loading.under, List.lookup_cons, hb]

/-- What a file makes of its name when it is loaded. -/
def loadedUnder (f : SourceFile) : Option (List Stmt) × Option String × Option (List Diagnostic) :=
  match f.text with
  | .error e => (none, none, some [.simple ("Failed to read template: " ++ e.message)])
  | .ok source =>
    match Template.parse f.name source with
    | .error fault => (none, some source, some [.ofFault fault f.name source])
    | .ok statements => (some statements, some source, none)

theorem under_loadSource {l : Loading} (h : l.under f.name = (none, none, none)) :
    (loadSource l f).under f.name = loadedUnder f := by
  simp only [Loading.under, Prod.mk.injEq] at h
  obtain ⟨hl, hs, he⟩ := h
  rcases loadable_cases f with ⟨e, ht⟩ | ⟨source, fault, ht, hp⟩ | ⟨source, statements, ht, hp⟩
  · simp [loadSource_of_unreadable l ht, loadedUnder, ht, Loading.under, Report.lookup_addError, hl,
      hs, he]
  · simp [loadSource_of_malformed l ht hp, loadedUnder, ht, hp, Loading.under,
      Report.lookup_addError, hl, he]
  · simp [loadSource_of_parsed l ht hp, loadedUnder, ht, hp, Loading.under, he]

/-- **Loading finds under the name of a file what that file holds.** -/
theorem under_loadSources (hd : (files.map (·.name)).Nodup) (hf : f ∈ files) :
    (loadSources files).under f.name = loadedUnder f := by
  obtain ⟨l, hl, he⟩ := under_foldl under_loadSource_of_ne ⟨[], [], .empty⟩ hd hf
  exact he.trans (under_loadSource hl)

theorem under_loadSources_of_notMem {name : String} (h : name ∉ files.map (·.name)) :
    (loadSources files).under name = (none, none, none) :=
  under_foldl_of_notMem under_loadSource_of_ne ⟨[], [], .empty⟩ h

theorem successes_loadSource (l : Loading) (f : SourceFile) :
    (loadSource l f).report.successes = l.report.successes := by
  rcases loadable_cases f with ⟨e, ht⟩ | ⟨source, fault, ht, hp⟩ | ⟨source, statements, ht, hp⟩
  · rw [loadSource_of_unreadable l ht]
    rfl
  · rw [loadSource_of_malformed l ht hp]
    rfl
  · rw [loadSource_of_parsed l ht hp]

theorem successes_loadSources (files : List SourceFile) :
    (loadSources files).report.successes = [] := by
  suffices h : ∀ (files : List SourceFile) (l : Loading),
      (files.foldl loadSource l).report.successes = l.report.successes from h files _
  intro files
  induction files with
  | nil => exact fun _ => rfl
  | cons f rest ih => exact fun l => (ih _).trans (successes_loadSource l f)

/-! ### Rendering -/

section Pass

variable (e : Template.Engine) (sources : List (String × String)) (values : Value)

/-- What is made of a file in the second pass: nothing, or the result of its template. -/
def attempt (f : SourceFile) : Option (Except Template.Fault String) :=
  if f.isHelper then none
  else (e.library.lookup f.name).map fun statements => e.run f.name statements (names values)

theorem renderSource_eq (r : Rendering) (f : SourceFile) :
    renderSource e sources values r f = match attempt e values f with
      | none => r
      | some (.ok text) => addText r f.name text
      | some (.error fault) => addFault r f.name ((sources.lookup f.name).getD "") fault := by
  unfold renderSource attempt
  split_ifs
  · rfl
  · cases e.library.lookup f.name with
    | none => rfl
    | some statements =>
      simp only [Option.map_some]
      cases e.run f.name statements (names values) <;> rfl

theorem under_renderSource_of_ne (r : Rendering) (f : SourceFile) (name : String)
    (h : f.name ≠ name) : (renderSource e sources values r f).under name = r.under name := by
  rw [renderSource_eq]
  split
  · rfl
  · simp only [Rendering.under, addText, Report.successes_addSuccess, Report.errors_addSuccess,
      List.count_append, List.count_singleton, beq_iff_eq, if_neg h]
    split_ifs
    · rfl
    · rw [lookup_putOutput, if_neg (Ne.symm h), Nat.add_zero]
  · simp [Rendering.under, addFault, Report.lookup_addError, Ne.symm h]

/-- The text that a file gives in the second pass. -/
def given (f : SourceFile) : Option String := (attempt e values f).bind Except.toOption

theorem successes_renderSource (r : Rendering) (f : SourceFile) :
    (renderSource e sources values r f).report.successes =
      r.report.successes ++ ((given e values f).map fun _ => f.name).toList := by
  rw [renderSource_eq, given]
  cases attempt e values f with
  | none => simp
  | some result => cases result <;> simp [addText, addFault, Except.toOption]

theorem outputs_renderSource {r : Rendering} {f : SourceFile} (h : f.name ∉ r.outputs.map (·.1)) :
    (renderSource e sources values r f).outputs = r.outputs ++
      (((given e values f).filter (!isBlankText ·)).map (f.name, ·)).toList := by
  rw [renderSource_eq, given]
  cases attempt e values f with
  | none => simp
  | some result =>
    cases result with
    | error fault => simp [addFault, Except.toOption]
    | ok text =>
      by_cases hb : isBlankText text = true
      · simp [addText, Except.toOption, Option.filter, hb]
      · simp [addText, Except.toOption, Option.filter, hb, putOutput_of_new text h]

theorem successes_foldl : ∀ (files : List SourceFile) (r : Rendering),
    (files.foldl (renderSource e sources values) r).report.successes = r.report.successes ++
      files.filterMap fun f => (given e values f).map fun _ => f.name
  | [], r => by simp
  | f :: rest, r => by
    rw [List.foldl_cons, successes_foldl rest, successes_renderSource, List.append_assoc,
      List.filterMap_cons]
    cases given e values f <;> rfl

theorem outputs_foldl : ∀ (files : List SourceFile) (r : Rendering),
    (r.outputs.map (·.1) ++ files.map (·.name)).Nodup →
    (files.foldl (renderSource e sources values) r).outputs = r.outputs ++
      files.filterMap fun f => ((given e values f).filter (!isBlankText ·)).map (f.name, ·)
  | [], r, _ => by simp
  | f :: rest, r, h => by
    have hf : f.name ∉ r.outputs.map (·.1) := fun hm =>
      List.disjoint_of_nodup_append h hm List.mem_cons_self
    have ho := outputs_renderSource e sources values hf
    rw [List.foldl_cons, outputs_foldl rest, ho, List.append_assoc, List.filterMap_cons]
    · cases (given e values f).filter (!isBlankText ·) <;> rfl
    · rw [ho]
      cases (given e values f).filter (!isBlankText ·) with
      | none =>
        simp only [Option.map_none, Option.toList_none, List.append_nil]
        exact h.sublist ((List.sublist_cons_self _ _).append_left _)
      | some text => simpa using h

end Pass

/-! ### Outcomes -/

variable [Template.DebugText] (c : Config)

/-- The engine that renders the files of a directory. -/
def engineOf (files : List SourceFile) : Template.Engine := c.engine (loadSources files).library

/-- **What comes of a file among others**: what is told of it if it cannot be loaded; nothing, if it
is a helper; and else what comes of running its template. -/
def outcome (values : Value) (files : List SourceFile) (f : SourceFile) :
    Option (Except Diagnostic String) :=
  match f.text with
  | .error e => some (.error (.simple ("Failed to read template: " ++ e.message)))
  | .ok source =>
    match Template.parse f.name source with
    | .error fault => some (.error (.ofFault fault f.name source))
    | .ok statements =>
      if f.isHelper then none
      else match (c.engineOf files).run f.name statements (names values) with
        | .ok text => some (.ok text)
        | .error fault => some (.error (.ofFault fault f.name source))

/-- The text that a file among others gives. -/
def textOf (values : Value) (files : List SourceFile) (f : SourceFile) : Option String :=
  (c.outcome values files f).bind Except.toOption

/-- What an outcome puts under the name of its file. -/
def outcomeUnder : Option (Except Diagnostic String) → Nat × Option String × Option (List Diagnostic)
  | none => (0, none, none)
  | some (.ok text) => (1, if isBlankText text then none else some text, none)
  | some (.error d) => (0, none, some [d])

/-- The second pass runs the template that the first one has found in the file. -/
theorem attempt_engineOf (values : Value) (hd : (files.map (·.name)).Nodup) (hf : f ∈ files) :
    attempt (c.engineOf files) values f = if f.isHelper then none
      else (loadedUnder f).1.map fun statements =>
        (c.engineOf files).run f.name statements (names values) := by
  rw [attempt, ← under_loadSources hd hf]
  rfl

theorem given_engineOf (values : Value) (hd : (files.map (·.name)).Nodup) (hf : f ∈ files) :
    given (c.engineOf files) values f = c.textOf values files f := by
  rw [given, textOf, attempt_engineOf c values hd hf, outcome]
  rcases loadable_cases f with ⟨e, ht⟩ | ⟨source, fault, ht, hp⟩ | ⟨source, statements, ht, hp⟩
  · simp [loadedUnder, ht, Except.toOption]
  · simp [loadedUnder, ht, hp, Except.toOption]
  · simp only [loadedUnder, ht, hp, Option.map_some]
    split_ifs
    · rfl
    · cases (c.engineOf files).run f.name statements (names values) <;> rfl

/-- **Rendering puts the outcome of a file under its name.** -/
theorem under_renderSources (hd : (files.map (·.name)).Nodup) (hf : f ∈ files) :
    (c.renderSources values files).under f.name = outcomeUnder (c.outcome values files f) := by
  have hload := under_loadSources hd hf
  obtain ⟨r, hr, he⟩ := under_foldl (under_renderSource_of_ne (c.engineOf files)
    (loadSources files).sources values) ⟨[], (loadSources files).report⟩ hd hf
  refine he.trans ?_
  simp only [Loading.under] at hload
  simp only [Rendering.under, successes_loadSources, List.count_nil, List.lookup_nil,
    Prod.mk.injEq] at hr
  obtain ⟨hs, ho, hr⟩ := hr
  rw [renderSource_eq, attempt_engineOf c values hd hf, outcome]
  rcases loadable_cases f with ⟨e, ht⟩ | ⟨source, fault, ht, hp⟩ | ⟨source, statements, ht, hp⟩
  · simp only [loadedUnder, ht, Prod.mk.injEq] at hload
    simp [loadedUnder, ht, Rendering.under, outcomeUnder, hs, ho, hr, hload]
  · simp only [loadedUnder, ht, hp, Prod.mk.injEq] at hload
    simp [loadedUnder, ht, hp, Rendering.under, outcomeUnder, hs, ho, hr, hload]
  · simp only [loadedUnder, ht, hp, Prod.mk.injEq] at hload
    obtain ⟨-, hsrc, hg⟩ := hload
    simp only [loadedUnder, ht, hp, Option.map_some]
    by_cases hh : f.isHelper = true
    · simp [hh, Rendering.under, outcomeUnder, hs, ho, hr, hg]
    simp only [hh, hsrc]
    cases (c.engineOf files).run f.name statements (names values) with
    | error fault =>
      simp [addFault, Rendering.under, outcomeUnder, Report.lookup_addError, hs, ho, hr, hg]
    | ok text =>
      by_cases hb : isBlankText text = true
      · simp [addText, Rendering.under, outcomeUnder, hb, hs, ho, hr, hg]
      · simp [addText, Rendering.under, outcomeUnder, hb, lookup_putOutput, hs, hr, hg]

/-- **The successes are the files that give a text**, in their order. -/
theorem successes_renderSources (values : Value) (hd : (files.map (·.name)).Nodup) :
    (c.renderSources values files).report.successes =
      files.filterMap fun f => (c.textOf values files f).map fun _ => f.name := by
  have h := successes_foldl (c.engineOf files) (loadSources files).sources values files
    ⟨[], (loadSources files).report⟩
  rw [successes_loadSources, List.nil_append] at h
  refine h.trans (List.filterMap_congr fun f hf => ?_)
  rw [given_engineOf c values hd hf]

/-- **The outputs are the texts that are not blank**, in the order of the files. -/
theorem outputs_renderSources (values : Value) (hd : (files.map (·.name)).Nodup) :
    (c.renderSources values files).outputs = files.filterMap fun f =>
      ((c.textOf values files f).filter (!isBlankText ·)).map (f.name, ·) := by
  have h := outputs_foldl (c.engineOf files) (loadSources files).sources values files
    ⟨[], (loadSources files).report⟩ hd
  refine h.trans (List.filterMap_congr fun f hf => ?_)
  rw [given_engineOf c values hd hf]

/-- A directory that can be listed is rendered file by file. -/
theorem renderDirectory_of_listSources {c : Config} (values : Value) {fs : FileSystem}
    {path : String} (h : c.listSources fs path = .ok files) :
    c.renderDirectory values fs path = c.renderSources values files := by
  rw [renderDirectory, h]

/-- Nothing is put under a name that no file has. -/
theorem under_renderSources_of_notMem (values : Value) {name : String}
    (h : name ∉ files.map (·.name)) :
    (c.renderSources values files).under name = (0, none, none) := by
  have hload := under_loadSources_of_notMem h
  simp only [Loading.under, Prod.mk.injEq] at hload
  refine (under_foldl_of_notMem (under_renderSource_of_ne _ _ _) _ h).trans ?_
  simp [Rendering.under, successes_loadSources, hload]

end Config
end ChartRender
