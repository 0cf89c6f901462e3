import ChartRender.Proofs.Command.Layers
import ChartRender.Proofs.Files.Write
/-!
# The stages of a rendering

A rendering goes through five stages: it loads the values, makes the engine, reads the template,
renders it, and hands the output over. What each stage needs is said of the files and options alone
(`RenderOptions.Passes`), without running anything. The command stops at the first stage that does
not get what it needs, with the exit status of that stage, and until the last stage it changes
nothing but the messages; if all stages pass, the whole output arrives, and nothing else changes
(`Command.render_delivers`).

Key definitions: `RenderStage`, `RenderOptions.Passes`, `RenderOptions.Renders`,
`RenderOptions.FailsFirst`, `RenderOptions.Stops`, `RenderOptions.Delivers`.
Key theorems: `Command.render_eq`, `Command.renderTemplate_outcome`, `Command.write_outcome`,
`Command.render_delivers`.
-/

namespace ChartRender

/-- The stages of a rendering. -/
inductive RenderStage where
  | values
  | engine
  | template
  | rendering
  | output
  deriving DecidableEq, Repr

namespace RenderStage

/-- The stages in the order that they come in. -/
def all : List RenderStage := [.values, .engine, .template, .rendering, .output]

/-- The exit status of a rendering that fails at a stage. -/
def exitStatus : RenderStage → Nat
  | .values => 2
  | .engine => 78
  | .template => 5
  | .rendering => 3
  | .output => 5

end RenderStage

section Rendering

variable [Template.DebugText]

namespace RenderOptions

variable (o : RenderOptions) (config : Config) (fs : FileSystem)

/-- The configuration that a rendering goes by: what is not defined is no fault in a lenient one. -/
def effective : Config := { config with strict := config.strict && !o.lenient }

/-- The name that diagnostics give a template. -/
def templateName : String := (PathParts.ofText o.template).name?.getD o.template

/-- A template or a directory of templates renders to a text with some values. -/
def RendersWith (values : Value) (text : String) : Prop :=
  if fs.isDirectory o.template then
    let r := (o.effective config).renderDirectory values fs o.template
    r.isSuccess = true ∧ text = joinOutputs r.outputs
  else ∃ source, fs.readText o.template = .ok source ∧
    (o.effective config).renderText values o.templateName source = .ok text

/-- The template or the directory renders to a text with the values that are loaded. -/
def Renders (text : String) : Prop :=
  ∃ vs as, o.valuesFiles.mapM (Values.ofFile fs) = .ok vs ∧
    o.overrides.mapM Values.assignment = .ok as ∧
    o.RendersWith config fs (Command.mergeAll (Command.layers vs as)) text

/-- What each stage needs. -/
def Passes : RenderStage → Prop
  | .values => (∀ path ∈ o.valuesFiles, ∃ v, Values.ofFile fs path = .ok v) ∧
      ∀ argument ∈ o.overrides, ∃ a, Values.assignment argument = .ok a
  | .engine => Config.isName config.builtinsName = true
  | .template => fs.isDirectory o.template = true ∨ ∃ source, fs.readText o.template = .ok source
  | .rendering => ∃ text, o.Renders config fs text
  | .output => ∀ path, o.output = some path → (fs.makeDirectories path).2 = .ok () ∧
      ∃ place, (fs.makeDirectories path).1.target path = .ok place

/-- A stage fails, and all before it pass. -/
def FailsFirst (stage : RenderStage) : Prop :=
  ∃ before after, RenderStage.all = before ++ stage :: after ∧
    (∀ earlier ∈ before, o.Passes config fs earlier) ∧ ¬ o.Passes config fs stage

variable {o config fs}

theorem RendersWith.unique {values : Value} {text text' : String}
    (h : o.RendersWith config fs values text) (h' : o.RendersWith config fs values text') :
    text = text' := by
  unfold RendersWith at h h'
  split_ifs at h h'
  · exact h.2.trans h'.2.symm
  · obtain ⟨source, hs, ht⟩ := h
    obtain ⟨source', hs', ht'⟩ := h'
    obtain rfl := Except.ok.inj (hs.symm.trans hs')
    exact Except.ok.inj (ht.symm.trans ht')

theorem renders_iff {vs : List Value} {as : List (String × Value)} {text : String}
    (hv : o.valuesFiles.mapM (Values.ofFile fs) = .ok vs)
    (ha : o.overrides.mapM Values.assignment = .ok as) : o.Renders config fs text ↔
      o.RendersWith config fs (Command.mergeAll (Command.layers vs as)) text := by
  constructor
  · rintro ⟨vs', as', hv', ha', h⟩
    obtain rfl := Except.ok.inj (hv.symm.trans hv')
    obtain rfl := Except.ok.inj (ha.symm.trans ha')
    exact h
  · exact fun h => ⟨vs, as, hv, ha, h⟩

end RenderOptions

/-- A rendering that ended in an error did so at the first stage that fails. It has printed no output
and changed no file, and before the last stage it has not made a directory either. -/
structure RenderOptions.Stops (o : RenderOptions) (config : Config) (s s' : Session)
    (e : CommandError) (stage : RenderStage) : Prop where
  first : o.FailsFirst config s.files stage
  status : e.exitStatus = stage.exitStatus
  output : s'.output = s.output
  files : stage ≠ .output → s'.files = s.files
  gains : s.files.Gains s'.files

/-- A rendering that succeeded has handed over its whole text, to the file under the path if there is
one and else as output, and nothing else has changed but the messages. -/
structure RenderOptions.Delivers (o : RenderOptions) (config : Config) (s s' : Session)
    (text : String) : Prop where
  passes : ∀ stage, o.Passes config s.files stage
  renders : ∀ t, o.Renders config s.files t ↔ t = text
  printed : o.output = none → s'.files = s.files ∧ s'.output = s.output ++ text
  written : ∀ path, o.output = some path →
    s.files.HoldsText s'.files path text ∧ s'.output = s.output

namespace Command

variable {o : RenderOptions} {config : Config}

/-! ### The stages -/

/-- The text of the template or of the directory of templates. -/
def renderTemplate (o : RenderOptions) (config : Config) (values : Value) (debug : Bool) :
    Command String := do
  if (← get).files.isDirectory o.template then
    renderTree (o.effective config) values o.template debug
  else renderFile (o.effective config) values o.template debug

/-- Hands a text over. -/
def deliver (o : RenderOptions) (text : String) : Command Unit :=
  match o.output with
  | some path => write path text
  | none => print text

/-- **A rendering is its stages one after the other.** -/
theorem render_eq (o : RenderOptions) (config : Config) (debug : Bool) :
    render o config debug = (do
      let values ← loadValues o.valuesFiles o.overrides debug
      orFail .ofConfigError (o.effective config).validate
      let text ← renderTemplate o config values debug
      deliver o text) := by
  unfold render renderTemplate
  refine bind_congr fun values => bind_congr fun _ => ?_
  rw [bind_assoc]
  refine bind_congr fun s => ?_
  rw [RenderOptions.effective]
  split_ifs <;> rfl

/-! ### The template -/

/-- What rendering the template or the directory comes to, with values that are loaded. -/
inductive TemplateOutcome (o : RenderOptions) (config : Config) (fs : FileSystem) (values : Value) :
    Except CommandError String → Prop
  | unread {e : CommandError} (ht : ¬ o.Passes config fs .template) (he : e.exitStatus = 5) :
      TemplateOutcome o config fs values (.error e)
  | failed {e : CommandError} (ht : o.Passes config fs .template) (he : e.exitStatus = 3)
      (hr : ∀ text, ¬ o.RendersWith config fs values text) :
      TemplateOutcome o config fs values (.error e)
  | rendered {text : String} (ht : o.Passes config fs .template)
      (hr : o.RendersWith config fs values text) : TemplateOutcome o config fs values (.ok text)

theorem renderTree_outcome (values : Value) (debug : Bool) (s : Session)
    (hd : s.files.isDirectory o.template = true) :
    ∃ r, Tells (renderTree (o.effective config) values o.template debug) s r ∧
      TemplateOutcome o config s.files values r := by
  have hpass : o.Passes config s.files .template := .inl hd
  generalize hr : (o.effective config).renderDirectory values s.files o.template = r
  have hwith : ∀ text, o.RendersWith config s.files values text ↔
      r.isSuccess = true ∧ text = joinOutputs r.outputs := fun text => by
    rw [RenderOptions.RendersWith, if_pos hd, hr]
  unfold renderTree
  by_cases hs : r.isSuccess = true
  · refine ⟨_, (Tells.get s).bind fun m => ?_, .rendered hpass ((hwith _).mpr ⟨hs, rfl⟩)⟩
    simp only [hr, hs, Bool.not_true, Bool.false_eq_true, if_false]
    exact (tells_note debug _ _).bind fun _ => Tells.pure _ _
  · refine ⟨_, (Tells.get s).bind fun m => ?_,
      .failed (e := .templates r.report.summary) hpass rfl fun text h => hs ((hwith text).mp h).1⟩
    simp only [hr, hs, Bool.not_false, if_true]
    exact (tells_modify _ _).bind fun _ => Tells.throw _ _

theorem renderFile_outcome (values : Value) (debug : Bool) (s : Session)
    (hd : ¬ s.files.isDirectory o.template = true) :
    ∃ r, Tells (renderFile (o.effective config) values o.template debug) s r ∧
      TemplateOutcome o config s.files values r := by
  have hwith : ∀ text, o.RendersWith config s.files values text ↔
      ∃ source, s.files.readText o.template = .ok source ∧
        (o.effective config).renderText values o.templateName source = .ok text := fun text => by
    rw [RenderOptions.RendersWith, if_neg hd]
  unfold renderFile
  cases hread : s.files.readText o.template with
  | error e =>
    refine ⟨_, (Tells.get s).bind fun m => (tells_orFail_error _ hread _).bind_error,
      .unread ?_ rfl⟩
    rintro (h | ⟨source, h⟩)
    · exact hd h
    · rw [hread] at h
      cases h
  | ok source =>
    have hpass : o.Passes config s.files .template := .inr ⟨source, hread⟩
    cases htext : (o.effective config).renderText values o.templateName source with
    | error d =>
      refine ⟨_, (Tells.get s).bind fun m => (tells_orFail_ok _ hread _).bind fun m =>
        (tells_orFail_error _ htext _).bind_error, .failed hpass rfl fun text h => ?_⟩
      obtain ⟨source', hs, ht⟩ := (hwith text).mp h
      obtain rfl := Except.ok.inj (hread.symm.trans hs)
      rw [htext] at ht
      cases ht
    | ok text =>
      exact ⟨_, (Tells.get s).bind fun m => (tells_orFail_ok _ hread _).bind fun m =>
        (tells_orFail_ok _ htext _).bind fun m => (tells_note debug _ _).bind fun m =>
        Tells.pure _ _, .rendered hpass ((hwith text).mpr ⟨source, hread, htext⟩)⟩

/-- **Rendering changes nothing but the messages**, whatever it comes to. -/
theorem renderTemplate_outcome (o : RenderOptions) (config : Config) (values : Value) (debug : Bool)
    (s : Session) :
    ∃ r, Tells (renderTemplate o config values debug) s r ∧
      TemplateOutcome o config s.files values r := by
  unfold renderTemplate
  by_cases hd : s.files.isDirectory o.template = true
  · obtain ⟨r, ⟨m, ht⟩, h⟩ := renderTree_outcome values debug s hd
    exact ⟨r, ⟨m, by rw [runIn_bind_ok (runIn_get s), if_pos hd, ht]⟩, h⟩
  · obtain ⟨r, ⟨m, ht⟩, h⟩ := renderFile_outcome values debug s hd
    exact ⟨r, ⟨m, by rw [runIn_bind_ok (runIn_get s), if_neg hd, ht]⟩, h⟩

/-! ### The output -/

/-- What writing the output comes to: it may end in an error after some directories were made. -/
inductive WriteOutcome (path text : String) (s s' : Session) : Except CommandError Unit → Prop
  | failed {e : FileError} (hout : s'.output = s.output) (hg : s.files.Gains s'.files)
      (hn : ¬ ((s.files.makeDirectories path).2 = .ok () ∧
        ∃ place, (s.files.makeDirectories path).1.target path = .ok place)) :
      WriteOutcome path text s s' (.error (.file e))
  | written (hout : s'.output = s.output) (ht : s.files.HoldsText s'.files path text)
      (hp : (s.files.makeDirectories path).2 = .ok () ∧
        ∃ place, (s.files.makeDirectories path).1.target path = .ok place) :
      WriteOutcome path text s s' (.ok ())

omit [Template.DebugText] in
theorem write_outcome (path text : String) (s : Session) :
    ∃ r s', runIn (write path text) s = (r, s') ∧ WriteOutcome path text s s' r := by
  have hgains := s.files.gains_makeDirectories path
  unfold write
  rw [runIn_bind_ok (runIn_get s)]
  rcases hm : s.files.makeDirectories path with ⟨fs, r⟩
  rw [hm] at hgains
  dsimp only
  rw [runIn_bind_ok (runIn_modify _ s)]
  cases r with
  | error e =>
    refine ⟨_, _, runIn_bind_error rfl, .failed (e := e) rfl hgains fun h => ?_⟩
    rw [hm] at h
    cases h.1
  | ok u =>
    rw [runIn_bind_ok (runIn_orFail_ok _ _ _)]
    cases hw : fs.writeText path text with
    | error e =>
      refine ⟨_, _, runIn_bind_error rfl, .failed (e := e) rfl hgains fun h => ?_⟩
      rw [hm] at h
      obtain ⟨-, place, hp⟩ := h
      rw [FileSystem.writeText, hp] at hw
      cases hw
    | ok fs' =>
      obtain ⟨place, hp, -⟩ := bind_eq_ok hw
      refine ⟨.ok (), ({ s with files := fs' } : Session).tell ("wrote " ++ path ++ "\n"), ?_,
        .written rfl ((FileSystem.holdsText_of_writeText hw).of_gains hgains) ?_⟩
      · rw [runIn_bind_ok (runIn_orFail_ok _ _ _), runIn_bind_ok (runIn_modify _ _), runIn_tell]
      · rw [hm]
        exact ⟨rfl, place, hp⟩

/-! ### All stages -/

theorem passes_values (config : Config) {fs : FileSystem} {values : Value}
    (h : LoadOutcome fs o.valuesFiles o.overrides (.ok values)) : o.Passes config fs .values ∧
      ∀ text, o.Renders config fs text ↔ o.RendersWith config fs values text := by
  cases h with
  | merged hv ha =>
    exact ⟨⟨forall_ok_of_mapM hv, forall_ok_of_mapM ha⟩, fun _ => RenderOptions.renders_iff hv ha⟩

theorem not_passes_values (config : Config) {fs : FileSystem} {e : CommandError}
    (h : LoadOutcome fs o.valuesFiles o.overrides (.error e)) :
    ¬ o.Passes config fs .values ∧ e.exitStatus = RenderStage.values.exitStatus := by
  cases h with
  | file hp he =>
    refine ⟨fun hpass => ?_, rfl⟩
    obtain ⟨v, hv⟩ := hpass.1 _ hp
    rw [he] at hv
    cases hv
  | override hv ha he =>
    refine ⟨fun hpass => ?_, rfl⟩
    obtain ⟨a, ha⟩ := hpass.2 _ ha
    rw [he] at ha
    cases ha

/-- A session in which only the messages have changed since, at the first stage that fails. -/
theorem stops_of_tells {s : Session} {m : String} {e : CommandError} {stage : RenderStage}
    (hf : o.FailsFirst config s.files stage) (he : e.exitStatus = stage.exitStatus) :
    o.Stops config s { s with messages := m } e stage :=
  ⟨hf, he, rfl, fun _ => rfl, .refl s.files⟩

/-- What handing the text over comes to, after all other stages have passed. -/
theorem deliver_outcome {s : Session} {text : String}
    (hpass : ∀ stage, stage ≠ .output → o.Passes config s.files stage)
    (hr : ∀ t, o.Renders config s.files t ↔ t = text) (m : String) :
    (∃ e s', runIn (deliver o text) { s with messages := m } = (.error e, s') ∧
      o.Stops config s s' e .output) ∨
    ∃ s', runIn (deliver o text) { s with messages := m } = (.ok (), s') ∧
      o.Delivers config s s' text := by
  have hall : o.Passes config s.files .output → ∀ stage, o.Passes config s.files stage :=
    fun ho stage => if h : stage = .output then h ▸ ho else hpass stage h
  cases hout : o.output with
  | none =>
    have hnone : ∀ path, o.output ≠ some path := fun path => by simp [hout]
    rw [deliver, hout]
    exact .inr ⟨_, runIn_print _ _, hall fun path hp => absurd hp (hnone path), hr,
      fun _ => ⟨rfl, rfl⟩, fun path hp => absurd hp (hnone path)⟩
  | some path =>
    have hpath : ∀ {path'}, o.output = some path' → path' = path := fun h =>
      Option.some.inj (h.symm.trans hout)
    rw [deliver, hout]
    obtain ⟨r, s', hrun, hw⟩ := write_outcome path text { s with messages := m }
    cases hw with
    | failed ho hg hn =>
      refine .inl ⟨_, s', hrun, ⟨[.values, .engine, .template, .rendering], [], rfl, ?_, ?_⟩, rfl,
        ho, fun h => absurd rfl h, hg⟩
      · exact fun earlier he => hpass earlier fun h => by simp [h] at he
      · exact fun h => hn (h path hout)
    | written ho ht hp =>
      refine .inr ⟨s', hrun, hall fun path' h => hpath h ▸ hp, hr, fun h => ?_, fun path' h => ?_⟩
      · rw [hout] at h
        cases h
      · exact hpath h ▸ ⟨ht, ho⟩

/-- **A rendering delivers its whole text or nothing**, and its exit status is that of the first
stage that fails. If that is not the last one, no file or directory has changed and there is no
output, and if none fails, the text is all that has changed. -/
theorem render_delivers (o : RenderOptions) (config : Config) (debug : Bool) (s : Session) :
    (∃ e s' stage, runIn (render o config debug) s = (.error e, s') ∧
      o.Stops config s s' e stage) ∨
    ∃ text s', runIn (render o config debug) s = (.ok (), s') ∧ o.Delivers config s s' text := by
  rw [render_eq]
  obtain ⟨r, ⟨m, hload⟩, houtcome⟩ := loadValues_outcome o.valuesFiles o.overrides debug s
  cases r with
  | error e =>
    obtain ⟨hn, he⟩ := not_passes_values config houtcome
    exact .inl ⟨_, _, .values, runIn_bind_error hload, stops_of_tells ⟨[], _, rfl, by simp, hn⟩ he⟩
  | ok values =>
    obtain ⟨hvalues, hrenders⟩ := passes_values config houtcome
    rw [runIn_bind_ok hload]
    by_cases hname : Config.isName config.builtinsName = true
    · have hengine : o.Passes config s.files .engine := hname
      obtain ⟨m, hm⟩ := tells_orFail_ok .ofConfigError
        (show (o.effective config).validate = .ok () from if_pos hname) { s with messages := m }
      rw [runIn_bind_ok hm]
      obtain ⟨r, ⟨m, ht⟩, htemplate⟩ :=
        renderTemplate_outcome o config values debug { s with messages := m }
      cases htemplate with
      | unread hn he =>
        exact .inl ⟨_, _, .template, runIn_bind_error ht, stops_of_tells
          ⟨[.values, .engine], _, rfl, by simp [hvalues, hengine], hn⟩ he⟩
      | failed hp he hr =>
        have hn : ¬ o.Passes config s.files .rendering :=
          fun ⟨text, h⟩ => hr text ((hrenders text).mp h)
        exact .inl ⟨_, _, .rendering, runIn_bind_error ht, stops_of_tells
          ⟨[.values, .engine, .template], _, rfl, by simp [hvalues, hengine, hp], hn⟩ he⟩
      | @rendered text hp hr =>
        have hall : ∀ stage, stage ≠ .output → o.Passes config s.files stage := by
          intro stage hne
          cases stage with
          | values => exact hvalues
          | engine => exact hengine
          | template => exact hp
          | rendering => exact ⟨text, (hrenders text).mpr hr⟩
          | output => exact absurd rfl hne
        have hunique : ∀ t, o.Renders config s.files t ↔ t = text := fun t =>
          (hrenders t).trans ⟨fun h => h.unique hr, fun h => h ▸ hr⟩
        rw [runIn_bind_ok ht]
        rcases deliver_outcome hall hunique m with ⟨e, s', hrun, hs⟩ | ⟨s', hrun, hd⟩
        · exact .inl ⟨e, s', .output, hrun, hs⟩
        · exact .inr ⟨text, s', hrun, hd⟩
    · obtain ⟨m, hm⟩ := tells_orFail_error .ofConfigError
        (show (o.effective config).validate = .error (.invalidName config.builtinsName) from
          if_neg hname) { s with messages := m }
      exact .inl ⟨_, _, .engine, runIn_bind_error hm, stops_of_tells
        ⟨[.values], _, rfl, by simp [hvalues], hname⟩ rfl⟩

end Command

end Rendering

namespace Command

/-- A directory of two templates, one of which names what is not defined. -/
def halfChart : FileSystem := ⟨.directory [("t", .directory
  [("a.yaml", .file "a: 1".toUTF8), ("b.yaml", .file "b: \x7b\x7b c \x7d\x7d".toUTF8)])], []⟩

/-- One template that fails keeps the other one's text back, and no directory is made for it. -/
example : (runIn (render ⟨"t", [], [], false, some "out/all.yaml"⟩ .standard false)
      (.start halfChart)).1 = .error (.templates "1 error in 1 template") ∧
    ((runIn (render ⟨"t", [], [], false, some "out/all.yaml"⟩ .standard false)
      (.start halfChart)).2.files.contains "out") = false := by decide +kernel

end Command
end ChartRender
