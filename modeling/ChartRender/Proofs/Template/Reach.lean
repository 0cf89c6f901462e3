import ChartRender.Proofs.Template.NamesRead
import ChartRender.Proofs.Template.Unplaced
/-!
# What a template can reach

A template depends on no other templates than those that it can include or import, at any depth, and
on nothing else of its engine than what the names that it reads stand for; and its faults are located
in itself or in a template that lends it a routine. All of this is said here for a `Reach`: which
templates may be included, whose routines may be called, and which names may be read. It has to hold
of every scope that the evaluation goes through, since a routine is called by its number in the scope;
so the evaluations in two engines are compared as runs that agree on the scopes within the reach, keep
to it, and fail within it (`Run.Agree`).

The names matter because of the function `debug`, which shows the names of all templates: two engines
with different templates differ in what that name stands for, and in no other.

Key definitions: `Expr.mayName`, `Reach`, `AreWithin`, `Fault.Within`, `Run.Agree`, `Machine.Agree`,
`Engine.Shares`, `Engine.Reaches`, `Engine.Lends`.
Key theorems: `Expr.agree_eval`, `Stmt.agree_run`, `Engine.agree_machine`, `Engine.agree_run`,
`Engine.within_reach_of_run`.
-/

namespace ChartRender.Template

/-! ### Templates, scopes and faults -/

/-- Which templates may be included, whose routines may be called, and which names may be read. -/
structure Reach where
  includes : String → Prop
  lends : String → Prop
  reads : String → Prop

/-- Whether an expression can be the name of a template. A literal text is its own name; what other
expressions stand for is not looked at. -/
def Expr.mayName (e : Expr) (name : String) : Bool :=
  match e with
  | .literal _ (.string s) => s == name
  | _ => true

/-- Names that may all be read. -/
def Reach.Allows (R : Reach) (names : List String) : Prop := ∀ name ∈ names, R.reads name

mutual

/-- A statement of a template that keeps to a reach: it includes and imports no other templates, reads
no other names, and defines routines only if those of the template may be called. -/
def Stmt.Within (R : Reach) (template : String) : Stmt → Prop
  | .text _ => True
  | .emit e => R.Allows e.namesRead
  | .assign _ e => R.Allows e.namesRead
  | .choose c yes no => R.Allows c.namesRead ∧ AreWithin R template yes ∧ AreWithin R template no
  | .forEach _ e body => R.Allows e.namesRead ∧ AreWithin R template body
  | .define _ _ body => R.lends template ∧ AreWithin R template body
  | .include _ e => R.Allows e.namesRead ∧ ∀ name, e.mayName name = true → R.includes name
  | .fromImport _ e names => R.Allows e.namesRead ∧ R.Allows (names.map (·.1)) ∧
    ∀ name, e.mayName name = true → R.includes name

/-- Statements of a template that keep to a reach. -/
def AreWithin (R : Reach) (template : String) : List Stmt → Prop
  | [] => True
  | s :: rest => s.Within R template ∧ AreWithin R template rest

end

variable {R : Reach}

namespace Reach.Allows

variable {names names' : List String}

theorem nil : R.Allows [] := List.forall_mem_nil _

theorem append (h : R.Allows names) (h' : R.Allows names') : R.Allows (names ++ names') :=
  List.forall_mem_append.mpr ⟨h, h'⟩

theorem left (h : R.Allows (names ++ names')) : R.Allows names :=
  (List.forall_mem_append.mp h).1

theorem right (h : R.Allows (names ++ names')) : R.Allows names' :=
  (List.forall_mem_append.mp h).2

end Reach.Allows

mutual

/-- What a statement within the reach reads may be read. -/
theorem Stmt.allows_of_within {template : String} (s : Stmt) (h : s.Within R template) :
    R.Allows s.namesRead := by
  match s with
  | .text _ => exact .nil
  | .emit e => exact h
  | .assign _ e => exact h
  | .choose c yes no =>
    rw [Stmt.Within] at h
    exact h.1.append ((allows_of_areWithin yes h.2.1).append (allows_of_areWithin no h.2.2))
  | .forEach _ e body =>
    rw [Stmt.Within] at h
    exact h.1.append (allows_of_areWithin body h.2)
  | .define _ _ body =>
    rw [Stmt.Within] at h
    exact allows_of_areWithin body h.2
  | .include _ e =>
    rw [Stmt.Within] at h
    exact h.1
  | .fromImport _ e names =>
    rw [Stmt.Within] at h
    exact h.1.append h.2.1

theorem allows_of_areWithin {template : String} (stmts : List Stmt) (h : AreWithin R template stmts) :
    R.Allows (namesReadIn stmts) := by
  match stmts with
  | [] => exact .nil
  | s :: rest =>
    rw [AreWithin] at h
    exact (s.allows_of_within h.1).append (allows_of_areWithin rest h.2)

end

/-- A routine that may be called, and keeps to the reach. -/
structure Routine.Within (R : Reach) (r : Routine) : Prop where
  lends : R.lends r.template
  body : AreWithin R r.template r.body

/-- A scope whose routines are within the reach. -/
def Scope.Within (R : Reach) (s : Scope) : Prop := ∀ r ∈ s.routines, r.Within R

/-- A fault that is located, if at all, in the given template or in one that lends routines. -/
def Fault.Within (R : Reach) (template : String) (f : Fault) : Prop :=
  ∀ place, f.place = some place → place.template = template ∨ R.lends place.template

theorem Fault.within_of_unplaced {f : Fault} (h : f.place = none) (template : String) :
    f.Within R template := by
  intro place hp
  rw [h] at hp
  cases hp

/-- A fault that is placed is within the reach of the template that it gets, or has already been
within it. -/
theorem Fault.Within.placed {f : Fault} {template : String} (h : f.Within R template) (line : Nat) :
    (f.placed template line).Within R template := by
  intro place hp
  unfold Fault.placed at hp
  split at hp
  · exact h place hp
  · cases hp
    exact Or.inl rfl

/-- A fault of a routine that may be called is within the reach of every template. -/
theorem Fault.Within.of_lends {f : Fault} {template : String} (h : f.Within R template)
    (hl : R.lends template) (caller : String) : f.Within R caller := by
  intro place hp
  rcases h place hp with he | he
  · exact Or.inr (he ▸ hl)
  · exact Or.inr he

namespace Scope

variable (s : Scope)

theorem within_start (names : Bindings) : (start names).Within R := by
  intro r hr
  cases hr

theorem Within.of_routines {s t : Scope} (h : s.Within R) (ht : t.routines = s.routines) :
    t.Within R := by
  intro r hr
  exact h r (ht ▸ hr)

@[simp] theorem routines_assign (name : String) (d : Datum) :
    (s.assign name d).routines = s.routines := by
  unfold assign
  split <;> rfl

@[simp] theorem routines_push : s.push.routines = s.routines := rfl

@[simp] theorem routines_pop : s.pop.routines = s.routines := rfl

@[simp] theorem routines_withClosure (closure : Option Nat) :
    (s.withClosure closure).routines = s.routines := by
  unfold withClosure
  split <;> rfl

@[simp] theorem routines_openClosure : s.openClosure.routines = s.routines := by
  unfold openClosure
  split <;> simp

@[simp] theorem routines_encloseName (outside : String → Option Datum) (name : String) :
    (encloseName outside s name).routines = s.routines := by
  unfold encloseName
  dsimp only
  split <;> simp

@[simp] theorem routines_enclose (outside : String → Option Datum) (names : List String) :
    (s.enclose outside names).routines = s.routines := by
  unfold enclose
  induction names generalizing s with
  | nil => rfl
  | cons name rest ih => rw [List.foldl_cons, ih, routines_encloseName]

@[simp] theorem routines_assignAll (names : List String) (ds : List Datum) :
    (assignAll names ds s).routines = s.routines := by
  unfold assignAll
  induction names.zip ds with
  | nil => rfl
  | cons p rest ih => rw [List.foldr_cons, routines_assign, ih]

/-- Of what lies outside of all frames only the enclosed names matter. -/
theorem enclose_congr {outside outside' : String → Option Datum} {names : List String}
    (h : ∀ name ∈ names, outside name = outside' name) :
    s.enclose outside names = s.enclose outside' names := by
  unfold enclose
  induction names generalizing s with
  | nil => rfl
  | cons name rest ih =>
    rw [List.forall_mem_cons] at h
    have hname : encloseName outside s name = encloseName outside' s name := by
      simp only [encloseName, h.1]
    rw [List.foldl_cons, List.foldl_cons, hname, ih _ h.2]

theorem define_congr {outside outside' : String → Option Datum} {free : List String}
    (h : ∀ name ∈ free, outside name = outside' name) (template name : String)
    (params : List String) (body : List Stmt) :
    s.define outside template name params body free =
      s.define outside' template name params body free := by
  rw [define, define, s.enclose_congr h]

/-- A definition adds a routine of the template with the statements that it was given. -/
theorem Within.define {s : Scope} (h : s.Within R) (outside : String → Option Datum)
    {template : String} (name : String) (params : List String) {body : List Stmt}
    (hl : R.lends template) (hb : AreWithin R template body) (free : List String) :
    (s.define outside template name params body free).Within R := by
  intro r hr
  rw [Scope.define, routines_assign, List.mem_append, routines_enclose] at hr
  rcases hr with hr | hr
  · exact h r hr
  · rw [List.mem_singleton.mp hr]
    exact ⟨hl, hb⟩

end Scope

/-! ### Runs -/

/-- Two runs in a template that have the same result on every scope within the reach, leave such a
scope, and fail within the reach. -/
structure Run.Agree (R : Reach) (template : String) (r r' : Run α) : Prop where
  same : ∀ {s}, s.Within R → r s = r' s
  keeps : ∀ {s a t}, s.Within R → r s = .ok (a, t) → t.Within R
  fails : ∀ {s f}, s.Within R → r s = .error f → f.Within R template

namespace Run.Agree

variable {template : String}

theorem pure (a : α) : Run.Agree R template (pure a) (pure a) where
  same _ := rfl
  keeps := by
    rintro s _ _ hs ⟨⟩
    exact hs
  fails := by
    rintro s _ hs ⟨⟩

theorem throw {f : Fault} (hf : f.place = none) :
    Run.Agree R template (throw f : Run α) (throw f) where
  same _ := rfl
  keeps := by
    rintro s _ _ hs ⟨⟩
  fails := by
    rintro s _ hs ⟨⟩
    exact Fault.within_of_unplaced hf template

/-- What is done with the result of a run may rely on its being one. -/
theorem bind_of {r r' : Run α} {k k' : α → Run β} (h : r.Agree R template r')
    (hk : ∀ a, (∃ s t, r s = .ok (a, t)) → (k a).Agree R template (k' a)) :
    (r >>= k).Agree R template (r' >>= k') where
  same {s} hs := by
    change (r s >>= fun p => k p.1 p.2) = (r' s >>= fun p => k' p.1 p.2)
    rw [← h.same hs]
    cases hr : r s with
    | error f => rfl
    | ok p => exact (hk p.1 ⟨s, p.2, hr⟩).same (h.keeps hs hr)
  keeps {s b t} hs hb := by
    change (r s >>= fun p => k p.1 p.2) = .ok (b, t) at hb
    cases hr : r s with
    | error f =>
      rw [hr] at hb
      cases hb
    | ok p =>
      rw [hr] at hb
      exact (hk p.1 ⟨s, p.2, hr⟩).keeps (h.keeps hs hr) hb
  fails {s f} hs hf := by
    change (r s >>= fun p => k p.1 p.2) = .error f at hf
    cases hr : r s with
    | error f' =>
      rw [hr] at hf
      cases hf
      exact h.fails hs hr
    | ok p =>
      rw [hr] at hf
      exact (hk p.1 ⟨s, p.2, hr⟩).fails (h.keeps hs hr) hf

theorem bind {r r' : Run α} {k k' : α → Run β} (h : r.Agree R template r')
    (hk : ∀ a, (k a).Agree R template (k' a)) : (r >>= k).Agree R template (r' >>= k') :=
  h.bind_of fun a _ => hk a

/-- What is done with the scope may rely on its routines. -/
theorem get_bind {k k' : Scope → Run α}
    (hk : ∀ s, s.Within R → (k s).Agree R template (k' s)) :
    Run.Agree R template (get >>= k) (get >>= k') where
  same {s} hs := (hk s hs).same hs
  keeps {s _ _} hs h := (hk s hs).keeps hs h
  fails {s _} hs h := (hk s hs).fails hs h

theorem modify {f : Scope → Scope} (hf : ∀ s, (f s).routines = s.routines) :
    Run.Agree R template (modify f) (modify f) where
  same _ := rfl
  keeps := by
    rintro s _ _ hs ⟨⟩
    exact hs.of_routines (hf s)
  fails := by
    rintro s _ hs ⟨⟩

theorem set {s : Scope} (hs : s.Within R) : Run.Agree R template (set s) (set s) where
  same _ := rfl
  keeps := by
    rintro _ _ _ _ ⟨⟩
    exact hs
  fails := by
    rintro _ _ _ ⟨⟩

theorem ite {r r' q q' : Run α} (p : Prop) [Decidable p] (h : r.Agree R template r')
    (hq : q.Agree R template q') : (if p then r else q).Agree R template (if p then r' else q') := by
  split
  · exact h
  · exact hq

/-- Runs of a routine that may be called agree wherever it is called. -/
theorem of_lends {r r' : Run α} (h : r.Agree R template r') (hl : R.lends template)
    (caller : String) : r.Agree R caller r' where
  same := h.same
  keeps := h.keeps
  fails hs hf := (h.fails hs hf).of_lends hl caller

theorem checkDepth : checkDepth.Agree R template checkDepth := by
  refine get_bind fun s _ => ?_
  exact ite _ (throw rfl) (pure ())

theorem forEachDatum (name : String) {body body' : Run String} (h : body.Agree R template body') :
    ∀ ds, (forEachDatum name body ds).Agree R template (forEachDatum name body' ds)
  | [] => pure ""
  | d :: rest => by
    refine (modify fun s => s.routines_assign name d).bind fun _ => ?_
    refine h.bind fun first => ?_
    exact (forEachDatum name h rest).bind fun _ => pure _

end Run.Agree

/-! ### Machines -/

/-- Two machines in the same template that know the same names, call routines and include templates
alike, as far as these are within the reach. -/
structure Machine.Agree (R : Reach) (m m' : Machine) : Prop where
  strict : m.strict = m'.strict
  builtinsName : m.builtinsName = m'.builtinsName
  debugText : m.debugText = m'.debugText
  template : m.template = m'.template
  markup : m.markup = m'.markup
  global : ∀ name, R.reads name → m.global? name = m'.global? name
  invoke : ∀ r args, r.Within R → (m.invoke r args).Agree R m.template (m'.invoke r args)
  insert : ∀ name, R.includes name → (m.insert name).Agree R m.template (m'.insert name)

namespace Machine.Agree

variable {m m' : Machine} (h : m.Agree R m') (line : Nat)

include h

theorem placing {result : Except Fault α} (hr : IsUnplaced result) :
    (m.placing line result).Agree R m.template (m'.placing line result) where
  same {s} _ := by simp only [Machine.placing, h.template]
  keeps {s a t} hs ha := by
    cases result with
    | error f => cases ha
    | ok b =>
      cases ha
      exact hs
  fails {s f} hs hf := by
    cases result with
    | error f' =>
      cases hf
      exact (Fault.within_of_unplaced (hr f' rfl) _).placed line
    | ok b => cases hf

theorem placingRun {r r' : Run α} (hr : r.Agree R m.template r') :
    (m.placingRun line r).Agree R m.template (m'.placingRun line r') where
  same {s} hs := by simp only [Machine.placingRun, h.template, hr.same hs]
  keeps {s a t} hs ha := by
    rw [Machine.placingRun] at ha
    cases he : r s with
    | error f =>
      rw [he] at ha
      cases ha
    | ok p =>
      rw [he] at ha
      cases ha
      exact hr.keeps hs he
  fails {s f} hs hf := by
    rw [Machine.placingRun] at hf
    cases he : r s with
    | error f' =>
      rw [he] at hf
      cases hf
      exact (hr.fails hs he).placed line
    | ok p =>
      rw [he] at hf
      cases hf

theorem lookup? {name : String} (hn : R.reads name) :
    (m.lookup? name).Agree R m.template (m'.lookup? name) := by
  rw [Machine.lookup?, Machine.lookup?, h.global name hn]
  exact .get_bind fun s _ => .pure _

theorem lookupAll : ∀ names, R.Allows names →
    (m.lookupAll names).Agree R m.template (m'.lookupAll names)
  | [], _ => .pure []
  | name :: rest, hn => by
    rw [Reach.Allows, List.forall_mem_cons] at hn
    exact (h.lookup? hn.1).bind fun _ => (lookupAll rest hn.2).bind fun _ => .pure _

theorem debugState (templates : List String) (s : Scope) :
    m.debugState templates s = m'.debugState templates s := by
  rw [Machine.debugState, Machine.debugState, h.template, h.markup, h.builtinsName]

theorem holds (d : Datum) : (m.holds line d).Agree R m.template (m'.holds line d) := by
  rw [Machine.holds, Machine.holds, h.strict]
  exact .ite _ (h.placing line (.plain _)) (.pure _)

theorem part (d : Datum) (part : Option Datum) :
    (m.part line d part).Agree R m.template (m'.part line d part) := by
  cases part with
  | some p => exact .pure p
  | none => exact .ite _ (h.placing line (.plain _)) (.pure _)

theorem elements (d : Datum) : (m.elements line d).Agree R m.template (m'.elements line d) := by
  rw [Machine.elements, Machine.elements, h.strict]
  refine .ite _ (h.placing line (.plain _)) (h.placing line ?_)
  split
  · exact .ok _
  · exact .because _ _

theorem shows (d : Datum) : (m.show line d).Agree R m.template (m'.show line d) := by
  rw [Machine.show, Machine.show, h.strict, h.markup]
  exact .ite _ (h.placing line (.plain _)) (.pure _)

/-- A routine that is called is one of the scope. -/
theorem call (d : Datum) (given : Given) :
    (m.call line d given).Agree R m.template (m'.call line d given) := by
  cases d with
  | routine name index =>
    refine .get_bind fun s hs => ?_
    cases hr : s.routines[index]? with
    | none => exact h.placing line (.because _ _)
    | some r =>
      refine (h.placing line (isUnplaced_bindArguments _ _)).bind fun args => ?_
      exact h.placingRun line (h.invoke r args (hs r (List.mem_of_getElem? hr)))
  | range => exact h.placing line (isUnplaced_rangeOf _)
  | debug templates =>
    refine .get_bind fun s _ => ?_
    rw [h.debugText, h.debugState]
    exact .pure _
  | _ => exact h.placing line (.because _ _)

theorem callNamed {name : String} (hn : R.reads name) (given : Given) :
    (m.callNamed line name given).Agree R m.template (m'.callNamed line name given) := by
  refine (h.lookup? hn).bind fun d => ?_
  cases d with
  | none => exact h.placing line (.because _ _)
  | some d => exact h.call line d given

theorem callMethod (d : Datum) (name : String) (given : Given) :
    (m.callMethod line d name given).Agree R m.template (m'.callMethod line d name given) := by
  cases d with
  | builtins => exact h.placing line (isUnplaced_callBuiltin _ _)
  | map entries =>
    simp only [Machine.callMethod]
    cases Entries.get? entries (.ofText name) with
    | none => exact h.placing line (.because _ _)
    | some f => exact h.call line f given
  | _ => exact h.placing line (.because _ _)

/-- A template that may be included is. -/
theorem includes {d : Datum} (hd : ∀ isSafe name, d = .string isSafe name → R.includes name) :
    (m.include line d).Agree R m.template (m'.include line d) := by
  cases d with
  | string isSafe name => exact h.placingRun line (h.insert name (hd isSafe name rfl))
  | _ => exact h.placing line (.because _ _)

end Machine.Agree

/-! ### Expressions -/

mutual

/-- **Expressions come out the same on machines that agree** on the names that they read. -/
theorem Expr.agree_eval {m m' : Machine} (h : m.Agree R m') (e : Expr)
    (hn : R.Allows e.namesRead) : (e.eval m).Agree R m.template (e.eval m') := by
  match e with
  | .literal _ value => exact .pure _
  | .var _ name =>
    have hname : R.reads name := List.forall_mem_singleton.mp hn
    exact (h.lookup? hname).bind fun d => .pure _
  | .list _ items => exact (agree_evalAll h items hn).bind fun ds => .pure _
  | .map _ entries => exact (agree_evalEntries h entries hn).bind fun ps => .pure _
  | .attr e name => exact (e.agree_eval h hn).bind fun d => h.part _ d _
  | .item e key =>
    exact (e.agree_eval h hn.left).bind fun d =>
      (key.agree_eval h hn.right).bind fun k => h.part _ d _
  | .neg e => exact (e.agree_eval h hn).bind fun d => h.placing _ (isUnplaced_negate d)
  | .not e => exact (e.agree_eval h hn).bind fun d => (h.holds _ d).bind fun b => .pure _
  | .binary op a b =>
    exact (a.agree_eval h hn.left).bind fun x => (b.agree_eval h hn.right).bind fun y =>
      h.placing _ (isUnplaced_apply op x y)
  | .and a b =>
    exact (a.agree_eval h hn.left).bind fun x => (h.holds _ x).bind fun c =>
      .ite _ (b.agree_eval h hn.right) (.pure x)
  | .or a b =>
    exact (a.agree_eval h hn.left).bind fun x => (h.holds _ x).bind fun c =>
      .ite _ (.pure x) (b.agree_eval h hn.right)
  | .choose c yes no =>
    exact (c.agree_eval h hn.left).bind fun d => (h.holds _ d).bind fun b =>
      .ite _ (yes.agree_eval h hn.right.left) (no.agree_eval h hn.right.right)
  | .filter e name args =>
    exact (e.agree_eval h hn.left).bind fun d =>
      (agree_evalArguments h args hn.right).bind fun given =>
        h.placing _ (isUnplaced_applyFilter name d given.all)
  | .test e name args =>
    exact (e.agree_eval h hn.left).bind fun d =>
      (agree_evalArguments h args hn.right).bind fun given =>
        (h.placing _ (isUnplaced_applyTest name d given.all)).bind fun b => .pure _
  | .call line name args =>
    have hname : R.reads name := List.forall_mem_singleton.mp hn.left
    exact (agree_evalArguments h args hn.right).bind fun given => h.callNamed _ hname given
  | .callMethod e name args =>
    exact .ite _ (h.placing _ (.because _ _)) ((e.agree_eval h hn.left).bind fun d =>
      (agree_evalArguments h args hn.right).bind fun given => h.callMethod _ d name given)
  | .callValue e args =>
    exact (e.agree_eval h hn.left).bind fun d =>
      (agree_evalArguments h args hn.right).bind fun given => h.call _ d given

theorem agree_evalAll {m m' : Machine} (h : m.Agree R m') (es : List Expr)
    (hn : R.Allows (namesReadAll es)) : (evalAll m es).Agree R m.template (evalAll m' es) := by
  match es with
  | [] => exact .pure _
  | e :: rest =>
    exact (e.agree_eval h hn.left).bind fun d =>
      (agree_evalAll h rest hn.right).bind fun ds => .pure _

theorem agree_evalEntries {m m' : Machine} (h : m.Agree R m') (es : List (Expr × Expr))
    (hn : R.Allows (namesReadEntries es)) :
    (evalEntries m es).Agree R m.template (evalEntries m' es) := by
  match es with
  | [] => exact .pure _
  | (k, e) :: rest =>
    exact (k.agree_eval h hn.left).bind fun key => (e.agree_eval h hn.right.left).bind fun d =>
      (agree_evalEntries h rest hn.right.right).bind fun ps => .pure _

theorem agree_evalArguments {m m' : Machine} (h : m.Agree R m')
    (args : List (Option String × Expr)) (hn : R.Allows (namesReadArguments args)) :
    (evalArguments m args).Agree R m.template (evalArguments m' args) := by
  match args with
  | [] => exact .pure _
  | (none, e) :: rest =>
    exact (e.agree_eval h hn.left).bind fun d =>
      (agree_evalArguments h rest hn.right).bind fun given => .pure _
  | (some name, e) :: rest =>
    exact (e.agree_eval h hn.left).bind fun d =>
      (agree_evalArguments h rest hn.right).bind fun given => .pure _

end

/-- An expression that stands for a text can be the name that the text is. -/
theorem Expr.mayName_of_eval {m : Machine} {e : Expr} {s t : Scope} {isSafe : Bool} {name : String}
    (h : e.eval m s = .ok (.string isSafe name, t)) : e.mayName name = true := by
  unfold Expr.mayName
  split
  · cases h
    exact beq_self_eq_true name
  · rfl

/-! ### Statements -/

mutual

/-- **Statements within the reach give the same output on machines that agree**, and fail within the
reach. -/
theorem Stmt.agree_run {m m' : Machine} (h : m.Agree R m') (s : Stmt)
    (hs : s.Within R m.template) : (s.run m).Agree R m.template (s.run m') := by
  match s with
  | .text s => exact .pure s
  | .emit e => exact (e.agree_eval h hs).bind fun d => h.shows _ d
  | .assign name e =>
    refine (e.agree_eval h hs).bind fun d => ?_
    exact Run.Agree.bind (.modify fun s => s.routines_assign name d) fun _ => .pure ""
  | .choose c yes no =>
    rw [Stmt.Within] at hs
    exact (c.agree_eval h hs.1).bind fun d => (h.holds _ d).bind fun b =>
      .ite _ (agree_runAll h yes hs.2.1) (agree_runAll h no hs.2.2)
  | .forEach name e body =>
    rw [Stmt.Within] at hs
    have hbody := agree_runAll h body hs.2
    refine (e.agree_eval h hs.1).bind fun d => ?_
    refine (h.elements _ d).bind fun ds => ?_
    refine (h.placingRun _ .checkDepth).bind fun _ => ?_
    refine (Run.Agree.modify Scope.routines_push).bind fun _ => ?_
    refine (Run.Agree.forEachDatum name hbody ds).bind fun out => ?_
    exact (Run.Agree.modify Scope.routines_pop).bind fun _ => .pure out
  | .define name params body =>
    rw [Stmt.Within] at hs
    have hfree : ∀ n ∈ freeNames params body, m.global? n = m'.global? n := fun n hn =>
      h.global n (allows_of_areWithin body hs.2 n (mem_namesReadIn_of_mem_freeNames hn))
    -- the scope gets a routine of this template, which is the only change of its routines
    refine .bind ?_ fun _ => .pure ""
    exact
      { same := fun {s} _ => by
          rw [← h.template]
          exact congrArg (fun t => Except.ok ((), t)) (s.define_congr hfree _ name params body)
        keeps := by
          rintro s _ _ hw ⟨⟩
          exact hw.define _ _ _ hs.1 hs.2 _
        fails := by
          rintro s _ _ ⟨⟩ }
  | .include line e =>
    rw [Stmt.Within] at hs
    refine (e.agree_eval h hs.1).bind_of fun d ⟨s, t, he⟩ => h.includes line fun isSafe name hd => ?_
    exact hs.2 name (Expr.mayName_of_eval (hd ▸ he))
  | .fromImport line e names =>
    rw [Stmt.Within] at hs
    refine (h.placingRun line .checkDepth).bind fun _ => ?_
    refine (Run.Agree.modify Scope.routines_push).bind fun _ => ?_
    refine (e.agree_eval h hs.1).bind_of fun d ⟨s, t, he⟩ => ?_
    have hd : ∀ isSafe name, d = .string isSafe name → R.includes name :=
      fun isSafe name hd => hs.2.2 name (Expr.mayName_of_eval (hd ▸ he))
    refine (h.includes line hd).bind fun _ => (h.lookupAll _ hs.2.1).bind fun ds => ?_
    refine (Run.Agree.modify Scope.routines_pop).bind fun _ => ?_
    exact (Run.Agree.modify fun s => s.routines_assignAll _ ds).bind fun _ => .pure ""

theorem agree_runAll {m m' : Machine} (h : m.Agree R m') (stmts : List Stmt)
    (hs : AreWithin R m.template stmts) : (runAll m stmts).Agree R m.template (runAll m' stmts) := by
  match stmts with
  | [] => exact .pure ""
  | s :: rest =>
    rw [AreWithin] at hs
    exact (s.agree_run h hs.1).bind fun first => (agree_runAll h rest hs.2).bind fun out => .pure _

end

/-! ### Engines -/

/-- A routine that may be called gives the same on machines that agree. -/
theorem agree_runRoutine {m m' : Machine} (h : m.Agree R m') {r : Routine} (args : List Datum)
    (hr : AreWithin R m.template r.body) :
    (runRoutine m r args).Agree R m.template (runRoutine m' r args) := by
  rw [runRoutine, runRoutine, h.markup]
  refine .get_bind fun caller hc => ?_
  refine Run.Agree.bind (.set ?_) fun _ => ?_
  · exact hc.of_routines rfl
  refine Run.Agree.checkDepth.bind fun _ => ?_
  refine (agree_runAll h r.body hr).bind fun out => ?_
  exact Run.Agree.bind (.modify fun s => rfl) fun _ => .pure _

/-- A fault of an included template is the cause of one of the template that includes it. -/
theorem Run.Agree.included {r r' : Run α} {template : String} (h : r.Agree R template r')
    (name caller : String) : (includedRun name r).Agree R caller (includedRun name r') where
  same hs := by simp only [includedRun, h.same hs]
  keeps {s a t} hs ha := by
    rw [includedRun] at ha
    cases he : r s with
    | error f =>
      rw [he] at ha
      cases ha
    | ok p =>
      rw [he] at ha
      cases ha
      exact h.keeps hs he
  fails {s f} hs hf := by
    rw [includedRun] at hf
    cases he : r s with
    | error f' =>
      rw [he] at hf
      cases hf
      exact Fault.within_of_unplaced rfl caller
    | ok p =>
      rw [he] at hf
      cases hf

/-- A template that may be included gives the same on machines that agree. -/
theorem agree_runIncluded {m m' : Machine} (h : m.Agree R m') (name caller : String)
    {body : List Stmt} (hb : AreWithin R m.template body) :
    (runIncluded m name body).Agree R caller (runIncluded m' name body) := by
  refine .get_bind fun before hw => ?_
  refine Run.Agree.bind (.set ?_) fun _ => ?_
  · exact hw.of_routines (before.routines_withClosure none)
  refine Run.Agree.checkDepth.bind fun _ => ?_
  refine ((agree_runAll h body hb).included name caller).bind fun out => ?_
  exact Run.Agree.bind (.modify fun s => s.routines_withClosure _) fun _ => .pure out

namespace Engine

variable {g g' : Engine}

@[simp] theorem template_machine (level : Nat) (template : String) (markup : Bool) :
    (g.machine level template markup).template = template := by
  cases level <;> rfl

/-- A reach of two engines that have the same templates within it: what may be included keeps to it.
If `debug` may be read, and is not the name of the builtins, both have the same names of
templates. -/
structure Shares (R : Reach) (g g' : Engine) : Prop where
  strict : g.strict = g'.strict
  builtinsName : g.builtinsName = g'.builtinsName
  debugText : g.debugText = g'.debugText
  templates : R.reads Datum.debugName → g.builtinsName ≠ Datum.debugName → g.templates = g'.templates
  library : ∀ name, R.includes name → g.library.lookup name = g'.library.lookup name
  within : ∀ name body, R.includes name → g.library.lookup name = some body → AreWithin R name body

/-- The machines of such engines know the same names within the reach. -/
theorem Shares.global? (h : Shares R g g') (level : Nat) (template : String) (markup : Bool)
    {name : String} (hn : R.reads name) : (g.machine level template markup).global? name =
      (g'.machine level template markup).global? name := by
  have hg : ∀ g : Engine, (g.machine level template markup).builtinsName = g.builtinsName ∧
      (g.machine level template markup).templates = g.templates := fun g => by
    cases level <;> exact ⟨rfl, rfl⟩
  simp only [Machine.global?, hg, ← h.builtinsName]
  by_cases hb : name = g.builtinsName
  · rw [if_pos hb, if_pos hb]
  by_cases hd : name = Datum.debugName
  · rw [h.templates (hd ▸ hn) fun he => hb (hd.trans he.symm)]
  · rw [if_neg hd, if_neg hd]

/-- **Engines that share the templates within a reach have machines that agree on it.** -/
theorem agree_machine (h : Shares R g g') (level : Nat) (template : String) (markup : Bool) :
    (g.machine level template markup).Agree R (g'.machine level template markup) := by
  induction level generalizing template markup with
  | zero =>
    exact ⟨h.strict, h.builtinsName, h.debugText, rfl, rfl, fun _ hn => h.global? 0 template markup hn,
      fun _ _ _ => .throw rfl, fun _ _ => .throw rfl⟩
  | succ level ih =>
    refine ⟨h.strict, h.builtinsName, h.debugText, rfl, rfl,
      fun _ hn => h.global? (level + 1) template markup hn, fun r args hr => ?_, fun name hn => ?_⟩
    · have hbody : AreWithin R (g.machine level r.template markup).template r.body := by
        rw [template_machine]
        exact hr.body
      have hagree := agree_runRoutine (ih r.template markup) args hbody
      rw [template_machine] at hagree
      exact hagree.of_lends hr.lends template
    · have hlookup := h.library name hn
      simp only [machine, ← hlookup]
      cases hl : g.library.lookup name with
      | none => exact .throw rfl
      | some body =>
        refine agree_runIncluded (ih name (isMarkup name)) name template ?_
        rw [template_machine]
        exact h.within name body hn hl

/-- **What comes of a template depends on nothing beyond its reach, and it fails within it.** -/
theorem agree_run (h : Shares R g g') (template : String) {stmts : List Stmt}
    (hs : AreWithin R template stmts) (names : Bindings) :
    g.run template stmts names = g'.run template stmts names ∧
      ∀ f, g.run template stmts names = .error f → f.Within R template := by
  have hm := agree_machine h maxDepth template (isMarkup template)
  have hagree := agree_runAll hm stmts (by rwa [template_machine])
  rw [template_machine] at hagree
  have hstart := Scope.within_start (R := R) names
  constructor
  · rw [run, run, hagree.same hstart]
  · intro f hf
    rw [run] at hf
    cases hr : runAll (g.machine maxDepth template (isMarkup template)) stmts (.start names) with
    | ok p =>
      rw [hr] at hf
      cases hf
    | error f' =>
      rw [hr] at hf
      cases hf
      exact hagree.fails hstart hr

end Engine

/-! ### The templates that a template reaches -/

mutual

/-- Whether a statement, or one inside it, may include or import the template with a name. -/
def Stmt.mayInclude (name : String) : Stmt → Bool
  | .text _ | .emit _ | .assign .. => false
  | .choose _ yes no => anyMayInclude name yes || anyMayInclude name no
  | .forEach _ _ body => anyMayInclude name body
  | .define _ _ body => anyMayInclude name body
  | .include _ e => e.mayName name
  | .fromImport _ e _ => e.mayName name

/-- Whether one of some statements may include or import the template with a name. -/
def anyMayInclude (name : String) : List Stmt → Bool
  | [] => false
  | s :: rest => s.mayInclude name || anyMayInclude name rest

end

mutual

/-- Whether a statement, or one inside it, defines a routine. -/
def Stmt.definesRoutine : Stmt → Bool
  | .define .. => true
  | .choose _ yes no => anyDefinesRoutine yes || anyDefinesRoutine no
  | .forEach _ _ body => anyDefinesRoutine body
  | _ => false

/-- Whether one of some statements defines a routine. -/
def anyDefinesRoutine : List Stmt → Bool
  | [] => false
  | s :: rest => s.definesRoutine || anyDefinesRoutine rest

end

mutual

/-- A statement keeps to a reach that has all that it may include and reads and, if it defines a
routine, its template. -/
theorem Stmt.within_of_may {template : String} (s : Stmt)
    (hi : ∀ name, s.mayInclude name = true → R.includes name)
    (hd : s.definesRoutine = true → R.lends template) (hn : R.Allows s.namesRead) :
    s.Within R template := by
  match s with
  | .text _ => exact trivial
  | .emit e => exact hn
  | .assign _ e => exact hn
  | .choose _ yes no =>
    simp only [Stmt.mayInclude, Stmt.definesRoutine, Bool.or_eq_true] at hi hd
    exact ⟨hn.left,
      areWithin_of_may yes (fun name h => hi name (.inl h)) (fun h => hd (.inl h)) hn.right.left,
      areWithin_of_may no (fun name h => hi name (.inr h)) (fun h => hd (.inr h)) hn.right.right⟩
  | .forEach _ _ body => exact ⟨hn.left, areWithin_of_may body hi hd hn.right⟩
  | .define _ _ body => exact ⟨hd rfl, areWithin_of_may body hi (fun _ => hd rfl) hn⟩
  | .include _ e => exact ⟨hn, hi⟩
  | .fromImport _ e _ => exact ⟨hn.left, hn.right, hi⟩

theorem areWithin_of_may {template : String} (stmts : List Stmt)
    (hi : ∀ name, anyMayInclude name stmts = true → R.includes name)
    (hd : anyDefinesRoutine stmts = true → R.lends template) (hn : R.Allows (namesReadIn stmts)) :
    AreWithin R template stmts := by
  match stmts with
  | [] => exact trivial
  | s :: rest =>
    simp only [anyMayInclude, anyDefinesRoutine, Bool.or_eq_true] at hi hd
    exact ⟨s.within_of_may (fun name h => hi name (.inl h)) (fun h => hd (.inl h)) hn.left,
      areWithin_of_may rest (fun name h => hi name (.inr h)) (fun h => hd (.inr h)) hn.right⟩

end

namespace Engine

variable (g : Engine)

/-- The templates that a template reaches: itself, and what those that it reaches may include or
import. -/
inductive Reaches (template : String) : String → Prop where
  | self : Reaches template template
  | step {name included : String} {body : List Stmt} (h : Reaches template name)
    (hl : g.library.lookup name = some body) (hi : anyMayInclude included body = true) :
    Reaches template included

/-- A template lends routines to another one that reaches it if it defines any. -/
structure Lends (template lender : String) : Prop where
  reaches : g.Reaches template lender
  defines : ∃ body, g.library.lookup lender = some body ∧ anyDefinesRoutine body = true

/-- What a template can reach. It may read every name. -/
def reach (template : String) : Reach := ⟨g.Reaches template, g.Lends template, fun _ => True⟩

/-- A template that is reached keeps to the reach. -/
theorem areWithin_reach {template name : String} {body : List Stmt} (h : g.Reaches template name)
    (hl : g.library.lookup name = some body) : AreWithin (g.reach template) name body :=
  areWithin_of_may body (fun _ hi => h.step hl hi) (fun hd => ⟨h, body, hl, hd⟩) fun _ _ => trivial

/-- **A fault of a template is located in it**, or in another one that it reaches and that defines
routines. -/
theorem within_reach_of_run {template : String} {stmts : List Stmt} {names : Bindings} {f : Fault}
    (hl : g.library.lookup template = some stmts) (hf : g.run template stmts names = .error f) :
    f.Within (g.reach template) template := by
  have hshares : Shares (g.reach template) g g :=
    ⟨rfl, rfl, rfl, fun _ _ => rfl, fun _ _ => rfl, fun _ _ hn hb => g.areWithin_reach hn hb⟩
  exact (agree_run hshares template (g.areWithin_reach .self hl) names).2 f hf

end Engine

end ChartRender.Template
