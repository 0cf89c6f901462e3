import ChartRender.Proofs.Result
import ChartRender.Proofs.Template.Head
import ChartRender.Proofs.Template.Token
import ChartRender.Rendering
/-!
# Names of the object that holds the builtins

A configuration is valid if the name of the object that holds the builtins is spelled like a name.
Templates can then call builtins by it as they can by the standard name, unless the name is one of
nine words that mean something else in front of a point: those of literals and of the negation,
`self`, and `values`, which every template starts with (`Config.builtinsName_usable_iff`).

Key definitions: `Template.Expr.isNameless`, `SameRendering`, `Config.callText`, `Config.IsCall`,
`Config.takenNames`.
Key theorems: `Template.eval_callMethod`, `Config.parse_callText`, `Config.builtinsName_usable_iff`.
-/

namespace ChartRender

namespace Template

/-! ### Expressions without names -/

mutual

/-- Whether no variable is read in an expression and nothing is called, filters and tests apart. -/
def Expr.isNameless : Expr → Bool
  | .literal .. => true
  | .list _ items => areNameless items
  | .map _ entries => areNamelessEntries entries
  | .attr e _ => e.isNameless
  | .item e key => e.isNameless && key.isNameless
  | .neg e => e.isNameless
  | .not e => e.isNameless
  | .binary _ a b => a.isNameless && b.isNameless
  | .and a b => a.isNameless && b.isNameless
  | .or a b => a.isNameless && b.isNameless
  | .choose c yes no => c.isNameless && yes.isNameless && no.isNameless
  | .filter e _ args => e.isNameless && areNamelessArguments args
  | .test e _ args => e.isNameless && areNamelessArguments args
  | .var .. | .call .. | .callMethod .. | .callValue .. => false

/-- Whether no variable is read in expressions and nothing is called. -/
def areNameless : List Expr → Bool
  | [] => true
  | e :: rest => e.isNameless && areNameless rest

/-- Whether no variable is read in the entries of a map and nothing is called. -/
def areNamelessEntries : List (Expr × Expr) → Bool
  | [] => true
  | (k, e) :: rest => k.isNameless && e.isNameless && areNamelessEntries rest

/-- Whether no variable is read in arguments and nothing is called. -/
def areNamelessArguments : List (Option String × Expr) → Bool
  | [] => true
  | (_, e) :: rest => e.isNameless && areNamelessArguments rest

end

/-- Two machines in the same template that put up with the same things. -/
structure Machine.ActsLike (m m' : Machine) : Prop where
  strict : m.strict = m'.strict
  template : m.template = m'.template

namespace Machine.ActsLike

variable {m m' : Machine} (hm : m.ActsLike m')
include hm

theorem placing {α : Type} : @Machine.placing α m = @Machine.placing α m' := by
  funext line result s
  simp only [Machine.placing, hm.template]

theorem holds : m.holds = m'.holds := by
  funext line d
  simp only [Machine.holds, hm.strict, hm.placing]

theorem part : m.part = m'.part := by
  funext line d part
  simp only [Machine.part, hm.placing]

end Machine.ActsLike

mutual

/-- **What names stand for does not matter to an expression without names.** -/
theorem Expr.eval_nameless {m m' : Machine} (hm : m.ActsLike m') (e : Expr)
    (h : e.isNameless = true) : e.eval m = e.eval m' := by
  match e with
  | .literal line value => rfl
  | .list line items =>
    rw [Expr.isNameless] at h
    rw [Expr.eval, Expr.eval, evalAll_nameless hm items h]
  | .map line entries =>
    rw [Expr.isNameless] at h
    rw [Expr.eval, Expr.eval, evalEntries_nameless hm entries h]
  | .attr e name =>
    rw [Expr.isNameless] at h
    rw [Expr.eval, Expr.eval, e.eval_nameless hm h, hm.part]
  | .item e key =>
    rw [Expr.isNameless, Bool.and_eq_true] at h
    rw [Expr.eval, Expr.eval, e.eval_nameless hm h.1, key.eval_nameless hm h.2, hm.part]
  | .neg e =>
    rw [Expr.isNameless] at h
    rw [Expr.eval, Expr.eval, e.eval_nameless hm h, hm.placing]
  | .not e =>
    rw [Expr.isNameless] at h
    rw [Expr.eval, Expr.eval, e.eval_nameless hm h, hm.holds]
  | .binary op a b =>
    rw [Expr.isNameless, Bool.and_eq_true] at h
    rw [Expr.eval, Expr.eval, a.eval_nameless hm h.1, b.eval_nameless hm h.2, hm.placing]
  | .and a b =>
    rw [Expr.isNameless, Bool.and_eq_true] at h
    rw [Expr.eval, Expr.eval, a.eval_nameless hm h.1, b.eval_nameless hm h.2, hm.holds]
  | .or a b =>
    rw [Expr.isNameless, Bool.and_eq_true] at h
    rw [Expr.eval, Expr.eval, a.eval_nameless hm h.1, b.eval_nameless hm h.2, hm.holds]
  | .choose c yes no =>
    rw [Expr.isNameless, Bool.and_eq_true, Bool.and_eq_true] at h
    rw [Expr.eval, Expr.eval, c.eval_nameless hm h.1.1, yes.eval_nameless hm h.1.2,
      no.eval_nameless hm h.2, hm.holds]
  | .filter e name args =>
    rw [Expr.isNameless, Bool.and_eq_true] at h
    rw [Expr.eval, Expr.eval, e.eval_nameless hm h.1, evalArguments_nameless hm args h.2,
      hm.placing]
  | .test e name args =>
    rw [Expr.isNameless, Bool.and_eq_true] at h
    rw [Expr.eval, Expr.eval, e.eval_nameless hm h.1, evalArguments_nameless hm args h.2,
      hm.placing]
  | .var .. | .call .. | .callMethod .. | .callValue .. => exact nomatch h

theorem evalAll_nameless {m m' : Machine} (hm : m.ActsLike m') (es : List Expr)
    (h : areNameless es = true) : evalAll m es = evalAll m' es := by
  match es with
  | [] => rfl
  | e :: rest =>
    rw [areNameless, Bool.and_eq_true] at h
    rw [evalAll, evalAll, e.eval_nameless hm h.1, evalAll_nameless hm rest h.2]

theorem evalEntries_nameless {m m' : Machine} (hm : m.ActsLike m') (es : List (Expr × Expr))
    (h : areNamelessEntries es = true) : evalEntries m es = evalEntries m' es := by
  match es with
  | [] => rfl
  | (k, e) :: rest =>
    rw [areNamelessEntries, Bool.and_eq_true, Bool.and_eq_true] at h
    rw [evalEntries, evalEntries, k.eval_nameless hm h.1.1, e.eval_nameless hm h.1.2,
      evalEntries_nameless hm rest h.2]

theorem evalArguments_nameless {m m' : Machine} (hm : m.ActsLike m')
    (args : List (Option String × Expr)) (h : areNamelessArguments args = true) :
    evalArguments m args = evalArguments m' args := by
  match args with
  | [] => rfl
  | (name, e) :: rest =>
    rw [areNamelessArguments, Bool.and_eq_true] at h
    rw [evalArguments, evalArguments, e.eval_nameless hm h.1, evalArguments_nameless hm rest h.2]

end

/-! ### Calls of builtins -/

/-- A name that stands for the object that holds the builtins, other than the word for the template
itself. -/
structure Machine.Offers (m : Machine) (s : Scope) (name : String) : Prop where
  ne_self : name ≠ "self"
  lookup : m.lookup? name s = .ok (some .builtins, s)

/-- **A builtin is called by a name that stands for the object that holds the builtins**, with the
arguments and whatever the name is. -/
theorem eval_callMethod {m : Machine} {s : Scope} {name : String} (hname : m.Offers s name)
    (line : Nat) (method : String) (args : Arguments) :
    (Expr.callMethod (.var line name) method args).eval m s =
      (do let given ← evalArguments m args
          m.placing (lineOfArguments line args) (callBuiltin method given.all) : Run Datum) s := by
  have hself : (Expr.var line name).isSelf = false := beq_eq_false_iff_ne.mpr hname.ne_self
  have hvar : (Expr.var line name).eval m s = .ok (.builtins, s) := by
    change (m.lookup? name s >>= fun r => .ok (r.1.getD .undefined, r.2)) = _
    rw [hname.lookup]
    rfl
  rw [Expr.eval, hself, if_neg Bool.false_ne_true]
  change ((Expr.var line name).eval m s >>= fun r => _) = _
  rw [hvar]
  rfl

/-- A template that is the call of a builtin gives the same by every name that stands for the object
that holds them. -/
theorem runAll_call {m m' : Machine} (hm : m.ActsLike m') (hmarkup : m.markup = m'.markup)
    {s : Scope} {name name' : String} (hn : m.Offers s name) (hn' : m'.Offers s name') (line : Nat)
    (method : String) {args : Arguments} (hargs : areNamelessArguments args = true) :
    runAll m [.emit (.callMethod (.var line name) method args)] s =
      runAll m' [.emit (.callMethod (.var line name') method args)] s := by
  have he : (Expr.callMethod (.var line name) method args).eval m s =
      (Expr.callMethod (.var line name') method args).eval m' s := by
    rw [eval_callMethod hn, eval_callMethod hn', evalArguments_nameless hm args hargs, hm.placing]
  have hshow : m.show = m'.show := by
    funext line d
    rw [Machine.show, Machine.show, hm.strict, hm.placing, hmarkup]
  change (((Expr.callMethod (.var line name) method args).eval m s >>= fun r =>
    m.show (lineOfArguments line args) r.1 r.2) >>= fun r => .ok (r.1 ++ "", r.2)) = _
  rw [he, hshow]
  rfl

end Template

/-- The same text, or diagnostics that differ at most in the source that they show. -/
inductive SameRendering : Except Diagnostic String → Except Diagnostic String → Prop where
  | text (text : String) : SameRendering (.ok text) (.ok text)
  | diagnostic {d d' : Diagnostic} (category : d.category = d'.category)
    (message : d.message = d'.message) (failure : d.failure = d'.failure)
    (suggestion : d.suggestion = d'.suggestion) : SameRendering (.error d) (.error d')

theorem SameRendering.toOption {r r' : Except Diagnostic String} (h : SameRendering r r') :
    r.toOption = r'.toOption := by
  cases h <;> rfl

theorem sameRendering_ofFault (fault : Template.Fault) (name source source' : String) :
    SameRendering (.error (.ofFault fault name source)) (.error (.ofFault fault name source')) := by
  unfold Diagnostic.ofFault
  dsimp only
  cases fault.failure? <;> exact .diagnostic rfl rfl rfl rfl

namespace Config

open Template

/-- The template that calls a builtin by a name of the object that holds them, with arguments that are
written so. -/
def callText (object : String) (b : Builtin) (args : String) : String :=
  "\x7b\x7b " ++ object ++ "." ++ b.name ++ "(" ++ args ++ ") \x7d\x7d"

/-- Whether a text writes arguments without names, such as literals, in the call of a builtin. -/
def IsCall (b : Builtin) (args : String) (written : Arguments) : Prop :=
  parse "" (callText standard.builtinsName b args) =
    .ok [.emit (.callMethod (.var 1 standard.builtinsName) b.name written)] ∧
  areNamelessArguments written = true

/-- The words that stand for something else at the start of an expression than for the object that
holds the builtins. -/
def takenNames : List String := headless ++ ["values", "self"]

/-- A text that is a name is spelled as the tokenizer takes one. -/
theorem exists_of_isName {s : String} (h : isName s = true) : ∃ first more,
    s = String.ofList (first :: more) ∧ Template.isNameStart first = true ∧
      ∀ c ∈ more, Template.isNameChar c = true := by
  rw [isName] at h
  cases hs : s.toList with
  | nil =>
    rw [hs] at h
    cases h
  | cons first more =>
    rw [hs, Bool.and_eq_true, List.all_eq_true] at h
    refine ⟨first, more, hs ▸ String.ofList_toList.symm, ?_, fun c hc => ?_⟩
    · rw [Template.isNameStart, Bool.or_comm]
      exact h.1
    · rw [Template.isNameChar, Bool.or_comm]
      exact h.2 c hc

theorem validate_eq_ok_iff {c : Config} : c.validate = .ok () ↔ isName c.builtinsName = true := by
  rw [validate]
  split <;> simp_all

theorem isName_standard : isName standard.builtinsName = true := by decide

/-- A call by a name has the tokens of that name and of what stands behind it. -/
theorem tokens_callText {name : String} (hn : isName name = true) (b : Builtin) (args : String) :
    tokens (callText name b args) = ⟨.exprStart, 1⟩ :: ⟨.word name, 1⟩ ::
      tokensBehindName ((b.name ++ "(" ++ args ++ ") \x7d").toList ++ ['\x7d']) := by
  obtain ⟨first, more, rfl, hf, hm⟩ := exists_of_isName hn
  rw [← tokens_head hf hm]
  congr 1
  rw [← String.toList_inj]
  simp [callText]

/-- A call by the name of a valid configuration is read as one by the standard name. -/
theorem parse_callText {c : Config} (hc : c.validate = .ok ()) (hn : c.builtinsName ∉ headless)
    {b : Builtin} {args : String} {written : Arguments} (h : IsCall b args written) (name : String) :
    parse name (callText c.builtinsName b args) =
      .ok [.emit (.callMethod (.var 1 c.builtinsName) b.name written)] := by
  have hstandard : standard.builtinsName ∉ headless := by decide
  have hparse := h.1
  rw [parse, tokens_callText isName_standard] at hparse
  rw [parse, tokens_callText (validate_eq_ok_iff.mp hc)]
  split at hparse
  · rename_i stmts hs
    obtain rfl := Except.ok.inj hparse
    rw [parseTokens_head hstandard hn hs]
    rfl
  · cases hparse

theorem offers_builtinsName [DebugText] {c : Config} (hv : c.builtinsName ≠ "values")
    (hself : c.builtinsName ≠ "self") (library : List (String × List Stmt)) (level : Nat)
    (template : String) (markup : Bool) (values : Value) :
    ((c.engine library).machine level template markup).Offers (.start (names values))
      c.builtinsName where
  ne_self := hself
  lookup := by
    have hglobal : ((c.engine library).machine level template markup).global? c.builtinsName =
        some .builtins := by
      cases level <;> exact if_pos rfl
    have hnone : (Scope.start (names values)).lookup? c.builtinsName = none := by
      simp [Scope.lookup?, Scope.start, Scope.inFrame?, Scope.enclosed?, names, List.lookup,
        beq_eq_false_iff_ne.mpr hv]
    change Except.ok (((Scope.start (names values)).lookup? c.builtinsName).or _, _) = _
    rw [hnone, hglobal]
    rfl

/-- Machines of engines that put up with the same things act alike in the same template. -/
theorem actsLike_machine [DebugText] {c c' : Config} (h : c.strict = c'.strict)
    (library library' : List (String × List Stmt)) (level : Nat) (template : String)
    (markup : Bool) : ((c.engine library).machine level template markup).ActsLike
      ((c'.engine library').machine level template markup) := by
  cases level <;> exact ⟨h, rfl⟩

theorem markup_machine (g : Engine) (level : Nat) (template : String) (markup : Bool) :
    (g.machine level template markup).markup = markup := by
  cases level <;> rfl

/-- **A call of a builtin gives the same by every name** that is not taken. -/
theorem sameRendering_callText [DebugText] {c c' : Config} (hc : c.validate = .ok ())
    (hc' : c'.validate = .ok ()) (hstrict : c.strict = c'.strict) (hn : c.builtinsName ∉ takenNames)
    (hn' : c'.builtinsName ∉ takenNames) {b : Builtin} {args : String} {written : Arguments}
    (h : IsCall b args written) (values : Value) (name : String) :
    SameRendering (c.renderText values name (callText c.builtinsName b args))
      (c'.renderText values name (callText c'.builtinsName b args)) := by
  simp only [takenNames, List.mem_append, List.mem_cons, List.not_mem_nil, or_false, not_or]
    at hn hn'
  have hrun : ∀ library library',
      (c.engine library).run name [.emit (.callMethod (.var 1 c.builtinsName) b.name written)]
        (names values) =
      (c'.engine library').run name [.emit (.callMethod (.var 1 c'.builtinsName) b.name written)]
        (names values) := by
    intro library library'
    have hoffers := offers_builtinsName hn.2.1 hn.2.2 library maxDepth name (isMarkup name) values
    have hoffers' :=
      offers_builtinsName hn'.2.1 hn'.2.2 library' maxDepth name (isMarkup name) values
    have hlike := actsLike_machine hstrict library library' maxDepth name (isMarkup name)
    rw [Engine.run, Engine.run, runAll_call hlike (by rw [markup_machine, markup_machine]) hoffers
      hoffers' 1 b.name h.2]
  rw [renderText, renderText, parse_callText hc hn.1 h, parse_callText hc' hn'.1 h]
  dsimp only [bind, Except.bind]
  rw [hrun _ [(name, [.emit (.callMethod (.var 1 c'.builtinsName) b.name written)])]]
  cases (c'.engine _).run name _ (names values) with
  | ok text => exact .text text
  | error fault => exact sameRendering_ofFault fault name _ _

/-- The length of an empty list. -/
theorem isCall_len : IsCall .len "[]" [(none, .list 1 [])] := by
  constructor
  · cbv
  · rfl

theorem renderText_extensions [DebugText] (name : String) (strict : Bool)
    (extensions extensions' : List String) (values : Value) (file source : String) :
    (⟨name, strict, extensions⟩ : Config).renderText values file source =
      (⟨name, strict, extensions'⟩ : Config).renderText values file source := rfl

/-- By the standard name there is the length of an empty list. -/
theorem toOption_renderText_standard [DebugText] (strict : Bool) :
    ((⟨standard.builtinsName, strict, []⟩ : Config).renderText .empty "t"
      (callText standard.builtinsName .len "[]")).toOption = some "0" := by
  cases strict <;> cbv

/-- By a name that is taken there is none. -/
theorem toOption_renderText_taken [DebugText] : (takenNames.all fun name =>
    [true, false].all fun strict => ((⟨name, strict, []⟩ : Config).renderText .empty "t"
      (callText name .len "[]")).toOption = none) = true := by
  cbv

theorem not_sameRendering_len [DebugText] {name : String} (h : name ∈ takenNames) (strict : Bool)
    (extensions : List String) :
    ¬ SameRendering
      ((⟨name, strict, extensions⟩ : Config).renderText .empty "t" (callText name .len "[]"))
      ((⟨standard.builtinsName, strict, extensions⟩ : Config).renderText .empty "t"
        (callText standard.builtinsName .len "[]")) := by
  have hstrict : strict ∈ [true, false] := by cases strict <;> decide
  have htaken := List.all_eq_true.mp (List.all_eq_true.mp toOption_renderText_taken name h) strict
    hstrict
  intro hsame
  have htext := hsame.toOption
  rw [renderText_extensions _ _ extensions [], renderText_extensions _ _ extensions [],
    of_decide_eq_true htaken, toOption_renderText_standard] at htext
  cases htext

/-- **The name of the object that holds the builtins is usable** exactly if it is none of the words
that stand for something else: then every builtin gives, with any arguments without names and for
all values, the same text or the same diagnostic as by the standard name. -/
theorem builtinsName_usable_iff [DebugText] (c : Config) (hc : c.validate = .ok ()) :
    (∀ (b : Builtin) (args : String) (written : Arguments), IsCall b args written →
      ∀ (values : Value) (name : String),
        SameRendering (c.renderText values name (callText c.builtinsName b args))
          ({ c with builtinsName := standard.builtinsName }.renderText values name
            (callText standard.builtinsName b args))) ↔
      c.builtinsName ∉ takenNames := by
  constructor
  · intro h ht
    exact not_sameRendering_len ht c.strict c.extensions (h .len "[]" _ isCall_len .empty "t")
  · intro hn b args written h values name
    have hstandard : standard.builtinsName ∉ takenNames := by decide
    have hc' : ({ c with builtinsName := standard.builtinsName } : Config).validate = .ok () :=
      validate_eq_ok_iff.mpr isName_standard
    exact sameRendering_callText hc hc' rfl hn hstandard h values name

/-- By a name of one's own there is the length of an empty list as by the standard name. -/
theorem builtinsName_usable_iff_k8s :
    ({ standard with builtinsName := "k8s" } : Config).validate = .ok () ∧
    SameRendering
      (({ standard with builtinsName := "k8s" } : Config).renderText .empty "t"
        (callText "k8s" .len "[]"))
      (standard.renderText .empty "t" (callText standard.builtinsName .len "[]")) := by
  have hc : ({ standard with builtinsName := "k8s" } : Config).validate = .ok () :=
    validate_eq_ok_iff.mpr (by decide)
  have hn : "k8s" ∉ takenNames := by decide
  have h := (builtinsName_usable_iff { standard with builtinsName := "k8s" } hc).mpr hn
  exact ⟨hc, h .len "[]" _ isCall_len .empty "t"⟩

/-- The name that every template knows the values by is valid, and hides the builtins behind it. -/
theorem builtinsName_values_hidden :
    ({ standard with builtinsName := "values" } : Config).validate = .ok () ∧
    IsCall .len "[]" [(none, .list 1 [])] ∧
    ¬ SameRendering
      (({ standard with builtinsName := "values" } : Config).renderText .empty "t"
        (callText "values" .len "[]"))
      (standard.renderText .empty "t" (callText standard.builtinsName .len "[]")) := by
  have ht : "values" ∈ takenNames := by decide
  exact ⟨validate_eq_ok_iff.mpr (by decide), isCall_len,
    not_sameRendering_len ht standard.strict standard.extensions⟩

end Config

end ChartRender
