import ChartRender.Template.FreeNames
import ChartRender.Template.Function
import ChartRender.Template.Operation
import ChartRender.Template.Scope
/-!
# Evaluation

Runs the statements of a template. Expressions and statements are evaluated by recursion on their
structure; what leads out of them, the call of a routine and the inclusion of a template, is left to
a `Machine`. Machines are built level upon level, so that the number of levels bounds how deep calls
and inclusions can go. A fault is attributed to the template and line of the innermost operation
that raised it.

Key definitions: `Machine`, `Expr.eval`, `Stmt.run`, `Engine.machine`, `Engine.run`.
-/

namespace ChartRender.Template

/-- A computation that reads and changes a scope and may end in a fault. -/
abbrev Run := StateT Scope (Except Fault)

/-- What the evaluation of a template relies on: whether what is not defined may be shown and
tested, the name of the object that holds the builtins, the names of all templates and the texts that
`debug` shows them in, the template it is in, whether that is put out as markup, and how routines are
called and templates included. -/
structure Machine where
  strict : Bool
  builtinsName : String
  templates : List String
  debugText : DebugText
  template : String
  markup : Bool
  invoke : Routine → List Datum → Run Datum
  insert : String → Run String

namespace Machine

/-- A result, or a fault attributed to a line. -/
def placing (m : Machine) (line : Nat) (result : Except Fault α) : Run α := fun s =>
  match result with
  | .ok a => .ok (a, s)
  | .error f => .error (f.placed m.template line)

/-- A computation whose fault is attributed to a line. -/
def placingRun (m : Machine) (line : Nat) (r : Run α) : Run α := fun s =>
  match r s with
  | .ok result => .ok result
  | .error f => .error (f.placed m.template line)

/-- What a name stands for that no frame knows. -/
def global? (m : Machine) (name : String) : Option Datum :=
  if name = m.builtinsName then some .builtins
  else if name = Datum.rangeName then some .range
  else if name = Datum.debugName then some (.debug m.templates)
  else none

/-- What a name stands for. -/
def lookup? (m : Machine) (name : String) : Run (Option Datum) :=
  return ((← get).lookup? name).or (m.global? name)

/-- Whether a condition holds; one that is not defined is a fault if the machine is strict. -/
def holds (m : Machine) (line : Nat) (d : Datum) : Run Bool :=
  if d.isUndefined && m.strict then m.placing line (.error (.plain .undefinedError))
  else return d.isTrue

/-- A part of a datum that may be missing; only what is not defined has no parts at all. -/
def part (m : Machine) (line : Nat) (d : Datum) (part : Option Datum) : Run Datum :=
  match part with
  | some p => return p
  | none =>
    if d.isUndefined then m.placing line (.error (.plain .undefinedError)) else return .undefined

/-! ### Calls -/

/-- The arguments of a call: those without a name, and those with one. -/
structure Given where
  positional : List Datum
  named : List (String × Datum)

/-- All arguments in a row; those with a name become a map at the end. -/
def Given.all (given : Given) : List Datum :=
  given.positional ++
    (if given.named.isEmpty then []
    else [.map (Entries.ofPairs (given.named.map fun p => (.ofText p.1, p.2)))])

/-- The argument that a parameter with a name gets, in its place or by its name. -/
def argumentFor (given : Given) (index : Nat) (param : String) : Except Fault Datum :=
  match given.positional[index]?, given.named.reverse.lookup param with
  | some _, some _ =>
    .error (.because .tooManyArguments ("duplicate argument `" ++ param ++ "`"))
  | some d, none => .ok d
  | none, some d => .ok d
  | none, none => .ok .undefined

/-- The arguments that the parameters from an index on get. -/
def argumentsFor (given : Given) (index : Nat) : List String → Except Fault (List Datum)
  | [] => .ok []
  | param :: rest => do
    let d ← argumentFor given index param
    let ds ← argumentsFor given (index + 1) rest
    return d :: ds

/-- The arguments that the parameters of a routine get, undefined where none is given. -/
def bindArguments (params : List String) (given : Given) : Except Fault (List Datum) :=
  if params.length < given.positional.length then .error (.plain .tooManyArguments)
  else do
    let ds ← argumentsFor given 0 params
    match given.named.find? fun p => p.1 ∉ params with
    | some (name, _) =>
      .error (.because .tooManyArguments ("unknown keyword argument `" ++ name ++ "`"))
    | none => return ds

/-- What the function `debug` sees of a scope. -/
def debugState (m : Machine) (templates : List String) (s : Scope) : DebugState :=
  ⟨m.template, m.markup, s.known, m.builtinsName, templates⟩

/-- Calls a datum. -/
def call (m : Machine) (line : Nat) (d : Datum) (given : Given) : Run Datum :=
  match d with
  | .routine _ index => do
    match (← get).routines[index]? with
    | none => m.placing line (.error (.because .invalidOperation "object is not callable"))
    | some r =>
      let args ← m.placing line (bindArguments r.params given)
      m.placingRun line (m.invoke r args)
  | .range => m.placing line (rangeOf given.all)
  | .debug templates => return debugOf m.debugText (m.debugState templates (← get)) given.all
  | .builtins | .list _ | .map _ =>
    m.placing line (.error (.because .invalidOperation "object is not callable"))
  | d => m.placing line
    (.error (.because .invalidOperation ("value of type " ++ d.kindName ++ " is not callable")))

/-- Calls what a name stands for. -/
def callNamed (m : Machine) (line : Nat) (name : String) (given : Given) : Run Datum := do
  match ← m.lookup? name with
  | some d => m.call line d given
  | none => m.placing line (.error (.because .unknownFunction (name ++ " is unknown")))

/-- Calls a method: a builtin, or what a map holds under the name. -/
def callMethod (m : Machine) (line : Nat) (d : Datum) (name : String) (given : Given) : Run Datum :=
  let unknown : Fault := .because .unknownMethod (d.kindName ++ " has no method named " ++ name)
  match d with
  | .builtins => m.placing line (callBuiltin name given.all)
  | .map entries =>
    match Entries.get? entries (.ofText name) with
    | some f => m.call line f given
    | none => m.placing line (.error unknown)
  | _ => m.placing line (.error unknown)

end Machine

open Machine

/-! ### Expressions -/

/-- The datum of a literal. -/
def Literal.datum : Literal → Datum
  | .null => .null
  | .bool b => .bool b
  | .int n => .int n
  | .float x => .float x
  | .string s => .ofText s

/-- Whether an expression is the word `self`, whose methods are the blocks of the template. There are
none. -/
def Expr.isSelf : Expr → Bool
  | .var _ name => name == "self"
  | _ => false

mutual

/-- The datum that an expression stands for. -/
def Expr.eval (m : Machine) : Expr → Run Datum
  | .literal _ value => return value.datum
  | .var _ name => return (← m.lookup? name).getD .undefined
  | .list _ items => return .list (← evalAll m items)
  | .map _ entries => return .map (Entries.ofPairs (← evalEntries m entries))
  | .attr e name => do
    let d ← Expr.eval m e
    m.part e.line d (d.attr? name)
  | .item e key => do
    let d ← Expr.eval m e
    let k ← Expr.eval m key
    m.part (Expr.item e key).line d (d.item? k)
  | .neg e => do m.placing e.line (← Expr.eval m e).negate
  | .not e => return .bool !(← m.holds e.line (← Expr.eval m e))
  | .binary op a b => do
    let x ← Expr.eval m a
    let y ← Expr.eval m b
    m.placing (Expr.binary op a b).line (op.apply x y)
  | .and a b => do
    let x ← Expr.eval m a
    if ← m.holds a.line x then Expr.eval m b else return x
  | .or a b => do
    let x ← Expr.eval m a
    if ← m.holds a.line x then return x else Expr.eval m b
  | .choose c yes no => do
    if ← m.holds c.line (← Expr.eval m c) then Expr.eval m yes else Expr.eval m no
  | .filter e name args => do
    let d ← Expr.eval m e
    let given ← evalArguments m args
    m.placing (Expr.filter e name args).line (applyFilter name d given.all)
  | .test e name args => do
    let d ← Expr.eval m e
    let given ← evalArguments m args
    return .bool (← m.placing (Expr.test e name args).line (applyTest name d given.all))
  | .call line name args => do
    let given ← evalArguments m args
    m.callNamed (Expr.call line name args).line name given
  | .callMethod e name args =>
    if e.isSelf then
      m.placing e.line (.error (.because .unknownBlock ("block '" ++ name ++ "' not found")))
    else do
      let d ← Expr.eval m e
      let given ← evalArguments m args
      m.callMethod (Expr.callMethod e name args).line d name given
  | .callValue e args => do
    let d ← Expr.eval m e
    let given ← evalArguments m args
    m.call (Expr.callValue e args).line d given

/-- The data that expressions stand for, from the first to the last. -/
def evalAll (m : Machine) : List Expr → Run (List Datum)
  | [] => return []
  | e :: rest => do
    let d ← Expr.eval m e
    return d :: (← evalAll m rest)

/-- The keys and values of the entries of a map. -/
def evalEntries (m : Machine) : List (Expr × Expr) → Run (List (Datum × Datum))
  | [] => return []
  | (k, e) :: rest => do
    let key ← Expr.eval m k
    let d ← Expr.eval m e
    return (key, d) :: (← evalEntries m rest)

/-- The arguments of a call. -/
def evalArguments (m : Machine) : List (Option String × Expr) → Run Given
  | [] => return ⟨[], []⟩
  | (name, e) :: rest => do
    let d ← Expr.eval m e
    let given ← evalArguments m rest
    match name with
    | some name => return { given with named := (name, d) :: given.named }
    | none => return { given with positional := d :: given.positional }

end

/-! ### Statements -/

/-- How deep frames, calls and inclusions may lie in one another; a call counts as four frames more,
and an inclusion as ten. -/
def maxDepth : Nat := 500

/-- The fault of going too deep. -/
def tooDeep : Fault := .because .invalidOperation "recursion limit exceeded"

/-- Refuses to go deeper than allowed. -/
def checkDepth : Run Unit := do
  let s ← get
  if maxDepth < s.depth + s.frames.length then throw tooDeep else return ()

/-- What a loop runs through. What is not defined is a fault if the machine is strict. -/
def Machine.elements (m : Machine) (line : Nat) (d : Datum) : Run (List Datum) :=
  if d.isUndefined && m.strict then m.placing line (.error (.plain .undefinedError))
  else m.placing line <| match d.elements? with
    | some ds => .ok ds
    | none => .error (.because .invalidOperation (d.kindName ++ " is not iterable"))

/-- The text of a datum in the output. What is not defined is a fault if the machine is strict. -/
def Machine.show (m : Machine) (line : Nat) (d : Datum) : Run String :=
  if d.isUndefined && m.strict then m.placing line (.error (.plain .undefinedError))
  else return d.output m.markup

/-- Includes the template whose name an expression gave. -/
def Machine.include (m : Machine) (line : Nat) (d : Datum) : Run String :=
  match d with
  | .string _ name => m.placingRun line (m.insert name)
  | _ => m.placing line (.error (.because .invalidOperation "template name was not a string"))

/-- What names stand for, each undefined if it is not known. -/
def Machine.lookupAll (m : Machine) : List String → Run (List Datum)
  | [] => return []
  | name :: rest => do
    let d := (← m.lookup? name).getD .undefined
    return d :: (← m.lookupAll rest)

/-- Runs a body once for each datum, under a name, and puts the outputs together. -/
def forEachDatum (name : String) (body : Run String) : List Datum → Run String
  | [] => return ""
  | d :: rest => do
    modify (·.assign name d)
    let first ← body
    return first ++ (← forEachDatum name body rest)

/-- Assigns data to names, from the last to the first. -/
def assignAll (names : List String) (ds : List Datum) (s : Scope) : Scope :=
  (names.zip ds).foldr (fun p s => s.assign p.1 p.2) s

mutual

/-- Runs a statement and gives its output. -/
def Stmt.run (m : Machine) : Stmt → Run String
  | .text s => return s
  | .emit e => do m.show e.line (← e.eval m)
  | .assign name e => do
    let d ← e.eval m
    modify (·.assign name d)
    return ""
  | .choose c yes no => do
    if ← m.holds c.line (← c.eval m) then runAll m yes else runAll m no
  | .forEach name e body => do
    let ds ← m.elements e.line (← e.eval m)
    m.placingRun e.line checkDepth
    modify Scope.push
    let out ← forEachDatum name (runAll m body) ds
    modify Scope.pop
    return out
  | .define name params body => do
    modify fun s => s.define m.global? m.template name params body (freeNames params body)
    return ""
  | .include line e => do m.include line (← e.eval m)
  | .fromImport line e names => do
    m.placingRun line checkDepth
    modify Scope.push
    let _ ← m.include line (← e.eval m)
    let ds ← m.lookupAll (names.map (·.1))
    modify Scope.pop
    modify (assignAll (names.map (·.2)) ds)
    return ""

/-- Runs statements one after the other. -/
def runAll (m : Machine) : List Stmt → Run String
  | [] => return ""
  | s :: rest => do
    let first ← Stmt.run m s
    return first ++ (← runAll m rest)

end

/-! ### Machines -/

/-- Runs a routine in a frame of its own upon its closure. Its output is a text, which is safe in
markup. -/
def runRoutine (m : Machine) (r : Routine) (args : List Datum) : Run Datum := do
  let caller ← get
  set { caller with
    frames := [⟨r.params.zip args, r.closure, none⟩]
    depth := caller.depth + caller.frames.length + 4 }
  checkDepth
  let out ← runAll m r.body
  modify fun s => { s with frames := caller.frames, depth := caller.depth }
  return .string m.markup out

/-- A computation whose fault becomes the cause of another one, which names the included
template. -/
def includedRun (name : String) (r : Run α) : Run α := fun s =>
  match r s with
  | .ok result => .ok result
  | .error f => .error (f.wrapped .badInclude ("error in \"" ++ name ++ "\""))

/-- Runs the statements of an included template in the frames of the including one; its routines get
a closure of their own. -/
def runIncluded (m : Machine) (name : String) (body : List Stmt) : Run String := do
  let before ← get
  set { before.withClosure none with depth := before.depth + 10 }
  checkDepth
  let out ← includedRun name (runAll m body)
  modify fun s => { s.withClosure before.closure with depth := before.depth }
  return out

/-- What templates are rendered with: whether what is not defined is a fault, the name of the object
that holds the builtins, the templates that can be included, and the texts of the function
`debug`. -/
structure Engine where
  strict : Bool
  builtinsName : String
  library : List (String × List Stmt)
  debugText : DebugText

namespace Engine

/-- The names of the templates. -/
def templates (g : Engine) : List String := g.library.map (·.1)

/-- The machine that evaluates a template with some levels of calls and inclusions left. -/
def machine (g : Engine) : Nat → (template : String) → (markup : Bool) → Machine
  | 0, template, markup =>
    ⟨g.strict, g.builtinsName, g.templates, g.debugText, template, markup,
      fun _ _ => throw tooDeep, fun _ => throw tooDeep⟩
  | level + 1, template, markup =>
    ⟨g.strict, g.builtinsName, g.templates, g.debugText, template, markup,
      fun r args => runRoutine (g.machine level r.template markup) r args,
      fun name =>
        match g.library.lookup name with
        | some body => runIncluded (g.machine level name (isMarkup name)) name body
        | none => throw (.because .templateNotFound
            ("tried to include non-existing template " ++ Text.quoted name))⟩

/-- The output of a template with some names known. Every call and every inclusion takes more than
one of the allowed depth, so their levels never run out first. -/
def run (g : Engine) (template : String) (stmts : List Stmt) (names : Bindings) :
    Except Fault String :=
  (runAll (g.machine maxDepth template (isMarkup template)) stmts (.start names)).map (·.1)

end Engine

end ChartRender.Template
