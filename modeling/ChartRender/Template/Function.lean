import ChartRender.Binary64.Basic
import ChartRender.Builtin
import ChartRender.Template.Exchange
import ChartRender.Template.Fault
import ChartRender.Template.Scope
/-!
# Functions of templates

What templates can call besides their own routines: the builtins, as methods of one object; the
functions `range` and `debug`; and the filters and tests. A builtin that does not exist is reported
before its arguments are looked at, and a failing builtin is the cause of the fault that it leads to.

Of what the template language offers to call there are only these. Left out are the functions `dict`
and `namespace`, all filters but `default` (or `d`), and all tests but `defined`, `undefined` and
`none`; a template that uses one of them fails here with an unknown function, filter or test.

Key definitions: `callBuiltin`, `rangeOf`, `DebugText`, `debugOf`, `applyFilter`, `applyTest`.
-/

namespace ChartRender.Template

/-- Calls a method of the object that holds the builtins. -/
def callBuiltin (method : String) (args : List Datum) : Except Fault Datum :=
  match Builtin.ofName method with
  | .error f => .error ((Fault.because .unknownMethod f.message).causedBy f)
  | .ok b =>
    match Datum.toValues args with
    | .error e => .error (.because .badSerialization ("cannot pass value to a shim: " ++ e.message))
    | .ok values =>
      match b.apply values with
      | .error f =>
        .error ((Fault.because .invalidOperation (b.name ++ ": " ++ f.message)).causedBy f)
      | .ok v => .ok (.ofValue v)

/-! ### Ranges -/

/-- How many elements a range may have. -/
def maxRange : Nat := 100000

/-- A bound of a range. -/
def rangeBound (d : Datum) : Except Fault Nat :=
  match d.integer? with
  | some i =>
    if Width.isUnsigned 32 i then .ok i.toNat
    else .error (.because .invalidOperation ("cannot convert " ++ d.kindName ++ " to u32"))
  | none => .error (.because .invalidOperation ("cannot convert " ++ d.kindName ++ " to u32"))

/-- The integers from one bound on, below another, in steps. -/
def rangeOfBounds (low high step : Nat) : Except Fault Datum :=
  if step = 0 then .error (.because .invalidOperation "cannot create range with step of 0")
  else
    let count := (high - low + step - 1) / step
    if maxRange < count then .error (.because .invalidOperation "range has too many elements")
    else .ok (.list ((List.range count).map fun i => .int (low + i * step : Nat)))

/-- The function `range`, with an upper bound, with both bounds, or with a step too. -/
def rangeOf : List Datum → Except Fault Datum
  | [] => .error (.plain .missingArgument)
  | [high] => do rangeOfBounds 0 (← rangeBound high) 1
  | [low, high] => do rangeOfBounds (← rangeBound low) (← rangeBound high) 1
  | [low, high, step] => do rangeOfBounds (← rangeBound low) (← rangeBound high) (← rangeBound step)
  | _ => .error (.plain .tooManyArguments)

/-! ### The state of the evaluation -/

/-- What the function `debug` sees of the evaluation: the template that it is called in, whether that
is put out as markup, the names that are known there, the name of the object that holds the builtins,
and the names of all templates of the engine. -/
structure DebugState where
  template : String
  markup : Bool
  known : Bindings
  builtinsName : String
  templates : List String

/-- The texts that the function `debug` gives, of the state of the evaluation and of data. Their layout
is not specified, so whatever is said of templates is said for all such texts. -/
class DebugText where
  ofState : DebugState → String
  ofData : List Datum → String

/-- The texts that the program gives where no others are assumed. Like all of them they show the names
of the templates. -/
instance : DebugText where
  ofState state := Datum.inner (.map
    [(.ofText "name", .ofText state.template),
    (.ofText "templates", .list (state.templates.map .ofText))])
  ofData := Datum.innerAll

/-- The function `debug`: the text of its arguments, or of the state if there are none. -/
def debugOf (texts : DebugText) (state : DebugState) (args : List Datum) : Datum :=
  .ofText (if args.isEmpty then texts.ofState state else texts.ofData args)

/-! ### Filters and tests -/

/-- A datum, or a default if it is not defined. -/
def defaultFilter (d : Datum) : List Datum → Except Fault Datum
  | [] => .ok (if d.isUndefined then .ofText "" else d)
  | [other] => .ok (if d.isUndefined then other else d)
  | [other, lax] => .ok (if d.isUndefined || (lax.isTrue && !d.isTrue) then other else d)
  | _ => .error (.plain .tooManyArguments)

/-- Applies the filter with a name. -/
def applyFilter (name : String) (d : Datum) (args : List Datum) : Except Fault Datum :=
  if name = "default" ∨ name = "d" then defaultFilter d args
  else .error (.because .unknownFilter ("filter " ++ name ++ " is unknown"))

/-- What a test without arguments asks of a datum. -/
def testNamed? (name : String) : Option (Datum → Bool) :=
  if name = "defined" then some (!·.isUndefined)
  else if name = "undefined" then some Datum.isUndefined
  else if name = "none" then some Datum.isNull
  else none

/-- Applies the test with a name. -/
def applyTest (name : String) (d : Datum) (args : List Datum) : Except Fault Bool :=
  match testNamed? name with
  | some test => if args.isEmpty then .ok (test d) else .error (.plain .tooManyArguments)
  | none => .error (.because .unknownTest ("test " ++ name ++ " is unknown"))

end ChartRender.Template
