import ChartRender.Failure
/-!
# Faults

Why a template gives no text. A fault has a kind, a detail of its own, the place where it arose, and
the causes below it, the nearest first. A place is set once: where a fault already has one, it
stays.

Key definitions: `Template.FaultKind`, `Template.Fault`, `Template.Fault.placed`,
`Template.Fault.wrapped`, `Template.Fault.text`.
-/

namespace ChartRender.Template

/-- The kinds of faults. -/
inductive FaultKind where
  | nonPrimitive
  | nonKey
  | invalidOperation
  | syntaxError
  | templateNotFound
  | tooManyArguments
  | missingArgument
  | unknownFilter
  | unknownFunction
  | unknownTest
  | unknownMethod
  | badEscape
  | undefinedError
  | badSerialization
  | badInclude
  | evalBlock
  | cannotUnpack
  | writeFailure
  | unknownBlock
  deriving DecidableEq, Repr

/-- What a kind of fault means. -/
def FaultKind.description : FaultKind → String
  | .nonPrimitive => "not a primitive"
  | .nonKey => "not a key type"
  | .invalidOperation => "invalid operation"
  | .syntaxError => "syntax error"
  | .templateNotFound => "template not found"
  | .tooManyArguments => "too many arguments"
  | .missingArgument => "missing argument"
  | .unknownFilter => "unknown filter"
  | .unknownFunction => "unknown function"
  | .unknownTest => "unknown test"
  | .unknownMethod => "unknown method"
  | .badEscape => "bad string escape"
  | .undefinedError => "undefined value"
  | .badSerialization => "could not serialize to value"
  | .badInclude => "could not render include"
  | .evalBlock => "could not render block"
  | .cannotUnpack => "cannot unpack"
  | .writeFailure => "failed to write output"
  | .unknownBlock => "unknown block"

/-- A line of a template, counted from one. -/
structure Place where
  template : String
  line : Nat
  deriving DecidableEq, Repr

/-- What a fault goes back to: a builtin that failed, another fault, or an error from outside, such as
one of the output. -/
inductive Cause where
  | failure (f : Failure)
  | fault (kind : FaultKind) (detail : Option String)
  | other (message : String)
  deriving DecidableEq, Repr

/-- Why a template gives no text. -/
structure Fault where
  kind : FaultKind
  detail : Option String
  place : Option Place
  causes : List Cause
  deriving DecidableEq, Repr

namespace Fault

/-- A fault without detail. -/
def plain (kind : FaultKind) : Fault := ⟨kind, none, none, []⟩

/-- A fault with a detail. -/
def because (kind : FaultKind) (detail : String) : Fault := ⟨kind, some detail, none, []⟩

/-- The fault with a builtin's failure as its cause. -/
def causedBy (fault : Fault) (f : Failure) : Fault :=
  { fault with causes := .failure f :: fault.causes }

/-- The fault at a place, unless it has one. -/
def placed (fault : Fault) (template : String) (line : Nat) : Fault :=
  match fault.place with
  | some _ => fault
  | none => { fault with place := some ⟨template, line⟩ }

/-- A new fault that has this one and its causes below it. -/
def wrapped (fault : Fault) (kind : FaultKind) (detail : String) : Fault :=
  ⟨kind, some detail, none, .fault fault.kind fault.detail :: fault.causes⟩

/-- The first failure of a builtin among the causes. -/
def failure? (fault : Fault) : Option Failure :=
  fault.causes.findSome? fun
    | .failure f => some f
    | .fault .. | .other _ => none

/-- The fault in words: what its kind means, its detail and its place. -/
def text (fault : Fault) : String :=
  fault.kind.description ++
    (match fault.detail with
      | some detail => ": " ++ detail
      | none => "") ++
    (match fault.place with
      | some place => " (in " ++ place.template ++ ":" ++ toString place.line ++ ")"
      | none => "")

end Fault

end ChartRender.Template
