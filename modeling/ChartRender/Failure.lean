import ChartRender.Text.Quoted
/-!
# Failures of builtins

Why a builtin gives no result. Every cause has a short kind for machines, a message, a diagnostic
code and, where there is something to advise, a help text.

Key definitions: `Failure`, `Failure.message`, `Failure.help?`.
-/

namespace ChartRender

/-- The cause for which a builtin gives no result. -/
inductive Failure where
  | typeMismatch (expected actual : String)
  | nilDereference
  | quantityType (expected actual : String)
  | quantityFormat (input : String)
  | unknownUnit (unit input : String)
  | unknownType (name : String)
  | unknownBuiltin (name : String)
  | arity (name : String) (expected actual : Nat)
  deriving DecidableEq, Repr

namespace Failure

/-- The short name of the cause. -/
def kind : Failure → String
  | .typeMismatch .. => "type_mismatch"
  | .nilDereference => "nil_dereference"
  | .quantityType .. => "invalid_quantity_type"
  | .quantityFormat .. => "invalid_quantity_format"
  | .unknownUnit .. => "unknown_unit"
  | .unknownType .. => "unknown_type"
  | .unknownBuiltin .. => "unknown_shim"
  | .arity .. => "arity"

/-- The code under which the cause is documented. -/
def code (f : Failure) : String := "helmshim::shim::" ++ f.kind

/-- What went wrong, with the texts concerned in quotes. -/
def message : Failure → String
  | .typeMismatch expected actual =>
    "expected type of " ++ Text.quoted expected ++ " got: " ++ actual
  | .nilDereference => "nil dereference"
  | .quantityType expected actual =>
    "invalid quantity type: expected " ++ expected ++ ", got: " ++ actual
  | .quantityFormat input => "invalid quantity " ++ Text.quoted input
  | .unknownUnit unit input =>
    "unknown unit " ++ Text.quoted unit ++ " in quantity " ++ Text.quoted input
  | .unknownType name => "unknown type " ++ Text.quoted name
  | .unknownBuiltin name => "unknown shim " ++ Text.quoted name
  | .arity name expected actual =>
    name ++ " takes " ++ toString expected ++ " argument(s), got " ++ toString actual

/-- What to do instead. -/
def help? : Failure → Option String
  | .typeMismatch .. =>
    some "use a type test instead of an assertion when the type depends on input data"
  | .nilDereference => some "use ptr_Deref with a default when the value may be absent"
  | .quantityFormat _ => some "quantities look like `2`, `1.5Gi`, `500M` or `250m`"
  | .unknownUnit .. => some "supported units: m, k, M, G, T, P, Ki, Mi, Gi, Ti, Pi"
  | _ => none

end Failure

end ChartRender
