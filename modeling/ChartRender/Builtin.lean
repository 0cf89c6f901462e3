import ChartRender.Quantity
import ChartRender.TypeName
/-!
# Builtins

The operations of the typed language that templates lack, as functions on values: type tests and
assertions, look-ups that say whether the key was there, tuples, lengths, pointers and quantities.
Templates call them by name with a fixed number of arguments. An operation with two results returns
them as a list of two.

Key definitions: `Builtin`, `Builtin.ofName`, `Builtin.apply`, `Builtin.call`.
-/

namespace ChartRender

/-! ### Containers -/

namespace Value

/-- The value under a key and true, or the zero value and false. What is no map has no keys. -/
def dictTest (m : Value) (key : String) (zero : Value) : Value × Bool :=
  match Fields.get? m.fields key with
  | some found => (found, true)
  | none => (zero, false)

/-- The key of the element of a tuple with the given index, counted from zero. Indices have no upper
bound here; in machine words the greatest one has no successor, so that to ask for it overflows, where
here it gives a key that no tuple has. -/
def tupleKey (index : Nat) : String := "T" ++ toString (index + 1)

/-- Puts values under the keys of a tuple, the first of them under that of `index`. -/
def packFrom (index : Nat) : List Value → Fields
  | [] => []
  | v :: rest => (tupleKey index, v) :: packFrom (index + 1) rest

/-- A tuple: the values under the keys `T1`, `T2` and so on. -/
def pack (values : List Value) : Fields := packFrom 0 values

/-- The element of a tuple with the given index, counted from zero. -/
def packed? (tuple : Fields) (index : Nat) : Option Value := Fields.get? tuple (tupleKey index)

/-- The number of elements or fields, or of bytes of a text; what has no elements has length
zero. -/
def length : Value → Nat
  | .list items => items.length
  | .map fields => fields.length
  | .string s => s.utf8ByteSize
  | _ => 0

/-! ### Pointers -/

/-- What a pointer points to: a pointer is that value itself, and null points to nothing. -/
def deref (v : Value) : Except Failure Value :=
  if v.isNull then .error .nilDereference else .ok v

/-- What a pointer points to, or a default. -/
def derefD (v default : Value) : Value := if v.isNull then default else v

/-- Whether two pointers are both null or point to equal values. -/
def pointsToSame (a b : Value) : Bool := if a.isNull && b.isNull then true else a == b

/-- The two results of an operation that also says whether it succeeded. -/
def pair (result : Value × Bool) : Value := .list [result.1, .bool result.2]

/-- The text that an argument has to be. -/
def toText (v : Value) : Except Failure String :=
  match v with
  | .string s => .ok s
  | v => .error (.typeMismatch "string" v.kindName)

end Value

/-- The builtins, in order of their names. -/
inductive Builtin where
  | compact
  | deref
  | dictTest
  | isIntLikeFloat
  | len
  | ptrDeref
  | ptrEqual
  | quantityCount
  | quantityCheck
  | typeAssertion
  | typeTest
  deriving DecidableEq, Repr

namespace Builtin

/-- The name by which templates call a builtin. -/
def name : Builtin → String
  | .compact => "compact"
  | .deref => "deref"
  | .dictTest => "dicttest"
  | .isIntLikeFloat => "isIntLikeFloat"
  | .len => "len"
  | .ptrDeref => "ptr_Deref"
  | .ptrEqual => "ptr_Equal"
  | .quantityCount => "resource_AsInt64"
  | .quantityCheck => "resource_MustParse"
  | .typeAssertion => "typeassertion"
  | .typeTest => "typetest"

/-- The number of arguments. -/
def arity : Builtin → Nat
  | .typeTest | .dictTest => 3
  | .typeAssertion | .ptrDeref | .ptrEqual => 2
  | _ => 1

/-- A short description. -/
def summary : Builtin → String
  | .compact => "pack a list into \x7bT1..TN\x7d"
  | .deref => "*ptr, fails on nil"
  | .dictTest => "v, ok := m[k]"
  | .isIntLikeFloat => "true for a float64 without fractional part"
  | .len => "length, 0 for nil"
  | .ptrDeref => "ptr.Deref(ptr, def)"
  | .ptrEqual => "ptr.Equal(a, b)"
  | .quantityCount => "quantity as an integer count"
  | .quantityCheck => "validate a quantity string"
  | .typeAssertion => "v := x.(T)"
  | .typeTest => "v, ok := x.(T)"

/-- All builtins, sorted by name. -/
def all : List Builtin :=
  [.compact, .deref, .dictTest, .isIntLikeFloat, .len, .ptrDeref, .ptrEqual, .quantityCount,
   .quantityCheck, .typeAssertion, .typeTest]

/-- The builtin with a name. -/
def ofName? (name : String) : Option Builtin := all.find? fun b => b.name == name

/-- The builtin with a name, or the failure that names it. -/
def ofName (name : String) : Except Failure Builtin :=
  match ofName? name with
  | some b => .ok b
  | none => .error (.unknownBuiltin name)

/-- Asserts a type that is given by name; the failure repeats the name as it was given. -/
def assertNamed (name v : Value) : Except Failure Value := do
  let text ← name.toText
  let t ← TypeName.ofText text
  match t.assert v with
  | .ok v => .ok v
  | .error _ => .error (.typeMismatch text v.kindName)

/-- Applies a builtin to arguments. Arguments are checked from the first to the last. -/
def apply : Builtin → List Value → Except Failure Value
  | .compact, [v] =>
    match v with
    | .list items => .ok (.map (Value.pack items))
    | v => .error (.typeMismatch TypeName.list.text v.kindName)
  | .deref, [v] => v.deref
  | .dictTest, [m, key, zero] => do
    let key ← key.toText
    return Value.pair (m.dictTest key zero)
  | .isIntLikeFloat, [v] => .ok (.bool v.isIntegralNumber)
  | .len, [v] => .ok (.int (Int64.ofNat v.length))
  | .ptrDeref, [v, default] => .ok (v.derefD default)
  | .ptrEqual, [a, b] => .ok (.bool (a.pointsToSame b))
  | .quantityCount, [v] => do
    let (count, ok) ← Quantity.toInt64 v
    return Value.pair (.int count, ok)
  | .quantityCheck, [v] => Quantity.validate v
  | .typeAssertion, [name, v] => assertNamed name v
  | .typeTest, [name, v, zero] => do
    let text ← name.toText
    let t ← TypeName.ofText text
    return Value.pair (t.test v zero)
  | b, args => .error (.arity b.name b.arity args.length)

/-- Applies the builtin with a name to arguments. -/
def call (name : String) (args : List Value) : Except Failure Value := do
  let b ← ofName name
  b.apply args

end Builtin

end ChartRender
