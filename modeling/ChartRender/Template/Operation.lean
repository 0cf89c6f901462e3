import ChartRender.Template.Basic
import ChartRender.Template.Display
import ChartRender.Template.Fault
/-!
# Operations on data

The operators that take two data: sums, differences and products of numbers, which stay integers as
long as both are; texts put together; lists put together and repeated; and equality. An operation on
data that it does not cover is a fault.

Key definitions: `Operator.apply`, `Datum.negate`.
-/

namespace ChartRender.Template

namespace Datum

/-- Two data that count as numbers of one kind, or are both texts. -/
inductive Pairing where
  | ints (i j : Int)
  | floats (x y : Binary64)
  | texts (s t : String)

/-- Two data as operands of one kind: integers unless one of them is a floating-point number. -/
def pairing? (a b : Datum) : Option Pairing :=
  match a, b with
  | .string _ s, .string _ t => some (.texts s t)
  | .float x, b => b.float?.map (.floats x)
  | a, .float y => a.float?.map (.floats · y)
  | a, b =>
    match a.integer?, b.integer? with
    | some i, some j => some (.ints i j)
    | _, _ => none

end Datum

/-- The fault of an operator on data that it does not cover. -/
def unsupported (symbol : String) (a b : Datum) : Fault :=
  .because .invalidOperation ("tried to use " ++ symbol ++ " operator on unsupported types " ++
    a.kindName ++ " and " ++ b.kindName)

/-- The result of a calculation with integers, which may become too large. -/
def computed (symbol : String) (a b : Datum) (i : Int) : Except Fault Datum :=
  if Datum.isComputable i then .ok (.int i)
  else .error (.because .invalidOperation
    ("unable to calculate " ++ a.text ++ " " ++ symbol ++ " " ++ b.text))

/-- The sum of two numbers; two texts and two lists are put together. -/
def Datum.add (a b : Datum) : Except Fault Datum :=
  match a, b with
  | .list xs, .list ys => .ok (.list (xs ++ ys))
  | a, b =>
    match a.pairing? b with
    | some (.ints i j) => computed "+" a b (i + j)
    | some (.floats x y) => .ok (.float (x.add y))
    | some (.texts s t) => .ok (.ofText (s ++ t))
    | none => .error (unsupported "+" a b)

/-- The difference of two numbers. -/
def Datum.sub (a b : Datum) : Except Fault Datum :=
  match a.pairing? b with
  | some (.ints i j) => computed "-" a b (i - j)
  | some (.floats x y) => .ok (.float (x.sub y))
  | _ => .error (unsupported "-" a b)

/-- The number of times that something is repeated. -/
def repetitions (what : String) (d : Datum) : Except Fault Nat :=
  match d.integer? with
  | some i =>
    if 0 ≤ i then .ok i.toNat
    else .error (.because .invalidOperation (what ++ " can only be multiplied with integers"))
  | none => .error (.because .invalidOperation (what ++ " can only be multiplied with integers"))

/-- The product of two numbers; a text or a list is repeated. -/
def Datum.mul (a b : Datum) : Except Fault Datum :=
  match a, b with
  | .string _ s, b => return .ofText (String.join (List.replicate (← repetitions "strings" b) s))
  | a, .string _ t => return .ofText (String.join (List.replicate (← repetitions "strings" a) t))
  | .list xs, b => do
    let count ← repetitions "sequences and iterables" b
    return .list (List.replicate count xs).flatten
  | a, .list ys => do
    let count ← repetitions "sequences and iterables" a
    return .list (List.replicate count ys).flatten
  | a, b =>
    match a.pairing? b with
    | some (.ints i j) => computed "*" a b (i * j)
    | some (.floats x y) => .ok (.float (x.mul y))
    | _ => .error (unsupported "*" a b)

/-- The result of an operator. -/
def Operator.apply (op : Operator) (a b : Datum) : Except Fault Datum :=
  match op with
  | .add => a.add b
  | .sub => a.sub b
  | .mul => a.mul b
  | .concat => .ok (.ofText (a.text ++ b.text))
  | .equal => .ok (.bool (a == b))
  | .unequal => .ok (.bool (!(a == b)))

/-- The number with the other sign. -/
def Datum.negate : Datum → Except Fault Datum
  | .int i => if Datum.isComputable (-i) then .ok (.int (-i)) else .error (.plain .invalidOperation)
  | .float x => .ok (.float x.neg)
  | _ => .error (.plain .invalidOperation)

end ChartRender.Template
