import ChartRender.Binary64.Basic
/-!
# Templates

A template is text with expressions and statements in it. Names, literals, lists, maps and function
calls know the line that they start on. Any other expression is attributed to the line of its last
part, since that is how far its evaluation has come when it is carried out; a collection of
constants is no such part, as nothing in it is evaluated.

Key definitions: `Template.Expr`, `Template.Stmt`, `Template.Expr.line`.
-/

namespace ChartRender.Template

/-- A constant. -/
inductive Literal where
  | null
  | bool (b : Bool)
  | int (n : Nat)
  | float (x : Binary64)
  | string (s : String)
  deriving DecidableEq, Repr

/-- The operators that take two values, whatever they are. -/
inductive Operator where
  | add
  | sub
  | mul
  | concat
  | equal
  | unequal
  deriving DecidableEq, Repr

/-- An expression. The arguments of a call may bear a name. -/
inductive Expr where
  | literal (line : Nat) (value : Literal)
  | var (line : Nat) (name : String)
  | list (line : Nat) (items : List Expr)
  | map (line : Nat) (entries : List (Expr × Expr))
  | attr (e : Expr) (name : String)
  | item (e key : Expr)
  | neg (e : Expr)
  | not (e : Expr)
  | binary (op : Operator) (a b : Expr)
  | and (a b : Expr)
  | or (a b : Expr)
  | choose (condition yes no : Expr)
  | filter (e : Expr) (name : String) (args : List (Option String × Expr))
  | test (e : Expr) (name : String) (args : List (Option String × Expr))
  | call (line : Nat) (name : String) (args : List (Option String × Expr))
  | callMethod (e : Expr) (name : String) (args : List (Option String × Expr))
  | callValue (e : Expr) (args : List (Option String × Expr))
  deriving Repr, Inhabited

/-- The arguments of a call, some of them under a name. -/
abbrev Arguments := List (Option String × Expr)

/-- A statement. A routine is a piece of template under a name and with parameters; an import makes
routines of another template known, each under its own name or another one. -/
inductive Stmt where
  | text (s : String)
  | emit (e : Expr)
  | assign (name : String) (e : Expr)
  | choose (condition : Expr) (yes no : List Stmt)
  | forEach (name : String) (e : Expr) (body : List Stmt)
  | define (name : String) (params : List String) (body : List Stmt)
  | include (line : Nat) (e : Expr)
  | fromImport (line : Nat) (e : Expr) (names : List (String × String))
  deriving Repr, Inhabited

/-! ### Lines -/

mutual

/-- Whether an expression consists of literals only. -/
def Expr.isConstant : Expr → Bool
  | .literal .. => true
  | .list _ items => areConstant items
  | .map _ entries => areConstantEntries entries
  | _ => false

/-- Whether some expressions all consist of literals only. -/
def areConstant : List Expr → Bool
  | [] => true
  | e :: rest => e.isConstant && areConstant rest

/-- Whether the keys and values of a map all consist of literals only. -/
def areConstantEntries : List (Expr × Expr) → Bool
  | [] => true
  | (k, e) :: rest => k.isConstant && e.isConstant && areConstantEntries rest

end

/-- Whether an expression is a list or a map of constants. -/
def Expr.isConstantCollection : Expr → Bool
  | .list _ items => areConstant items
  | .map _ entries => areConstantEntries entries
  | _ => false

mutual

/-- The line to which the evaluation of an expression is attributed. -/
def Expr.line : Expr → Nat
  | .literal line _ => line
  | .var line _ => line
  | .list line items => if areConstant items then line else lineOfAll line items
  | .map line entries => if areConstantEntries entries then line else lineOfEntries line entries
  | .attr e _ => Expr.line e
  | .item e key => if key.isConstantCollection then Expr.line e else Expr.line key
  | .neg e => Expr.line e
  | .not e => Expr.line e
  | .binary _ a b => if b.isConstantCollection then Expr.line a else Expr.line b
  | .and a b => if b.isConstantCollection then Expr.line a else Expr.line b
  | .or a b => if b.isConstantCollection then Expr.line a else Expr.line b
  | .choose _ yes no => if no.isConstantCollection then Expr.line yes else Expr.line no
  | .filter e _ args => lineOfArguments (Expr.line e) args
  | .test e _ args => lineOfArguments (Expr.line e) args
  | .call line _ args => lineOfArguments line args
  | .callMethod e _ args => lineOfArguments (Expr.line e) args
  | .callValue e args => lineOfArguments (Expr.line e) args

/-- The line reached after some expressions, from a given one on. -/
def lineOfAll (line : Nat) : List Expr → Nat
  | [] => line
  | e :: rest => lineOfAll (if e.isConstantCollection then line else Expr.line e) rest

/-- The line reached after some entries of a map, from a given one on. -/
def lineOfEntries (line : Nat) : List (Expr × Expr) → Nat
  | [] => line
  | (k, e) :: rest =>
    let line := if k.isConstantCollection then line else Expr.line k
    lineOfEntries (if e.isConstantCollection then line else Expr.line e) rest

/-- The line reached after some arguments, from a given one on. -/
def lineOfArguments (line : Nat) : List (Option String × Expr) → Nat
  | [] => line
  | (_, e) :: rest => lineOfArguments (if e.isConstantCollection then line else Expr.line e) rest

end

end ChartRender.Template
