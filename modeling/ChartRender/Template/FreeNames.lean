import ChartRender.Template.Basic
/-!
# Free names

The names that the body of a routine takes from around its definition: those that it reads before it
has assigned them. A name that was read once counts as known from then on, and what is assigned
inside a branch or a loop is known there only. The template that an include names is looked up when
it runs, so an include takes no name from around it.

Key definitions: `Template.Known`, `Template.freeNames`.
-/

namespace ChartRender.Template

/-- The names known at a place, and the free names found before it, in order of their finding. -/
structure Known where
  names : List String
  free : List String
  deriving DecidableEq, Repr

namespace Known

/-- Notes that a name is known from here on. -/
def assign (k : Known) (name : String) : Known := { k with names := name :: k.names }

/-- Notes that a name is read. -/
def read (k : Known) (name : String) : Known :=
  if name ∈ k.names then k else ⟨name :: k.names, k.free ++ [name]⟩

/-- What is known behind a block: the names from before it, and the free names found in it. -/
def leave (before inside : Known) : Known := ⟨before.names, inside.free⟩

end Known

mutual

/-- Reads the names of an expression. -/
def Expr.readNames (k : Known) : Expr → Known
  | .literal .. => k
  | .var _ name => k.read name
  | .list _ items => readNamesAll k items
  | .map _ entries => readNamesEntries k entries
  | .attr e _ => Expr.readNames k e
  | .item e key => Expr.readNames (Expr.readNames k e) key
  | .neg e => Expr.readNames k e
  | .not e => Expr.readNames k e
  | .binary _ a b => Expr.readNames (Expr.readNames k a) b
  | .and a b => Expr.readNames (Expr.readNames k a) b
  | .or a b => Expr.readNames (Expr.readNames k a) b
  | .choose c yes no => Expr.readNames (Expr.readNames (Expr.readNames k c) yes) no
  | .filter e _ args => readNamesArguments (Expr.readNames k e) args
  | .test e _ args => readNamesArguments (Expr.readNames k e) args
  | .call _ name args => readNamesArguments (k.read name) args
  | .callMethod e _ args => readNamesArguments (Expr.readNames k e) args
  | .callValue e args => readNamesArguments (Expr.readNames k e) args

def readNamesAll (k : Known) : List Expr → Known
  | [] => k
  | e :: rest => readNamesAll (Expr.readNames k e) rest

def readNamesEntries (k : Known) : List (Expr × Expr) → Known
  | [] => k
  | (key, e) :: rest => readNamesEntries (Expr.readNames (Expr.readNames k key) e) rest

def readNamesArguments (k : Known) : List (Option String × Expr) → Known
  | [] => k
  | (_, e) :: rest => readNamesArguments (Expr.readNames k e) rest

end

mutual

/-- Follows the names that a statement reads and assigns. A statement that assigns a name makes it
known before its expression is read. -/
def Stmt.followNames (k : Known) : Stmt → Known
  | .text _ => k
  | .emit e => e.readNames k
  | .assign name e => e.readNames (k.assign name)
  | .choose c yes no =>
    let k := c.readNames k
    let k := k.leave (followNamesAll k yes)
    k.leave (followNamesAll k no)
  | .forEach name e body =>
    k.leave (followNamesAll ((e.readNames k).assign name) body)
  | .define name params body =>
    followNamesAll (params.foldl Known.assign (k.assign name)) body
  | .include .. => k
  | .fromImport _ _ names => names.foldl (fun k p => k.assign p.2) k

def followNamesAll (k : Known) : List Stmt → Known
  | [] => k
  | s :: rest => followNamesAll (Stmt.followNames k s) rest

end

/-- The free names of a routine. -/
def freeNames (params : List String) (body : List Stmt) : List String :=
  (followNamesAll (params.foldl Known.assign ⟨[], []⟩) body).free

end ChartRender.Template
