import ChartRender.Template.FreeNames
/-!
# Names that a template reads

What a template takes from its engine it takes by a name that one of its expressions reads, that it
imports, or that a routine takes from around its definition. The last kind adds nothing: a free name
of a routine is noted where the body reads it, so it is read in the body
(`mem_namesReadIn_of_mem_freeNames`).

Key definitions: `Expr.namesRead`, `Stmt.namesRead`, `namesReadIn`, `Known.Finds`.
Key theorems: `Expr.finds_readNames`, `Stmt.finds_followNames`, `mem_namesReadIn_of_mem_freeNames`.
-/

namespace ChartRender.Template

mutual

/-- The names that an expression reads. -/
def Expr.namesRead : Expr → List String
  | .literal .. => []
  | .var _ name => [name]
  | .list _ items => namesReadAll items
  | .map _ entries => namesReadEntries entries
  | .attr e _ => e.namesRead
  | .item e key => e.namesRead ++ key.namesRead
  | .neg e => e.namesRead
  | .not e => e.namesRead
  | .binary _ a b => a.namesRead ++ b.namesRead
  | .and a b => a.namesRead ++ b.namesRead
  | .or a b => a.namesRead ++ b.namesRead
  | .choose c yes no => c.namesRead ++ (yes.namesRead ++ no.namesRead)
  | .filter e _ args => e.namesRead ++ namesReadArguments args
  | .test e _ args => e.namesRead ++ namesReadArguments args
  | .call _ name args => [name] ++ namesReadArguments args
  | .callMethod e _ args => e.namesRead ++ namesReadArguments args
  | .callValue e args => e.namesRead ++ namesReadArguments args

def namesReadAll : List Expr → List String
  | [] => []
  | e :: rest => e.namesRead ++ namesReadAll rest

def namesReadEntries : List (Expr × Expr) → List String
  | [] => []
  | (k, e) :: rest => k.namesRead ++ (e.namesRead ++ namesReadEntries rest)

def namesReadArguments : List (Option String × Expr) → List String
  | [] => []
  | (_, e) :: rest => e.namesRead ++ namesReadArguments rest

end

mutual

/-- The names that a statement reads or imports, at any depth. -/
def Stmt.namesRead : Stmt → List String
  | .text _ => []
  | .emit e => e.namesRead
  | .assign _ e => e.namesRead
  | .choose c yes no => c.namesRead ++ (namesReadIn yes ++ namesReadIn no)
  | .forEach _ e body => e.namesRead ++ namesReadIn body
  | .define _ _ body => namesReadIn body
  | .include _ e => e.namesRead
  | .fromImport _ e names => e.namesRead ++ names.map (·.1)

/-- The names that some statements read or import. -/
def namesReadIn : List Stmt → List String
  | [] => []
  | s :: rest => s.namesRead ++ namesReadIn rest

end

/-! ### Free names are read -/

/-- Whatever is free at a later place was free before, or is one of some names. -/
def Known.Finds (k : Known) (names : List String) (later : Known) : Prop :=
  ∀ name ∈ later.free, name ∈ k.free ∨ name ∈ names

namespace Known

variable {k k' k'' : Known} {names names' : List String}

theorem Finds.trans (h : k.Finds names k') (h' : k'.Finds names' k'') :
    k.Finds (names ++ names') k'' := by
  intro name hn
  rw [List.mem_append]
  rcases h' name hn with hn | hn
  · exact (h name hn).imp_right Or.inl
  · exact Or.inr (Or.inr hn)

theorem finds_of_free_eq (h : k'.free = k.free) : k.Finds [] k' := fun _ hn => Or.inl (h ▸ hn)

theorem finds_refl (k : Known) : k.Finds [] k := finds_of_free_eq rfl

theorem finds_assign (k : Known) (name : String) : k.Finds [] (k.assign name) :=
  finds_of_free_eq rfl

theorem finds_read (k : Known) (name : String) : k.Finds [name] (k.read name) := by
  intro n hn
  unfold read at hn
  split at hn
  · exact Or.inl hn
  · exact List.mem_append.mp hn

theorem free_foldl_assign {α : Type} (f : α → String) : ∀ (xs : List α) (k : Known),
    (xs.foldl (fun k x => k.assign (f x)) k).free = k.free
  | [], _ => rfl
  | x :: rest, k => free_foldl_assign f rest (k.assign (f x))

/-- Behind a block everything is free that is free at its end. -/
theorem Finds.leave (h : k.Finds names k') (before : Known) : k.Finds names (before.leave k') := h

end Known

open Known

mutual

/-- What an expression adds to the free names are names that it reads. -/
theorem Expr.finds_readNames (e : Expr) (k : Known) : k.Finds e.namesRead (e.readNames k) := by
  match e with
  | .literal .. => exact finds_refl k
  | .var _ name => exact finds_read k name
  | .list _ items => exact finds_readNamesAll items k
  | .map _ entries => exact finds_readNamesEntries entries k
  | .attr e _ => exact e.finds_readNames k
  | .item e key => exact (e.finds_readNames k).trans (key.finds_readNames _)
  | .neg e => exact e.finds_readNames k
  | .not e => exact e.finds_readNames k
  | .binary _ a b => exact (a.finds_readNames k).trans (b.finds_readNames _)
  | .and a b => exact (a.finds_readNames k).trans (b.finds_readNames _)
  | .or a b => exact (a.finds_readNames k).trans (b.finds_readNames _)
  | .choose c yes no =>
    exact (c.finds_readNames k).trans ((yes.finds_readNames _).trans (no.finds_readNames _))
  | .filter e _ args => exact (e.finds_readNames k).trans (finds_readNamesArguments args _)
  | .test e _ args => exact (e.finds_readNames k).trans (finds_readNamesArguments args _)
  | .call _ name args => exact (finds_read k name).trans (finds_readNamesArguments args _)
  | .callMethod e _ args => exact (e.finds_readNames k).trans (finds_readNamesArguments args _)
  | .callValue e args => exact (e.finds_readNames k).trans (finds_readNamesArguments args _)

theorem finds_readNamesAll (es : List Expr) (k : Known) :
    k.Finds (namesReadAll es) (readNamesAll k es) := by
  match es with
  | [] => exact finds_refl k
  | e :: rest => exact (e.finds_readNames k).trans (finds_readNamesAll rest _)

theorem finds_readNamesEntries (es : List (Expr × Expr)) (k : Known) :
    k.Finds (namesReadEntries es) (readNamesEntries k es) := by
  match es with
  | [] => exact finds_refl k
  | (key, e) :: rest =>
    exact (key.finds_readNames k).trans
      ((e.finds_readNames _).trans (finds_readNamesEntries rest _))

theorem finds_readNamesArguments (args : List (Option String × Expr)) (k : Known) :
    k.Finds (namesReadArguments args) (readNamesArguments k args) := by
  match args with
  | [] => exact finds_refl k
  | (_, e) :: rest => exact (e.finds_readNames k).trans (finds_readNamesArguments rest _)

end

mutual

/-- What a statement adds to the free names are names that it reads. -/
theorem Stmt.finds_followNames (s : Stmt) (k : Known) : k.Finds s.namesRead (s.followNames k) := by
  match s with
  | .text _ => exact finds_refl k
  | .emit e => exact e.finds_readNames k
  | .assign name e => exact (finds_assign k name).trans (e.finds_readNames _)
  | .choose c yes no =>
    have hyes := (finds_followNamesAll yes (c.readNames k)).leave (c.readNames k)
    exact (c.finds_readNames k).trans (hyes.trans ((finds_followNamesAll no _).leave _))
  | .forEach name e body =>
    refine (e.finds_readNames k).trans (Finds.leave ?_ k)
    exact (finds_assign _ name).trans (finds_followNamesAll body _)
  | .define name params body =>
    have hparams : k.Finds [] (params.foldl Known.assign (k.assign name)) :=
      finds_of_free_eq (free_foldl_assign id params _)
    exact hparams.trans (finds_followNamesAll body _)
  | .include .. => exact fun _ hn => Or.inl hn
  | .fromImport _ _ names => exact fun _ hn => Or.inl (free_foldl_assign (·.2) names k ▸ hn)

theorem finds_followNamesAll (stmts : List Stmt) (k : Known) :
    k.Finds (namesReadIn stmts) (followNamesAll k stmts) := by
  match stmts with
  | [] => exact finds_refl k
  | s :: rest => exact (s.finds_followNames k).trans (finds_followNamesAll rest _)

end

/-- **A free name of a routine is read in its body.** -/
theorem mem_namesReadIn_of_mem_freeNames {params : List String} {body : List Stmt} {name : String}
    (h : name ∈ freeNames params body) : name ∈ namesReadIn body := by
  have hfree : (params.foldl Known.assign ⟨[], []⟩).free = [] := free_foldl_assign id params _
  rcases finds_followNamesAll body _ name h with hn | hn
  · rw [hfree] at hn
    cases hn
  · exact hn

end ChartRender.Template
