import ChartRender.Template.Evaluation
/-!
# Faults without a place

The operations on data know nothing of templates: a fault that one of them raises has no place yet.
It gets one from the machine, and since a place is set once, that is the place it is reported with.

Key definitions: `IsUnplaced`.
Key theorems: `isUnplaced_apply`, `isUnplaced_callBuiltin`, `isUnplaced_bindArguments`.
-/

namespace ChartRender.Template

variable {α β : Type}

/-- A result that is no fault, or a fault without a place. -/
def IsUnplaced (r : Except Fault α) : Prop := ∀ f, r = .error f → f.place = none

namespace IsUnplaced

theorem ok (a : α) : IsUnplaced (.ok a : Except Fault α) := nofun

theorem error {f : Fault} (h : f.place = none) : IsUnplaced (.error f : Except Fault α) := by
  rintro _ ⟨⟩
  exact h

theorem plain (kind : FaultKind) : IsUnplaced (.error (.plain kind) : Except Fault α) := error rfl

theorem because (kind : FaultKind) (detail : String) :
    IsUnplaced (.error (.because kind detail) : Except Fault α) := error rfl

theorem bind {r : Except Fault α} {k : α → Except Fault β} (h : IsUnplaced r)
    (hk : ∀ a, IsUnplaced (k a)) : IsUnplaced (r >>= k) := by
  cases r with
  | error f => exact error (h f rfl)
  | ok a => exact hk a

theorem ite {r r' : Except Fault α} (c : Prop) [Decidable c] (h : IsUnplaced r)
    (h' : IsUnplaced r') : IsUnplaced (if c then r else r') := by
  split
  · exact h
  · exact h'

end IsUnplaced

open IsUnplaced

/-! ### Operators -/

theorem isUnplaced_computed (symbol : String) (a b : Datum) (i : Int) :
    IsUnplaced (computed symbol a b i) := .ite _ (.ok _) (.because _ _)

theorem isUnplaced_repetitions (what : String) (d : Datum) : IsUnplaced (repetitions what d) := by
  unfold repetitions
  split
  · exact .ite _ (.ok _) (.because _ _)
  · exact .because _ _

theorem isUnplaced_add (a b : Datum) : IsUnplaced (a.add b) := by
  unfold Datum.add
  split
  · exact .ok _
  · split
    · exact isUnplaced_computed _ _ _ _
    · exact .ok _
    · exact .ok _
    · exact .because _ _

theorem isUnplaced_sub (a b : Datum) : IsUnplaced (a.sub b) := by
  unfold Datum.sub
  split
  · exact isUnplaced_computed _ _ _ _
  · exact .ok _
  · exact .because _ _

theorem isUnplaced_mul (a b : Datum) : IsUnplaced (a.mul b) := by
  unfold Datum.mul
  split
  · exact (isUnplaced_repetitions _ _).bind fun _ => .ok _
  · exact (isUnplaced_repetitions _ _).bind fun _ => .ok _
  · exact (isUnplaced_repetitions _ _).bind fun _ => .ok _
  · exact (isUnplaced_repetitions _ _).bind fun _ => .ok _
  · split
    · exact isUnplaced_computed _ _ _ _
    · exact .ok _
    · exact .because _ _

theorem isUnplaced_apply (op : Operator) (a b : Datum) : IsUnplaced (op.apply a b) := by
  cases op with
  | add => exact isUnplaced_add a b
  | sub => exact isUnplaced_sub a b
  | mul => exact isUnplaced_mul a b
  | concat | equal | unequal => exact .ok _

theorem isUnplaced_negate (d : Datum) : IsUnplaced d.negate := by
  cases d with
  | int i => exact .ite _ (.ok _) (.plain _)
  | float x => exact .ok _
  | _ => exact .plain _

/-! ### Functions -/

theorem isUnplaced_callBuiltin (method : String) (args : List Datum) :
    IsUnplaced (callBuiltin method args) := by
  unfold callBuiltin
  split
  · exact .error rfl
  · split
    · exact .because _ _
    · split
      · exact .error rfl
      · exact .ok _

theorem isUnplaced_rangeBound (d : Datum) : IsUnplaced (rangeBound d) := by
  unfold rangeBound
  split
  · exact .ite _ (.ok _) (.because _ _)
  · exact .because _ _

theorem isUnplaced_rangeOfBounds (low high step : Nat) :
    IsUnplaced (rangeOfBounds low high step) :=
  .ite _ (.because _ _) (.ite _ (.because _ _) (.ok _))

theorem isUnplaced_rangeOf (args : List Datum) : IsUnplaced (rangeOf args) := by
  unfold rangeOf
  split
  · exact .plain _
  · exact (isUnplaced_rangeBound _).bind fun _ => isUnplaced_rangeOfBounds _ _ _
  · exact (isUnplaced_rangeBound _).bind fun _ =>
      (isUnplaced_rangeBound _).bind fun _ => isUnplaced_rangeOfBounds _ _ _
  · exact (isUnplaced_rangeBound _).bind fun _ => (isUnplaced_rangeBound _).bind fun _ =>
      (isUnplaced_rangeBound _).bind fun _ => isUnplaced_rangeOfBounds _ _ _
  · exact .plain _

theorem isUnplaced_applyFilter (name : String) (d : Datum) (args : List Datum) :
    IsUnplaced (applyFilter name d args) := by
  refine .ite _ ?_ (.because _ _)
  unfold defaultFilter
  split
  · exact .ok _
  · exact .ok _
  · exact .ok _
  · exact .plain _

theorem isUnplaced_applyTest (name : String) (d : Datum) (args : List Datum) :
    IsUnplaced (applyTest name d args) := by
  unfold applyTest
  split
  · exact .ite _ (.ok _) (.plain _)
  · exact .because _ _

/-! ### Calls of routines -/

open Machine

theorem isUnplaced_argumentFor (given : Given) (index : Nat) (param : String) :
    IsUnplaced (argumentFor given index param) := by
  unfold argumentFor
  split
  · exact .because _ _
  · exact .ok _
  · exact .ok _
  · exact .ok _

theorem isUnplaced_argumentsFor (given : Given) : ∀ (params : List String) (index : Nat),
    IsUnplaced (argumentsFor given index params)
  | [], _ => .ok _
  | param :: rest, index => (isUnplaced_argumentFor given index param).bind fun _ =>
      (isUnplaced_argumentsFor given rest (index + 1)).bind fun _ => .ok _

theorem isUnplaced_bindArguments (params : List String) (given : Given) :
    IsUnplaced (bindArguments params given) := by
  refine .ite _ (.plain _) ((isUnplaced_argumentsFor given params 0).bind fun _ => ?_)
  split
  · exact .because _ _
  · exact .ok _

end ChartRender.Template
