import ChartRender.Diagnostic
import ChartRender.Proofs.Builtin.Application
import ChartRender.Template.Function
/-!
# What diagnostics tell

A diagnostic goes by the first failure of a builtin among the causes of a fault, and by the kind of
the fault only if there is none. The suggestion that lists the builtins belongs to faults of an
unknown method behind which there is no failure (`Diagnostic.listsBuiltins_ofFault_iff`). The fault of
a builtin that does not exist is of that kind, but carries a failure that says so, and is reported as
that failure (`Diagnostic.ofFault_unknownBuiltin`).

Key definitions: `Diagnostic.ListsBuiltins`.
Key theorems: `Diagnostic.listsBuiltins_ofFault_iff`, `Diagnostic.ofFault_unknownBuiltin`.
-/

namespace ChartRender

open Template

namespace Diagnostic

variable {fault : Fault}

/-! ### Failures and faults -/

theorem ofFault_of_failure {f : Failure} (h : fault.failure? = some f) (name source : String) :
    ofFault fault name source = ⟨.builtin, "shim failed: " ++ f.message, some f, name, source,
      fault.place.bind fun place => Text.lineSpan source place.line, f.help?⟩ := by
  rw [ofFault, h]

theorem ofFault_of_no_failure (h : fault.failure? = none) (name source : String) :
    ofFault fault name source = ⟨.ofKind fault.kind, wording fault.text, none, name, source,
      fault.place.bind fun place => Text.lineSpan source place.line,
      (Category.ofKind fault.kind).suggestion?⟩ := by
  rw [ofFault, h]

/-! ### The list of builtins -/

/-- A diagnostic that tells of an unknown method and suggests the builtins, all of them in the order of
their names. -/
structure ListsBuiltins (d : Diagnostic) : Prop where
  category : d.category = .unknownMethod
  suggestion : ∃ names : List String, names.Pairwise (· < ·) ∧
    (∀ text, text ∈ names ↔ ∃ b : Builtin, b.name = text) ∧
    d.suggestion = some ("Available shims: " ++ Text.join ", " names)

theorem category_ofKind_eq_unknownMethod {kind : FaultKind} :
    Category.ofKind kind = .unknownMethod ↔ kind = .unknownMethod := by
  cases kind <;> simp [Category.ofKind]

/-- **The builtins are listed for unknown methods behind which there is no failure**, and for nothing
else. -/
theorem listsBuiltins_ofFault_iff (fault : Fault) (name source : String) :
    ListsBuiltins (ofFault fault name source) ↔
      fault.kind = .unknownMethod ∧ fault.failure? = none := by
  cases h : fault.failure? with
  | some f =>
    refine iff_of_false (fun hd => ?_) (by simp)
    have := hd.category
    rw [ofFault_of_failure h] at this
    cases this
  | none =>
    rw [and_iff_left rfl, ofFault_of_no_failure h]
    constructor
    · exact fun hd => category_ofKind_eq_unknownMethod.mp hd.category
    · intro hk
      exact ⟨category_ofKind_eq_unknownMethod.mpr hk, Builtin.all.map Builtin.name,
        Builtin.names_ascending, fun _ => Builtin.mem_names_iff, by rw [hk]; rfl⟩

/-- **A builtin that does not exist is reported as a failed builtin**, with nothing to suggest, wherever
it is called. The fault is that of an unknown method, and without the failure that is its cause it
would be reported as such, with the builtins that there are. -/
theorem ofFault_unknownBuiltin {method : String} (h : ∀ b : Builtin, b.name ≠ method)
    (args : List Datum) :
    ∃ fault, callBuiltin method args = .error fault ∧ fault.kind = .unknownMethod ∧
      ∀ place name source,
        ofFault { fault with place := place } name source =
          ⟨.builtin, "shim failed: " ++ (Failure.unknownBuiltin method).message,
            some (.unknownBuiltin method), name, source,
            place.bind fun place => Text.lineSpan source place.line, none⟩ ∧
        ListsBuiltins (ofFault { fault with place := place, causes := [] } name source) := by
  refine ⟨_, by rw [callBuiltin, Builtin.ofName_of_unknown h], rfl, fun place name source => ⟨?_, ?_⟩⟩
  · exact ofFault_of_failure rfl name source
  · exact (listsBuiltins_ofFault_iff _ name source).mpr ⟨rfl, rfl⟩

/-- The switch on types of the typed language is no builtin. -/
theorem ofFault_unknownBuiltin_typeswitch : ∃ fault,
    callBuiltin "typeswitch" [.int 1] = .error fault ∧
      (ofFault fault "t" "x").category = .builtin ∧ (ofFault fault "t" "x").suggestion = none := by
  have hname : ∀ b : Builtin, b.name ≠ "typeswitch" := fun b => by cases b <;> decide
  obtain ⟨fault, hcall, -, hreport⟩ := ofFault_unknownBuiltin hname [.int 1]
  have hd := (hreport fault.place "t" "x").1
  exact ⟨fault, hcall, congrArg category hd, congrArg suggestion hd⟩

/-- Not every builtin that does not exist is reported as an unknown method with a list of those that
do. -/
theorem unknownBuiltin_unlisted :
    ¬ ∀ (method : String) (args : List Datum) (name source : String),
      (∀ b : Builtin, b.name ≠ method) →
      ∃ fault, callBuiltin method args = .error fault ∧ ListsBuiltins (ofFault fault name source) := by
  intro h
  have hname : ∀ b : Builtin, b.name ≠ "typeswitch" := fun b => by cases b <;> decide
  obtain ⟨fault, hcall, hlists⟩ := h "typeswitch" [.int 1] "t" "x" hname
  rw [callBuiltin, Builtin.ofName_of_unknown hname] at hcall
  obtain rfl := Except.error.inj hcall
  have hnone := ((listsBuiltins_ofFault_iff _ _ _).mp hlists).2
  cases hnone

end Diagnostic
end ChartRender
