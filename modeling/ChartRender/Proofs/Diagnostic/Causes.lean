import ChartRender.Proofs.Diagnostic
/-!
# Failures behind faults

A failed builtin is found behind a fault however many causes of other kinds lie between the two, and
it is the nearest one that is told of (`Template.FirstFailure`). Faults that are wrapped around a fault,
as an include does with what went wrong in it, add one cause each, none of which is a failure
(`Template.Fault.failure?_wrappedAll`). Without a failure nothing but the kind of the outermost fault
decides on the category and on what is suggested.

Key definitions: `Template.FirstFailure`, `Template.Fault.wrappedAll`, `Diagnostic.TellsFailure`,
`Diagnostic.GoesByKind`.
Key theorems: `Template.Fault.failure?_eq_some_iff`, `Template.Fault.failure?_wrappedAll`,
`Diagnostic.ofFault_finds_failure`.
-/

namespace ChartRender
namespace Template

/-! ### Chains of causes -/

/-- The first failure of a builtin in a chain of causes, from the nearest cause on. -/
inductive FirstFailure (f : Failure) : List Cause → Prop
  | here (rest : List Cause) : FirstFailure f (.failure f :: rest)
  | behind {cause : Cause} {rest : List Cause} (hc : ∀ g, cause ≠ .failure g)
      (h : FirstFailure f rest) : FirstFailure f (cause :: rest)

namespace FirstFailure

variable {f g : Failure} {cause : Cause} {rest : List Cause}

theorem mem {causes : List Cause} (h : FirstFailure f causes) : .failure f ∈ causes := by
  induction h with
  | here rest => exact List.mem_cons_self
  | behind _ _ ih => exact List.mem_cons_of_mem _ ih

theorem failure_iff : FirstFailure f (.failure g :: rest) ↔ g = f := by
  constructor
  · rintro (_ | ⟨hc, -⟩)
    · rfl
    · exact absurd rfl (hc g)
  · rintro rfl
    exact .here rest

/-- A cause that is no failure does not matter. -/
theorem behind_iff (hc : ∀ g, cause ≠ .failure g) :
    FirstFailure f (cause :: rest) ↔ FirstFailure f rest := by
  refine ⟨fun h => ?_, .behind hc⟩
  cases h with
  | here => exact absurd rfl (hc f)
  | behind _ h => exact h

end FirstFailure

namespace Fault

/-- **The failure that is found is the first one in the chain.** -/
theorem failure?_eq_some_iff {fault : Fault} {f : Failure} :
    fault.failure? = some f ↔ FirstFailure f fault.causes := by
  obtain ⟨kind, detail, place, causes⟩ := fault
  induction causes with
  | nil => exact iff_of_false (by simp [failure?]) fun h => by cases h
  | cons cause rest ih =>
    cases cause with
    | failure g => exact Option.some_inj.trans FirstFailure.failure_iff.symm
    | fault => exact ih.trans (FirstFailure.behind_iff (by simp)).symm
    | other => exact ih.trans (FirstFailure.behind_iff (by simp)).symm

theorem failure?_eq_none_iff {fault : Fault} :
    fault.failure? = none ↔ ∀ f, Cause.failure f ∉ fault.causes := by
  obtain ⟨kind, detail, place, causes⟩ := fault
  induction causes with
  | nil => exact iff_of_true rfl (by simp)
  | cons cause rest ih =>
    cases cause with
    | failure g => exact iff_of_false (by simp [failure?]) fun h => h g List.mem_cons_self
    | fault => exact ih.trans (by simp)
    | other => exact ih.trans (by simp)

/-! ### Wrappers -/

/-- A fault with others wrapped around it, each given by its kind and its detail, the last one
outermost. -/
def wrappedAll (fault : Fault) (layers : List (FaultKind × String)) : Fault :=
  layers.foldl (fun fault layer => fault.wrapped layer.1 layer.2) fault

theorem failure?_wrapped (fault : Fault) (kind : FaultKind) (detail : String) :
    (fault.wrapped kind detail).failure? = fault.failure? := rfl

/-- **A failure is found through any number of wrappers.** -/
theorem failure?_wrappedAll : ∀ (layers : List (FaultKind × String)) (fault : Fault),
    (fault.wrappedAll layers).failure? = fault.failure?
  | [], _ => rfl
  | layer :: layers, fault =>
    (failure?_wrappedAll layers (fault.wrapped layer.1 layer.2)).trans
      (failure?_wrapped fault layer.1 layer.2)

end Fault
end Template

open Template

namespace Diagnostic

/-! ### What is told -/

/-- A diagnostic that tells of a builtin's failure. -/
structure TellsFailure (f : Failure) (d : Diagnostic) : Prop where
  category : d.category = .builtin
  failure : d.failure = some f
  message : d.message = "shim failed: " ++ f.message
  suggestion : d.suggestion = f.help?

/-- A diagnostic without a failure, whose category and suggestion go by a kind of fault. -/
structure GoesByKind (kind : FaultKind) (d : Diagnostic) : Prop where
  failure : d.failure = none
  category : d.category = .ofKind kind
  suggestion : d.suggestion = (Category.ofKind kind).suggestion?

variable {fault : Fault}

theorem tellsFailure_ofFault {f : Failure} (h : fault.failure? = some f) (name source : String) :
    TellsFailure f (ofFault fault name source) := by
  rw [ofFault_of_failure h]
  exact ⟨rfl, rfl, rfl, rfl⟩

theorem goesByKind_ofFault (h : fault.failure? = none) (name source : String) :
    GoesByKind fault.kind (ofFault fault name source) := by
  rw [ofFault_of_no_failure h]
  exact ⟨rfl, rfl, rfl⟩

theorem ofKind_ne_builtin (kind : FaultKind) : Category.ofKind kind ≠ .builtin := by
  cases kind <;> decide

/-- **Failures are found through any number of wrappers.** A diagnostic is that of a failed builtin
exactly if a failure is among the causes. It then tells of the first one, with whatever is wrapped
around the fault; and if there is none, it goes by the kind of the fault. -/
theorem ofFault_finds_failure (fault : Fault) (name source : String) :
    ((ofFault fault name source).category = .builtin ↔ ∃ f, Cause.failure f ∈ fault.causes) ∧
    ((∃ f, Cause.failure f ∈ fault.causes) → ∃ f, FirstFailure f fault.causes ∧
      ∀ layers, TellsFailure f (ofFault (fault.wrappedAll layers) name source)) ∧
    ((∀ f, Cause.failure f ∉ fault.causes) → GoesByKind fault.kind (ofFault fault name source)) := by
  cases h : fault.failure? with
  | some f =>
    have hfirst : FirstFailure f fault.causes := Fault.failure?_eq_some_iff.mp h
    have htells : ∀ layers, TellsFailure f (ofFault (fault.wrappedAll layers) name source) :=
      fun layers => tellsFailure_ofFault ((Fault.failure?_wrappedAll layers fault).trans h) name source
    exact ⟨iff_of_true (htells []).category ⟨f, hfirst.mem⟩, fun _ => ⟨f, hfirst, htells⟩,
      fun hnone => absurd hfirst.mem (hnone f)⟩
  | none =>
    have hnone : ∀ f, Cause.failure f ∉ fault.causes := Fault.failure?_eq_none_iff.mp h
    have hkind := goesByKind_ofFault h name source
    have hcategory : (ofFault fault name source).category ≠ .builtin := fun hb =>
      ofKind_ne_builtin fault.kind (hkind.category.symm.trans hb)
    have hno : ¬ ∃ f, Cause.failure f ∈ fault.causes := fun ⟨f, hf⟩ => hnone f hf
    exact ⟨iff_of_false hcategory hno, fun hf => absurd hf hno, fun _ => hkind⟩

-- A pointer to nothing, followed in a template that is included by an included one.
example :
    (ofFault (((Fault.plain .invalidOperation).causedBy .nilDereference).wrappedAll
      [(.badInclude, "error in \"inner\""), (.badInclude, "error in \"outer\"")]) "t" "").suggestion =
    some "use ptr_Deref with a default when the value may be absent" := by decide +kernel

end Diagnostic
end ChartRender
