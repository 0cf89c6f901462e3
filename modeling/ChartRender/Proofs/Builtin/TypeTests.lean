import ChartRender.Proofs.Builtin.Application
import ChartRender.Proofs.TypeName
/-!
# Type tests and assertions agree

The type test and the type assertion read the same type from their first argument and fail alike if
it names none. They decide apart whether a value has the type, the assertion with a cast of numbers in
front, and come to the same: what the test finds can be asserted, and nothing else. A failed assertion
names the type as it was given, and a type that the value has.

Key definitions: `Builtin.IsTypeFailure`.
Key theorems: `Builtin.exists_typeFailure`, `Builtin.typeTest_agrees_typeAssertion`.
-/

namespace ChartRender
namespace Builtin

/-! ### Reading the type -/

/-- The failure of an argument that names no type: it is no text, or a text that is not known. -/
def IsTypeFailure (name : Value) (f : Failure) : Prop :=
  (∀ text, name ≠ .string text) ∧ f = .typeMismatch "string" name.kindName ∨
    ∃ text, name = .string text ∧ text ∉ TypeName.names.map Prod.fst ∧ f = .unknownType text

section
variable {name v zero : Value} {text : String} {t : TypeName}

/-- **What names no type fails alike** in the test and in the assertion. -/
theorem exists_typeFailure (h : ∀ text, name = .string text → TypeName.ofText? text = none)
    (v zero : Value) : ∃ f, typeTest.apply [name, v, zero] = .error f ∧
      typeAssertion.apply [name, v] = .error f ∧ IsTypeFailure name f := by
  cases name with
  | string text =>
    have hnone := h text rfl
    have hfail := TypeName.ofText_of_none hnone
    refine ⟨.unknownType text, ?_, ?_,
      .inr ⟨text, rfl, TypeName.ofText?_eq_none_iff.mp hnone, rfl⟩⟩
    · simp [apply, Value.toText, hfail, bind, Except.bind]
    · simp [apply, assertNamed, Value.toText, hfail, bind, Except.bind]
  | _ => exact ⟨_, rfl, rfl, .inl ⟨by simp, rfl⟩⟩

theorem apply_typeTest (h : TypeName.ofText? text = some t) (v zero : Value) :
    typeTest.apply [.string text, v, zero] = .ok (Value.pair (t.test v zero)) := by
  simp [apply, Value.toText, TypeName.ofText_of_some h, bind, Except.bind, pure, Except.pure]

theorem apply_typeTest_of_accepts (h : TypeName.ofText? text = some t) (ha : t.accepts v = true)
    (zero : Value) : typeTest.apply [.string text, v, zero] = .ok (.list [v, .bool true]) := by
  rw [apply_typeTest h, TypeName.test, if_pos ha]
  rfl

theorem apply_typeAssertion_of_accepts (h : TypeName.ofText? text = some t)
    (ha : t.accepts v = true) : ∃ w, typeAssertion.apply [.string text, v] = .ok w := by
  obtain ⟨w, hw⟩ := TypeName.exists_assert ha
  refine ⟨w, ?_⟩
  simp [apply, assertNamed, Value.toText, TypeName.ofText_of_some h, hw, bind, Except.bind]

theorem apply_typeAssertion_of_not_accepts (h : TypeName.ofText? text = some t)
    (ha : ¬ t.accepts v = true) : typeAssertion.apply [.string text, v] =
      .error (.typeMismatch text v.kindName) := by
  have hfail := TypeName.assert_of_not_accepts ha
  simp [apply, assertNamed, Value.toText, TypeName.ofText_of_some h, hfail, bind, Except.bind]

end

/-! ### The agreement -/

/-- **Type tests and type assertions agree.** Both fail alike, for want of a type; or the test finds
the value and the assertion succeeds; or the test gives the zero value, and the assertion fails with the
type as it was given and a type for which the test finds the value. -/
theorem typeTest_agrees_typeAssertion (name v zero : Value) :
    (∃ f, call "typetest" [name, v, zero] = .error f ∧ call "typeassertion" [name, v] = .error f ∧
      IsTypeFailure name f) ∨
    (∃ w, call "typetest" [name, v, zero] = .ok (.list [v, .bool true]) ∧
      call "typeassertion" [name, v] = .ok w) ∨
    ∃ text actual, name = .string text ∧
      call "typetest" [name, v, zero] = .ok (.list [zero, .bool false]) ∧
      call "typeassertion" [name, v] = .error (.typeMismatch text actual) ∧
      ∀ other, call "typetest" [.string actual, v, other] = .ok (.list [v, .bool true]) := by
  have htest : ∀ args, call "typetest" args = typeTest.apply args := call_name .typeTest
  have hassert : ∀ args, call "typeassertion" args = typeAssertion.apply args :=
    call_name .typeAssertion
  simp only [htest, hassert]
  by_cases hknown : ∃ text t, name = .string text ∧ TypeName.ofText? text = some t
  · obtain ⟨text, t, rfl, ht⟩ := hknown
    by_cases ha : t.accepts v = true
    · obtain ⟨w, hw⟩ := apply_typeAssertion_of_accepts ht ha
      exact .inr (.inl ⟨w, apply_typeTest_of_accepts ht ha zero, hw⟩)
    · obtain ⟨actual, hactual, hv⟩ := TypeName.exists_accepts_kindName v
      have hzero : typeTest.apply [.string text, v, zero] = .ok (.list [zero, .bool false]) := by
        rw [apply_typeTest ht, TypeName.test, if_neg ha]
        rfl
      exact .inr (.inr ⟨text, v.kindName, rfl, hzero, apply_typeAssertion_of_not_accepts ht ha,
        apply_typeTest_of_accepts hactual hv⟩)
  · have hnone : ∀ text, name = .string text → TypeName.ofText? text = none := fun text he =>
      Option.eq_none_iff_forall_ne_some.mpr fun t ht => hknown ⟨text, t, he, ht⟩
    exact .inl (exists_typeFailure hnone v zero)

end Builtin
end ChartRender
