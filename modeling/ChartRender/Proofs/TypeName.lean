import ChartRender.Proofs.Value.Occurrence
import ChartRender.TypeName
/-!
# What type assertions give back

A value can be asserted to have a type exactly if it has it, and the kind that a failed assertion names
is a type that the value has (`TypeName.exists_accepts_kindName`).

An assertion that succeeds gives back the value itself, or the 64-bit integer that a number is cast
to (`TypeName.assert_cases`). The cast does not ask for the range of the integers: a number beyond it
becomes their nearest bound, and is not what it was any more. Everything else is equal to what was
asserted (`TypeName.assert_equals_iff`).

Key definitions: `TypeName.cast?`.
Key theorems: `TypeName.assert_eq`, `TypeName.exists_accepts_kindName`, `TypeName.assert_cases`,
`TypeName.assert_equals_iff`, `TypeName.assert_saturates`.
-/

namespace ChartRender
namespace TypeName

variable {t : TypeName} {v w : Value}

/-! ### Names -/

theorem ofText_of_some {text : String} (h : ofText? text = some t) : ofText text = .ok t := by
  rw [ofText, h]

theorem ofText_of_none {text : String} (h : ofText? text = none) :
    ofText text = .error (.unknownType text) := by
  rw [ofText, h]

/-- What stands for no type is no name in the table. -/
theorem ofText?_eq_none_iff {text : String} :
    ofText? text = none ↔ text ∉ names.map Prod.fst := by
  unfold ofText?
  rw [List.lookup_eq_none_iff, List.mem_map]
  constructor
  · rintro h ⟨p, hp, rfl⟩
    simpa using h p hp
  · exact fun h p hp => bne_iff_ne.mpr fun he => h ⟨p, hp, he.symm⟩

/-! ### Tests and assertions -/

/-- An integer type accepts the numbers without a fraction. -/
theorem accepts_number (ht : t.isInteger = true) (x : Binary64) :
    t.accepts (.number x) = x.isIntegral := by
  cases t with
  | int => rfl
  | int32 => rfl
  | int64 => rfl
  | _ => cases ht

/-- What a number without a fraction is cast to if it is to be an integer. -/
def cast? (t : TypeName) (v : Value) : Option Value :=
  match v with
  | .number x => if t.isInteger && x.isIntegral then some (.int x.toInt64) else none
  | _ => none

theorem cast?_eq_some (h : t.cast? v = some w) :
    ∃ x, t.isInteger = true ∧ v = .number x ∧ x.isIntegral = true ∧ w = .int x.toInt64 := by
  cases v with
  | number x =>
    rw [cast?] at h
    split_ifs at h with hc
    rw [Bool.and_eq_true] at hc
    exact ⟨x, hc.1, rfl, hc.2, (Option.some.inj h).symm⟩
  | _ => cases h

/-- The cast takes nothing that the type does not accept. -/
theorem accepts_of_cast (h : t.cast? v = some w) : t.accepts v = true := by
  obtain ⟨x, ht, rfl, hx, -⟩ := cast?_eq_some h
  rw [accepts_number ht, hx]

/-- **An assertion may as well cast first**, and test only what is not cast. -/
theorem assert_eq (t : TypeName) (v : Value) : t.assert v =
    match t.cast? v with
    | some w => .ok w
    | none => if t.accepts v then .ok v else .error (.typeMismatch t.text v.kindName) := by
  unfold assert
  cases hc : t.cast? v with
  | some w =>
    have ha := accepts_of_cast hc
    obtain ⟨x, ht, rfl, -, rfl⟩ := cast?_eq_some hc
    rw [if_pos ha, ht]
  | none =>
    by_cases ha : t.accepts v = true
    · rw [if_pos ha]
      split
      · -- an accepted number would have been cast
        rename_i x ht
        rw [accepts_number ht] at ha
        simp [cast?, ht, ha] at hc
      · exact (if_pos ha).symm
    · rw [if_neg ha]
      exact (if_neg ha).symm

/-- A number without a fraction is cast if it is asserted to be an integer. -/
theorem assert_number (ht : t.isInteger = true) {x : Binary64} (hx : x.isIntegral = true) :
    t.assert (.number x) = .ok (.int x.toInt64) := by
  rw [assert_eq, cast?, ht, hx]
  rfl

/-- A value that has the type can be asserted to have it. -/
theorem exists_assert (h : t.accepts v = true) : ∃ w, t.assert v = .ok w := by
  rw [assert_eq]
  cases t.cast? v with
  | some w => exact ⟨w, rfl⟩
  | none => exact ⟨v, if_pos h⟩

theorem assert_of_not_accepts (h : ¬ t.accepts v = true) :
    t.assert v = .error (.typeMismatch t.text v.kindName) := by
  have hcast : t.cast? v = none := Option.eq_none_iff_forall_ne_some.mpr fun w hw =>
    h (accepts_of_cast hw)
  rw [assert_eq, hcast]
  exact if_neg h

/-- **The kind of a value names a type that the value has.** -/
theorem exists_accepts_kindName (v : Value) :
    ∃ t, ofText? v.kindName = some t ∧ t.accepts v = true := by
  cases v with
  | null => exact ⟨.nil, rfl, rfl⟩
  | bool b => exact ⟨.bool, rfl, rfl⟩
  | number x => exact ⟨.float64, rfl, rfl⟩
  | int i => exact ⟨.int64, rfl, rfl⟩
  | string s => exact ⟨.string, rfl, rfl⟩
  | list items => exact ⟨.list, rfl, rfl⟩
  | map fields => exact ⟨.map, rfl, rfl⟩

/-! ### What comes back -/

/-- An assertion gives back the value, but for a number that is to be an integer. -/
theorem assert_cases (h : t.assert v = .ok w) :
    (∃ x, t.isInteger = true ∧ v = .number x ∧ x.isIntegral = true ∧ w = .int x.toInt64) ∨
      w = v ∧ ∀ x, t.isInteger = true → v ≠ .number x := by
  unfold assert at h
  split_ifs at h with ha
  split at h
  · rename_i x ht
    rw [accepts_number ht] at ha
    exact .inl ⟨x, ht, rfl, ha, (Except.ok.inj h).symm⟩
  · rename_i hne
    exact .inr ⟨(Except.ok.inj h).symm, hne⟩

/-- **What an assertion gives back is equal to what was asserted**, unless that is a number beyond
the range of 64-bit integers that is asserted to be an integer. -/
theorem assert_equals_iff (hd : v.HasDistinctKeys) (hn : ¬ v.HasNaN) (h : t.assert v = .ok w) :
    (w == v) = true ↔ ∀ x, t.isInteger = true → v = .number x →
      -2 ^ 63 ≤ x.truncate ∧ x.truncate ≤ 2 ^ 63 := by
  rcases assert_cases h with ⟨x, ht, rfl, hx, rfl⟩ | ⟨rfl, hne⟩
  · have hcast : (Value.int x.toInt64 == Value.number x) = true ↔ _ :=
      Binary64.beq_ofInt64_toInt64_iff hx
    rw [hcast]
    constructor
    · rintro hr y - he
      obtain rfl := Value.number.inj he
      exact hr
    · exact fun hr => hr x ht rfl
  · exact iff_of_true ((Value.equals_self_iff w hd).mpr hn) fun x ht he => absurd he (hne x ht)

/-- The least number beyond the range is equal to the greatest integer, which it becomes. -/
theorem assert_equals_iff_bound :
    int32.assert (.number (.ofInt (2 ^ 63))) = .ok (.int Int64.maxValue) ∧
      (Value.int Int64.maxValue == Value.number (.ofInt (2 ^ 63))) = true := by
  have ha : int32.assert (.number (.ofInt (2 ^ 63))) = .ok (.int Int64.maxValue) := by
    decide +kernel
  refine ⟨ha, (assert_equals_iff (by simp) (by simp) ha).mpr ?_⟩
  rintro x - he
  obtain rfl := Value.number.inj he
  decide +kernel

/-- Not every assertion that succeeds gives back an equal value: `10 ^ 19` becomes the greatest
64-bit integer. -/
theorem assert_saturates :
    ¬ ∀ (t : TypeName) (v w : Value), v.HasDistinctKeys → ¬ v.HasNaN → t.assert v = .ok w →
      (w == v) = true := by
  intro h
  have := h .int (.number (.ofInt (10 ^ 19))) (.int Int64.maxValue) (by simp)
    (by simp) (by decide +kernel)
  exact absurd this (by decide +kernel)

end TypeName
end ChartRender
