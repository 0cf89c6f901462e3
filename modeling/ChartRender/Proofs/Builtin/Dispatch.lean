import ChartRender.Proofs.Builtin.TypeTests
import ChartRender.Proofs.Quantity.Grammar
/-!
# Calls by name

A call looks up the builtin, counts the arguments and only then reads them, by their positions. Here it
is spelled out with these readings (`Builtin.dispatch`), each of which has no result where no argument
stands; none of them goes past the arguments (`Builtin.dispatch_eq_call`).

What can go wrong is what `Builtin.Refuses` lists, and what is checked first goes wrong first: a number
of arguments that the builtin does not take hides what the arguments are, a name that is no type hides
what is asserted, and a mantissa that is no number hides the unit (`Builtin.call_dispatched`).

Key definitions: `Builtin.entry`, `Builtin.dispatch`, `Builtin.Refuses`, `Builtin.Dispatched`.
Key theorems: `Builtin.dispatch_eq_call`, `Builtin.apply_eq_error_iff`,
`Builtin.call_eq_unknownBuiltin_iff`, `Builtin.apply_eq_arity_iff`, `Builtin.call_dispatched`.
-/

namespace ChartRender
namespace Builtin

/-! ### Reading arguments by position -/

/-- A reading of arguments, which has no result where it goes past them. -/
abbrev Reading (α : Type) : Type := ExceptT Failure Option α

/-- The argument at a position. -/
def argument (args : List Value) (i : Nat) : Reading Value := ExceptT.lift args[i]?

/-- What does not read arguments. -/
def checked {α : Type} (r : Except Failure α) : Reading α := ExceptT.mk (some r)

/-- A mismatch is one of the type as it was given. -/
def renameExpected (text : String) : Failure → Failure
  | .typeMismatch _ actual => .typeMismatch text actual
  | f => f

/-- Applies a builtin to arguments that are read by their positions, in the order of the checks. -/
def entry (b : Builtin) (args : List Value) : Reading Value :=
  match b with
  | .compact => do
    let v ← argument args 0
    match v with
    | .list items => return .map (Value.pack items)
    | v => checked (.error (.typeMismatch TypeName.list.text v.kindName))
  | .deref => do
    let v ← argument args 0
    checked v.deref
  | .dictTest => do
    let key ← argument args 1
    let key ← checked key.toText
    let m ← argument args 0
    let zero ← argument args 2
    return Value.pair (m.dictTest key zero)
  | .isIntLikeFloat => do
    let v ← argument args 0
    return .bool v.isIntegralNumber
  | .len => do
    let v ← argument args 0
    return .int (Int64.ofNat v.length)
  | .ptrDeref => do
    let v ← argument args 0
    let default ← argument args 1
    return v.derefD default
  | .ptrEqual => do
    let a ← argument args 0
    let b ← argument args 1
    return .bool (a.pointsToSame b)
  | .quantityCount => do
    let v ← argument args 0
    let (count, ok) ← checked (Quantity.toInt64 v)
    return Value.pair (.int count, ok)
  | .quantityCheck => do
    let v ← argument args 0
    checked (Quantity.validate v)
  | .typeAssertion => do
    let name ← argument args 0
    let text ← checked name.toText
    let t ← checked (TypeName.ofText text)
    let v ← argument args 1
    checked ((t.assert v).mapError (renameExpected text))
  | .typeTest => do
    let name ← argument args 0
    let text ← checked name.toText
    let t ← checked (TypeName.ofText text)
    let v ← argument args 1
    let zero ← argument args 2
    return Value.pair (t.test v zero)

/-- Calls the builtin with a name: it is looked up, the arguments are counted, and then they are
read. -/
def dispatch (name : String) (args : List Value) : Reading Value := do
  let b ← checked (ofName name)
  if args.length = b.arity then b.entry args
  else checked (.error (.arity b.name b.arity args.length))

theorem checked_bind {α β : Type} (r : Except Failure α) (f : α → Except Failure β) :
    checked (r >>= f) = checked r >>= fun a => checked (f a) := by
  cases r <;> rfl

/-- An assertion that fails names the type as it was given. -/
theorem assertNamed_eq (name v : Value) : assertNamed name v = (do
    let text ← name.toText
    let t ← TypeName.ofText text
    (t.assert v).mapError (renameExpected text)) := by
  unfold assertNamed
  congr 1
  funext text
  congr 1
  funext t
  by_cases h : t.accepts v = true
  · obtain ⟨w, hw⟩ := TypeName.exists_assert h
    rw [hw]
    rfl
  · rw [TypeName.assert_of_not_accepts h]
    rfl

/-- **Builtins read no further than their arguments go.** -/
theorem entry_eq_apply {b : Builtin} {args : List Value} (h : args.length = b.arity) :
    b.entry args = checked (b.apply args) := by
  cases b with
  | compact =>
    obtain ⟨v, rfl⟩ := List.length_eq_one_iff.mp h
    cases v <;> rfl
  | dictTest =>
    obtain ⟨m, key, zero, rfl⟩ := List.length_eq_three.mp h
    exact (checked_bind key.toText fun key => .ok (Value.pair (m.dictTest key zero))).symm
  | quantityCount =>
    obtain ⟨v, rfl⟩ := List.length_eq_one_iff.mp h
    exact (checked_bind (Quantity.toInt64 v) fun r => .ok (Value.pair (.int r.1, r.2))).symm
  | typeAssertion =>
    obtain ⟨name, v, rfl⟩ := List.length_eq_two.mp h
    simp only [apply, assertNamed_eq, checked_bind]
    rfl
  | typeTest =>
    obtain ⟨name, v, zero, rfl⟩ := List.length_eq_three.mp h
    simp only [apply, checked_bind]
    rfl
  | deref | isIntLikeFloat | len | quantityCheck =>
    obtain ⟨v, rfl⟩ := List.length_eq_one_iff.mp h
    rfl
  | ptrDeref | ptrEqual =>
    obtain ⟨v, w, rfl⟩ := List.length_eq_two.mp h
    rfl

-- A builtin that is handed too few has no result; only the count in front of it prevents that.
example : deref.entry [] = ExceptT.mk none := rfl

/-- **A call reads no argument that is not there**, and gives what the call gives. -/
theorem dispatch_eq_call (name : String) (args : List Value) :
    dispatch name args = checked (call name args) := by
  rw [dispatch, call, checked_bind]
  congr 1
  funext b
  split_ifs with h
  · exact entry_eq_apply h
  · rw [apply_of_length_ne h]

/-! ### What can go wrong -/

/-- For these arguments a builtin gives no result, for this cause. -/
inductive Refuses : Builtin → List Value → Failure → Prop
  | testType {name : Value} {f : Failure} (v zero : Value) (h : IsTypeFailure name f) :
    Refuses .typeTest [name, v, zero] f
  | assertType {name : Value} {f : Failure} (v : Value) (h : IsTypeFailure name f) :
    Refuses .typeAssertion [name, v] f
  | mismatch {text : String} {t : TypeName} {v : Value} (ht : TypeName.ofText? text = some t)
    (hv : ¬ t.accepts v = true) :
    Refuses .typeAssertion [.string text, v] (.typeMismatch text v.kindName)
  | key {key : Value} (m zero : Value) (h : ∀ text, key ≠ .string text) :
    Refuses .dictTest [m, key, zero] (.typeMismatch "string" key.kindName)
  | items {v : Value} (h : ∀ items, v ≠ .list items) :
    Refuses .compact [v] (.typeMismatch "list" v.kindName)
  | null : Refuses .deref [.null] .nilDereference
  | checkType {v : Value} (h : ∀ text, v ≠ .string text) :
    Refuses .quantityCheck [v] (.quantityType "string" v.kindName)
  | checkFormat {text : String} (h : text.toList ∉ Quantity.grammar) :
    Refuses .quantityCheck [.string text] (.quantityFormat text)
  | countType {v : Value} (hs : ∀ text, v ≠ .string text) (hx : ∀ x, v ≠ .number x)
    (hi : ∀ i, v ≠ .int i) :
    Refuses .quantityCount [v] (.quantityType "string or number" v.kindName)
  | countFormat {text : String} (h : Binary64.ofText? (Quantity.split text).1 = none) :
    Refuses .quantityCount [.string text] (.quantityFormat text)
  | countUnit {text : String} {x : Binary64}
    (hx : Binary64.ofText? (Quantity.split text).1 = some x)
    (h : Quantity.Unit.ofText? (Quantity.split text).2 = none) :
    Refuses .quantityCount [.string text] (.unknownUnit (Quantity.split text).2 text)

/-- Only a text is one. -/
theorem toText_of_ne_string {v : Value} (h : ∀ text, v ≠ .string text) :
    v.toText = .error (.typeMismatch "string" v.kindName) := by
  cases v with
  | string text => exact absurd rfl (h text)
  | _ => rfl

/-- An argument that names no type is refused for one reason. -/
theorem IsTypeFailure.unique {name : Value} {f f' : Failure} (h : IsTypeFailure name f)
    (h' : IsTypeFailure name f') : f = f' := by
  rcases h with ⟨hne, rfl⟩ | ⟨text, rfl, -, rfl⟩
  · rcases h' with ⟨-, rfl⟩ | ⟨text, he, -, -⟩
    · rfl
    · exact absurd he (hne text)
  · rcases h' with ⟨hne, -⟩ | ⟨text', he, -, rfl⟩
    · exact absurd rfl (hne text)
    · rw [Value.string.inj he]

/-- The type test and the type assertion fail for it. -/
theorem IsTypeFailure.apply {name : Value} {f : Failure} (h : IsTypeFailure name f)
    (v zero : Value) : typeTest.apply [name, v, zero] = .error f ∧
      typeAssertion.apply [name, v] = .error f := by
  have hnone : ∀ text, name = .string text → TypeName.ofText? text = none := by
    rintro text rfl
    rcases h with ⟨hne, -⟩ | ⟨text', he, hunknown, -⟩
    · exact absurd rfl (hne text)
    · rw [Value.string.inj he]
      exact TypeName.ofText?_eq_none_iff.mpr hunknown
  -- both fail alike, and what they fail for is the one reason there is
  obtain ⟨f', htest, hassert, h'⟩ := exists_typeFailure hnone v zero
  rw [h.unique h']
  exact ⟨htest, hassert⟩

/-- What an argument names is a type, or it fails for a reason. -/
theorem names_type_or_fails (name : Value) :
    (∃ text t, name = .string text ∧ TypeName.ofText? text = some t) ∨
      ∃ f, IsTypeFailure name f := by
  by_cases hknown : ∃ text t, name = .string text ∧ TypeName.ofText? text = some t
  · exact .inl hknown
  · refine .inr ((exists_typeFailure (fun text he => ?_) .null .null).imp fun f hf => hf.2.2)
    exact Option.eq_none_iff_forall_ne_some.mpr fun t ht => hknown ⟨text, t, he, ht⟩

section
variable {b : Builtin} {args : List Value} {f : Failure}

/-- **What is refused fails**, for the same cause. -/
theorem Refuses.apply (h : Refuses b args f) : b.apply args = .error f := by
  cases h with
  | testType v zero h => exact (h.apply v zero).1
  | assertType v h => exact (h.apply v .null).2
  | mismatch ht hv => exact apply_typeAssertion_of_not_accepts ht hv
  | key m zero h =>
    rw [Builtin.apply, toText_of_ne_string h]
    rfl
  | @items v h =>
    cases v with
    | list items => exact absurd rfl (h items)
    | _ => rfl
  | null => rfl
  | @checkType v h =>
    cases v with
    | string text => exact absurd rfl (h text)
    | _ => rfl
  | checkFormat h =>
    rw [Builtin.apply, Quantity.validate_string,
      if_neg (mt Quantity.isWellFormed_iff_mem_grammar.mp h)]
  | @countType v hs hx hi =>
    cases v with
    | string text => exact absurd rfl (hs text)
    | number x => exact absurd rfl (hx x)
    | int i => exact absurd rfl (hi i)
    | _ => rfl
  | countFormat h => simp [Builtin.apply, Quantity.toInt64, Quantity.ofText, h, bind, Except.bind]
  | countUnit hx h =>
    simp [Builtin.apply, Quantity.toInt64, Quantity.ofText, hx, h, bind, Except.bind]

/-- **What is not refused gives a result.** -/
theorem apply_or_refuses (hl : args.length = b.arity) :
    (∃ r, b.apply args = .ok r) ∨ ∃ f, Refuses b args f := by
  cases b with
  | compact =>
    obtain ⟨v, rfl⟩ := List.length_eq_one_iff.mp hl
    cases v with
    | list items => exact .inl ⟨_, rfl⟩
    | _ => exact .inr ⟨_, .items (by simp)⟩
  | deref =>
    obtain ⟨v, rfl⟩ := List.length_eq_one_iff.mp hl
    cases v with
    | null => exact .inr ⟨_, .null⟩
    | _ => exact .inl ⟨_, rfl⟩
  | dictTest =>
    obtain ⟨m, key, zero, rfl⟩ := List.length_eq_three.mp hl
    cases key with
    | string text => exact .inl ⟨_, rfl⟩
    | _ => exact .inr ⟨_, .key m zero (by simp)⟩
  | quantityCheck =>
    obtain ⟨v, rfl⟩ := List.length_eq_one_iff.mp hl
    cases v with
    | string text =>
      by_cases hw : text.toList ∈ Quantity.grammar
      · exact .inl ⟨_, if_pos (Quantity.isWellFormed_iff_mem_grammar.mpr hw)⟩
      · exact .inr ⟨_, .checkFormat hw⟩
    | _ => exact .inr ⟨_, .checkType (by simp)⟩
  | quantityCount =>
    obtain ⟨v, rfl⟩ := List.length_eq_one_iff.mp hl
    cases v with
    | number x => exact .inl ⟨_, rfl⟩
    | int i => exact .inl ⟨_, rfl⟩
    | string text =>
      cases hx : Binary64.ofText? (Quantity.split text).1 with
      | none => exact .inr ⟨_, .countFormat hx⟩
      | some x =>
        cases hu : Quantity.Unit.ofText? (Quantity.split text).2 with
        | none => exact .inr ⟨_, .countUnit hx hu⟩
        | some u =>
          have hcount := Quantity.ofText_of_some hx hu
          left
          simp only [apply, Quantity.toInt64, hcount]
          exact ⟨_, rfl⟩
    | _ => exact .inr ⟨_, .countType (by simp) (by simp) (by simp)⟩
  | typeAssertion =>
    obtain ⟨name, v, rfl⟩ := List.length_eq_two.mp hl
    rcases names_type_or_fails name with ⟨text, t, rfl, ht⟩ | ⟨f, hf⟩
    · by_cases ha : t.accepts v = true
      · exact .inl (apply_typeAssertion_of_accepts ht ha)
      · exact .inr ⟨_, .mismatch ht ha⟩
    · exact .inr ⟨f, .assertType v hf⟩
  | typeTest =>
    obtain ⟨name, v, zero, rfl⟩ := List.length_eq_three.mp hl
    rcases names_type_or_fails name with ⟨text, t, rfl, ht⟩ | ⟨f, hf⟩
    · exact .inl ⟨_, apply_typeTest ht v zero⟩
    · exact .inr ⟨f, .testType v zero hf⟩
  | isIntLikeFloat | len =>
    obtain ⟨v, rfl⟩ := List.length_eq_one_iff.mp hl
    exact .inl ⟨_, rfl⟩
  | ptrDeref | ptrEqual =>
    obtain ⟨v, w, rfl⟩ := List.length_eq_two.mp hl
    exact .inl ⟨_, rfl⟩

/-- **A builtin fails exactly for what it refuses.** -/
theorem apply_eq_error_iff (hl : args.length = b.arity) :
    b.apply args = .error f ↔ Refuses b args f := by
  refine ⟨fun h => ?_, Refuses.apply⟩
  rcases apply_or_refuses hl with ⟨r, hr⟩ | ⟨f', hf⟩
  · rw [hr] at h
    cases h
  · rw [hf.apply] at h
    obtain rfl := Except.error.inj h
    exact hf

/-- A cause for which a builtin refuses its arguments is neither that it is not known nor their
number. -/
theorem Refuses.of_arguments (h : Refuses b args f) :
    (∀ name, f ≠ .unknownBuiltin name) ∧ ∀ name expected actual, f ≠ .arity name expected actual := by
  cases h with
  | testType _ _ h | assertType _ h =>
    rcases h with ⟨-, rfl⟩ | ⟨_, -, -, rfl⟩
    · simp
    · simp
  | _ => simp

end

/-! ### Calls -/

/-- A call fails for the name exactly if no builtin has it. -/
theorem call_eq_unknownBuiltin_iff {name text : String} {args : List Value} :
    call name args = .error (.unknownBuiltin text) ↔ text = name ∧ ∀ b : Builtin, b.name ≠ name := by
  by_cases hknown : ∃ b : Builtin, b.name = name
  · obtain ⟨b, rfl⟩ := hknown
    refine iff_of_false (fun h => ?_) fun h => h.2 b rfl
    rw [call_name] at h
    by_cases hl : args.length = b.arity
    · exact ((apply_eq_error_iff hl).mp h).of_arguments.1 text rfl
    · rw [apply_of_length_ne hl] at h
      cases h
  · have hunknown : ∀ b : Builtin, b.name ≠ name := not_exists.mp hknown
    rw [call, ofName_of_unknown hunknown]
    constructor
    · rintro ⟨⟩
      exact ⟨rfl, hunknown⟩
    · rintro ⟨rfl, -⟩
      rfl

/-- A builtin fails for the number of arguments exactly if it does not take so many. -/
theorem apply_eq_arity_iff {b : Builtin} {args : List Value} {text : String}
    {expected actual : Nat} : b.apply args = .error (.arity text expected actual) ↔
      args.length ≠ b.arity ∧ text = b.name ∧ expected = b.arity ∧ actual = args.length := by
  by_cases hl : args.length = b.arity
  · refine iff_of_false (fun h => ?_) fun h => h.1 hl
    exact ((apply_eq_error_iff hl).mp h).of_arguments.2 _ _ _ rfl
  · rw [apply_of_length_ne hl]
    constructor
    · rintro ⟨⟩
      exact ⟨hl, rfl, rfl, rfl⟩
    · rintro ⟨-, rfl, rfl, rfl⟩
      rfl

/-- What holds of a call, whatever name and arguments are given. -/
structure Dispatched (name : String) (args : List Value) : Prop where
  /-- No argument is read that is not there. -/
  inside : dispatch name args = checked (call name args)
  /-- A name that is not known fails as that, and nothing else does. -/
  unknown : ∀ text, call name args = .error (.unknownBuiltin text) ↔
    text = name ∧ ∀ b : Builtin, b.name ≠ name
  /-- A wrong number of arguments fails as that, whatever they are, and nothing else does. -/
  arity : ∀ b : Builtin, b.name = name → ∀ text expected actual,
    call name args = .error (.arity text expected actual) ↔
      args.length ≠ b.arity ∧ text = name ∧ expected = b.arity ∧ actual = args.length
  /-- With the right number of them the call fails exactly for what the builtin refuses. -/
  refused : ∀ b : Builtin, b.name = name → args.length = b.arity →
    ∀ f, call name args = .error f ↔ Refuses b args f
  /-- Some builtins refuse nothing. -/
  total : ∀ b ∈ [isIntLikeFloat, len, ptrDeref, ptrEqual], b.name = name →
    args.length = b.arity → ∃ r, call name args = .ok r

/-- **Calls never read past their arguments, and fail for the first check that goes wrong.** -/
theorem call_dispatched (name : String) (args : List Value) : Dispatched name args where
  inside := dispatch_eq_call name args
  unknown _ := call_eq_unknownBuiltin_iff
  arity := by
    rintro b rfl text expected actual
    rw [call_name]
    exact apply_eq_arity_iff
  refused := by
    rintro b rfl hl f
    rw [call_name]
    exact apply_eq_error_iff hl
  total := by
    rintro b hb rfl hl
    rw [call_name]
    refine (apply_or_refuses hl).resolve_right ?_
    rintro ⟨f, hf⟩
    cases hf <;> simp at hb

/-- The number of arguments is checked before them, and a mantissa before its unit. -/
example : call "deref" [.null, .null] = .error (.arity "deref" 1 2) ∧
    call "resource_AsInt64" [.string "xQ"] = .error (.quantityFormat "xQ") ∧
    call "resource_AsInt64" [.string "1Q"] = .error (.unknownUnit "Q" "1Q") := by
  decide +kernel

end Builtin
end ChartRender
