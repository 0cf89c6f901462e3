import ChartRender.Builtin
import ChartRender.Proofs.Result
import ChartRender.Proofs.TypeName
import ChartRender.Proofs.Value.Finite
/-!
# Applying builtins

Each builtin takes one number of arguments and refuses all others (`Builtin.apply_of_length_ne`).
Builtins take values apart and put them together, and what they make themselves are truth values,
texts and three kinds of integers (`Builtin.Makes`). So a result has every property that these have and
that lists, tuples and the fields of maps share with what is in them (`Value.PassedOn`), if the
arguments have it (`Builtin.passedOn_of_apply`). To have distinct keys is such a property, whatever the
integers are (`Value.Inherited`), since the keys of a tuple are distinct (`Value.tupleKey_injective`),
and so is to have no numbers but finite ones.

Key definitions: `Value.PassedOn`, `Value.Inherited`, `Builtin.Makes`.
Key theorems: `Value.keys_pack`, `Builtin.apply_of_length_ne`, `Builtin.passedOn_of_apply`,
`Builtin.inherited_of_apply`, `Builtin.hasDistinctKeys_of_apply`, `Builtin.isFinite_of_apply`.
-/

namespace ChartRender
namespace Value

theorem tupleKey_injective : Function.Injective tupleKey := by
  intro i j h
  have hl := congrArg String.toList h
  rw [tupleKey, tupleKey, String.toList_append, String.toList_append] at hl
  have hr : Nat.repr (i + 1) = Nat.repr (j + 1) := String.toList_inj.mp (List.append_cancel_left hl)
  exact Nat.succ_injective (Nat.repr_injective hr)

theorem keys_packFrom : ∀ (index : Nat) (items : List Value),
    Fields.keys (packFrom index items) = (List.range' index items.length).map tupleKey
  | _, [] => rfl
  | index, v :: rest => by
    rw [packFrom, Fields.keys_cons, keys_packFrom (index + 1) rest, List.length_cons,
      List.range'_succ, List.map_cons]

/-- **The keys of a tuple** are numbered from one to its length. -/
theorem keys_pack (items : List Value) :
    Fields.keys (pack items) = (List.range items.length).map tupleKey := by
  rw [pack, keys_packFrom, List.range_eq_range']

theorem mem_of_mem_packFrom : ∀ {index : Nat} {items : List Value} {p : String × Value},
    p ∈ packFrom index items → p.2 ∈ items
  | _, [], _, h => nomatch h
  | _, _ :: _, p, h => by
    rcases List.mem_cons.mp h with rfl | h
    · exact List.mem_cons_self
    · exact List.mem_cons_of_mem _ (mem_of_mem_packFrom h)

theorem hasDistinctKeys_pack {items : List Value} (h : ∀ v ∈ items, v.HasDistinctKeys) :
    HasDistinctKeys (.map (pack items)) := by
  refine hasDistinctKeys_map.mpr ⟨?_, fun p hp => h p.2 (mem_of_mem_packFrom hp)⟩
  rw [keys_pack]
  exact List.nodup_range.map tupleKey_injective

/-- A property of values that passes from what is in them to the values and back, as far as builtins
put them together and take them apart. -/
structure Inherited (P : Value → Prop) : Prop where
  bool : ∀ b, P (.bool b)
  int : ∀ i, P (.int i)
  string : ∀ s, P (.string s)
  list : ∀ {items}, P (.list items) ↔ ∀ v ∈ items, P v
  field : ∀ {v w key}, P v → Fields.get? v.fields key = some w → P w
  tuple : ∀ {items}, (∀ v ∈ items, P v) → P (.map (pack items))

theorem inherited_hasDistinctKeys : Inherited HasDistinctKeys where
  bool := hasDistinctKeys_bool
  int := hasDistinctKeys_int
  string := hasDistinctKeys_string
  list := hasDistinctKeys_list
  field h := h.get?_fields
  tuple := hasDistinctKeys_pack

theorem inherited_isFinite : Inherited fun v => v.isFinite = true where
  bool _ := rfl
  int _ := rfl
  string _ := rfl
  list := isFinite_list
  field {v w key} h hw := by
    cases v with
    | map fields => exact isFinite_map.mp h _ (Fields.mem_of_get? hw)
    | _ => cases hw
  tuple h := isFinite_map.mpr fun p hp => h p.2 (mem_of_mem_packFrom hp)

/-- A property of values that builtins pass on: the same, but not every integer has to have it. -/
structure PassedOn (P : Value → Prop) : Prop where
  bool : ∀ b, P (.bool b)
  string : ∀ s, P (.string s)
  list : ∀ {items}, P (.list items) ↔ ∀ v ∈ items, P v
  field : ∀ {v w key}, P v → Fields.get? v.fields key = some w → P w
  tuple : ∀ {items}, (∀ v ∈ items, P v) → P (.map (pack items))

theorem Inherited.passedOn {P : Value → Prop} (hP : Inherited P) : PassedOn P where
  bool := hP.bool
  string := hP.string
  list := hP.list
  field := hP.field
  tuple := hP.tuple

namespace PassedOn

variable {P : Value → Prop} (hP : PassedOn P)
include hP

theorem pair {v : Value} (h : P v) (ok : Bool) : P (pair (v, ok)) :=
  hP.list.mpr (by simpa using ⟨h, hP.bool ok⟩)

theorem dictTest {m zero : Value} (hm : P m) (hz : P zero) (key : String) :
    P (Value.pair (m.dictTest key zero)) := by
  unfold Value.dictTest
  cases hg : Fields.get? m.fields key with
  | none => exact hP.pair hz false
  | some v => exact hP.pair (hP.field hm hg) true

end PassedOn
end Value

namespace Builtin

/-! ### Names -/

theorem mem_all (b : Builtin) : b ∈ all := by
  cases b <;> decide

/-- The builtins are listed by ascending names. -/
theorem names_ascending : (all.map name).Pairwise (· < ·) := by decide

theorem mem_names_iff {text : String} : text ∈ all.map name ↔ ∃ b : Builtin, b.name = text := by
  simp [mem_all]

/-- What no builtin is called fails as that, and nothing else does. -/
theorem ofName_of_unknown {text : String} (h : ∀ b : Builtin, b.name ≠ text) :
    ofName text = .error (.unknownBuiltin text) := by
  have hnone : ofName? text = none := by
    rw [ofName?, List.find?_eq_none]
    exact fun b _ => by simpa using h b
  rw [ofName, hnone]

theorem ofName_name (b : Builtin) : ofName b.name = .ok b := by
  cases b <;> rfl

/-! ### Applications -/

/-- A builtin is called by its name. -/
theorem call_name (b : Builtin) (args : List Value) : call b.name args = b.apply args := by
  rw [call, ofName_name]
  rfl

/-- Builtins refuse all numbers of arguments but one. -/
theorem apply_of_length_ne {b : Builtin} {args : List Value} (h : args.length ≠ b.arity) :
    b.apply args = .error (.arity b.name b.arity args.length) := by
  unfold apply
  split <;> first | rfl | exact absurd rfl h

/-- The integers that builtins make of their arguments: lengths, counts of quantities, and what numbers
are cast to that are asserted to be integers. -/
inductive Makes : Builtin → List Value → Int64 → Prop
  | length (v : Value) : Makes .len [v] (Int64.ofNat v.length)
  | count {v : Value} {i : Int64} {ok : Bool} (h : Quantity.toInt64 v = .ok (i, ok)) :
    Makes .quantityCount [v] i
  | cast (name : Value) {x : Binary64} (h : x.isIntegral = true) :
    Makes .typeAssertion [name, .number x] x.toInt64

section
variable {P : Value → Prop} (hP : Value.PassedOn P) {b : Builtin} {args : List Value} {r : Value}

/-- An assertion gives back what was asserted, or the integer that it makes of it. -/
theorem passedOn_of_assertNamed {name v : Value} (h : P v)
    (hmade : ∀ i, Makes typeAssertion [name, v] i → P (.int i)) (hr : assertNamed name v = .ok r) :
    P r := by
  obtain ⟨text, -, hr⟩ := bind_eq_ok hr
  obtain ⟨t, -, hr⟩ := bind_eq_ok hr
  cases ha : t.assert v with
  | error f => rw [ha] at hr; cases hr
  | ok w =>
    rw [ha] at hr
    obtain rfl := Except.ok.inj hr
    rcases TypeName.assert_cases ha with ⟨x, -, rfl, hx, rfl⟩ | ⟨rfl, -⟩
    · exact hmade _ (.cast name hx)
    · exact h

include hP

/-- **Results have what is passed on** if the arguments have it, and the integers that are made of
them. -/
theorem passedOn_of_apply (h : ∀ v ∈ args, P v) (hmade : ∀ i, Makes b args i → P (.int i))
    (hr : b.apply args = .ok r) : P r := by
  have hl : args.length = b.arity := by
    by_contra hl
    rw [apply_of_length_ne hl] at hr
    cases hr
  cases b with
  | compact =>
    obtain ⟨v, rfl⟩ := List.length_eq_one_iff.mp hl
    cases v with
    | list items =>
      obtain rfl := Except.ok.inj hr
      exact hP.tuple (hP.list.mp (h _ (by simp)))
    | _ => cases hr
  | deref =>
    obtain ⟨v, rfl⟩ := List.length_eq_one_iff.mp hl
    rw [apply, Value.deref] at hr
    split_ifs at hr
    obtain rfl := Except.ok.inj hr
    exact h _ (by simp)
  | dictTest =>
    obtain ⟨m, key, zero, rfl⟩ := List.length_eq_three.mp hl
    obtain ⟨text, -, hr⟩ := bind_eq_ok hr
    obtain rfl := Except.ok.inj hr
    exact hP.dictTest (h m (by simp)) (h zero (by simp)) text
  | ptrDeref =>
    obtain ⟨v, default, rfl⟩ := List.length_eq_two.mp hl
    obtain rfl := Except.ok.inj hr
    unfold Value.derefD
    split_ifs
    · exact h default (by simp)
    · exact h v (by simp)
  | quantityCount =>
    obtain ⟨v, rfl⟩ := List.length_eq_one_iff.mp hl
    obtain ⟨count, hcount, hr⟩ := bind_eq_ok hr
    obtain rfl := Except.ok.inj hr
    exact hP.pair (hmade _ (.count hcount)) _
  | quantityCheck =>
    obtain ⟨v, rfl⟩ := List.length_eq_one_iff.mp hl
    cases v with
    | string s =>
      rw [apply, Quantity.validate] at hr
      split_ifs at hr
      obtain rfl := Except.ok.inj hr
      exact hP.string _
    | _ => cases hr
  | typeAssertion =>
    obtain ⟨name, v, rfl⟩ := List.length_eq_two.mp hl
    exact passedOn_of_assertNamed (h v (by simp)) hmade hr
  | typeTest =>
    obtain ⟨name, v, zero, rfl⟩ := List.length_eq_three.mp hl
    obtain ⟨text, -, hr⟩ := bind_eq_ok hr
    obtain ⟨t, -, hr⟩ := bind_eq_ok hr
    obtain rfl := Except.ok.inj hr
    unfold TypeName.test
    split_ifs
    · exact hP.pair (h v (by simp)) true
    · exact hP.pair (h zero (by simp)) false
  | ptrEqual =>
    obtain ⟨v, w, rfl⟩ := List.length_eq_two.mp hl
    obtain rfl := Except.ok.inj hr
    exact hP.bool _
  | isIntLikeFloat =>
    obtain ⟨v, rfl⟩ := List.length_eq_one_iff.mp hl
    obtain rfl := Except.ok.inj hr
    exact hP.bool _
  | len =>
    obtain ⟨v, rfl⟩ := List.length_eq_one_iff.mp hl
    obtain rfl := Except.ok.inj hr
    exact hmade _ (.length v)

end

/-- **Results inherit from the arguments** whatever can be inherited. -/
theorem inherited_of_apply {P : Value → Prop} (hP : Value.Inherited P) {b : Builtin}
    {args : List Value} {r : Value} (h : ∀ v ∈ args, P v) (hr : b.apply args = .ok r) : P r :=
  passedOn_of_apply hP.passedOn h (fun i _ => hP.int i) hr

variable {b : Builtin} {args : List Value} {r : Value}

/-- **Results have distinct keys** if the arguments have. -/
theorem hasDistinctKeys_of_apply (h : ∀ v ∈ args, v.HasDistinctKeys) (hr : b.apply args = .ok r) :
    r.HasDistinctKeys := inherited_of_apply Value.inherited_hasDistinctKeys h hr

/-- **Results have no numbers but finite ones** if the arguments have no others. -/
theorem isFinite_of_apply (h : ∀ v ∈ args, v.isFinite = true) (hr : b.apply args = .ok r) :
    r.isFinite = true := inherited_of_apply Value.inherited_isFinite h hr

end Builtin
end ChartRender
