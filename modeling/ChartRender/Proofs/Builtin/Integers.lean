import ChartRender.Proofs.Binary64.Cast
import ChartRender.Proofs.Builtin.Application
import ChartRender.Proofs.Template.Exchange
import ChartRender.Template.Function
/-!
# Integers that builtins give back

An integer crosses from a template to a builtin as its nearest number. It comes back if it is asserted
to be an integer again, unless it is one of those that share their nearest number with others. Builtins
make no such integers of arguments without integers: they cast numbers and products of numbers, and
what a number was cast to is cast to itself (`Binary64.isSettled_toInt64`); and they count lengths. So
an integer that a template gets from a builtin stays what it is, however often it is handed to others
(`Builtin.call_int_stays`).

Key definitions: `Value.IsSettled`, `Template.Round`, `Template.runRounds`.
Key theorems: `Builtin.isSettled_of_makes`, `Builtin.isSettled_of_call`, `Template.runRounds_int`,
`Builtin.call_int_stays`.
-/

namespace ChartRender

/-! ### Values with settled integers -/

namespace Value

/-- Each integer in the value, at any depth, is one that its nearest number is cast to. -/
def IsSettled (v : Value) : Prop := ∀ i, OccursIn (.int i) v → Binary64.IsSettled i

theorem isSettled_of_isIntFree {v : Value} (h : v.isIntFree = true) : v.IsSettled := by
  intro i hi
  have hfree := hi.isIntFree h
  cases hfree

theorem isSettled_int {i : Int64} : IsSettled (.int i) ↔ Binary64.IsSettled i := by
  constructor
  · exact fun h => h i .self
  · rintro h j ⟨⟩
    exact h

theorem isSettled_list {items : List Value} :
    IsSettled (.list items) ↔ ∀ v ∈ items, v.IsSettled := by
  constructor
  · exact fun h v hv i hi => h i (.element hv hi)
  · rintro h i (_ | ⟨hv, hi⟩ | _)
    exact h _ hv i hi

theorem isSettled_map {fields : Fields} :
    IsSettled (.map fields) ↔ ∀ p ∈ fields, p.2.IsSettled := by
  constructor
  · exact fun h p hp i hi => h i (.field hp hi)
  · rintro h i (_ | _ | ⟨hp, hi⟩)
    exact h _ hp i hi

theorem passedOn_isSettled : PassedOn IsSettled where
  bool _ := isSettled_of_isIntFree rfl
  string _ := isSettled_of_isIntFree rfl
  list := isSettled_list
  field {v w key} h hw := by
    cases v with
    | map fields => exact isSettled_map.mp h _ (Fields.mem_of_get? hw)
    | _ => cases hw
  tuple h := isSettled_map.mpr fun p hp => h p.2 (mem_of_mem_packFrom hp)

end Value

/-- A count is an integer that was counted, or a number that was cast. -/
theorem Quantity.eq_int_or_cast {v : Value} {i : Int64} {ok : Bool}
    (h : toInt64 v = .ok (i, ok)) : v = .int i ∨ ∃ x : Binary64, i = x.toInt64 := by
  cases v with
  | number x =>
    obtain ⟨rfl, -⟩ := Prod.mk.inj (Except.ok.inj h)
    exact .inr ⟨x, rfl⟩
  | int j =>
    obtain ⟨rfl, -⟩ := Prod.mk.inj (Except.ok.inj h)
    exact .inl rfl
  | string text =>
    rw [toInt64, ofText] at h
    dsimp only at h
    split at h
    · cases h
    · split at h
      · cases h
      · -- thousandths count zero
        obtain ⟨rfl, -⟩ := Prod.mk.inj (Except.ok.inj h)
        exact .inr ⟨.zero, by decide +kernel⟩
      · obtain ⟨rfl, -⟩ := Prod.mk.inj (Except.ok.inj h)
        exact .inr ⟨_, rfl⟩
  | _ => cases h

namespace Builtin

variable {name : String} {b : Builtin} {args : List Value} {r : Value} {i : Int64}

/-- **The integers that builtins make are settled**, if there are none in the arguments and these are
not too long. -/
theorem isSettled_of_makes (hfree : ∀ v ∈ args, v.isIntFree = true)
    (hlength : ∀ v ∈ args, v.length < 2 ^ 53) (h : Makes b args i) : Binary64.IsSettled i := by
  cases h with
  | length v =>
    have hlt : v.length < 2 ^ 53 := hlength v List.mem_cons_self
    refine Binary64.isSettled_of_natAbs_le ?_
    rw [Int64.toInt_ofNat_of_lt (by omega), Int.natAbs_natCast]
    exact hlt.le
  | @count v i ok hcount =>
    rcases Quantity.eq_int_or_cast hcount with rfl | ⟨x, rfl⟩
    · have hv := hfree _ List.mem_cons_self
      cases hv
    · exact Binary64.isSettled_toInt64 x
  | cast name hx => exact Binary64.isSettled_toInt64 _

/-- **Results have settled integers only.** -/
theorem isSettled_of_call (hfree : ∀ v ∈ args, v.isIntFree = true)
    (hlength : ∀ v ∈ args, v.length < 2 ^ 53) (h : call name args = .ok r) : r.IsSettled := by
  obtain ⟨b, -, hr⟩ := bind_eq_ok h
  refine passedOn_of_apply Value.passedOn_isSettled (fun v hv => ?_) (fun i hi => ?_) hr
  · exact Value.isSettled_of_isIntFree (hfree v hv)
  · exact Value.isSettled_int.mpr (isSettled_of_makes hfree hlength hi)

/-- The names of the integer types. -/
def integerNames : List String := ["int", "int32", "int64"]

theorem exists_integer_type {text : String} (h : text ∈ integerNames) :
    ∃ t, TypeName.ofText? text = some t ∧ t.isInteger = true := by
  simp only [integerNames, List.mem_cons, List.not_mem_nil, or_false] at h
  obtain rfl | rfl | rfl := h
  · exact ⟨.int, rfl, rfl⟩
  · exact ⟨.int32, rfl, rfl⟩
  · exact ⟨.int64, rfl, rfl⟩

/-- The nearest number to a settled integer is asserted to be that integer again. -/
theorem call_typeAssertion_ofInt64 {text : String} (ht : text ∈ integerNames)
    (hi : Binary64.IsSettled i) :
    call "typeassertion" [.string text, .number (.ofInt64 i)] = .ok (.int i) := by
  obtain ⟨t, ht, hinteger⟩ := exists_integer_type ht
  have hassert : t.assert (.number (.ofInt64 i)) = .ok (.int i) := by
    rw [TypeName.assert_number hinteger (Binary64.isIntegral_ofInt64 i), hi]
  have hname : call "typeassertion" [.string text, .number (.ofInt64 i)] =
      typeAssertion.apply [.string text, .number (.ofInt64 i)] := call_name .typeAssertion _
  rw [hname]
  simp [apply, assertNamed, Value.toText, TypeName.ofText_of_some ht, hassert, bind, Except.bind]

/-- It is counted as that integer, too. -/
theorem call_quantityCount_ofInt64 (hi : Binary64.IsSettled i) :
    call "resource_AsInt64" [.number (.ofInt64 i)] = .ok (Value.pair (.int i, true)) := by
  have hname : call "resource_AsInt64" [.number (.ofInt64 i)] =
      quantityCount.apply [.number (.ofInt64 i)] := call_name .quantityCount _
  have hcount : Quantity.toInt64 (.number (.ofInt64 i)) = .ok (i, true) := by
    rw [Quantity.toInt64, hi]
  rw [hname]
  simp [apply, hcount, bind, Except.bind, pure, Except.pure]

end Builtin

/-! ### Rounds through a template -/

namespace Template

variable {i : Int64}

/-- What a template does with an integer over and over: it asserts that it is one, or counts it as a
quantity and takes the first of the two results. -/
inductive Round where
  | assertion (text : String) (h : text ∈ Builtin.integerNames)
  | count

/-- The datum that a round makes of a datum. -/
def Round.apply (d : Datum) : Round → Except Fault Datum
  | .assertion text _ => callBuiltin "typeassertion" [.ofText text, d]
  | .count => (callBuiltin "resource_AsInt64" [d]).map fun r => (r.item? (.int 0)).getD .undefined

/-- Rounds one after the other, each on what the one before made. -/
def runRounds (d : Datum) (rounds : List Round) : Except Fault Datum := rounds.foldlM Round.apply d

theorem callBuiltin_of_call {name : String} {ds : List Datum} {args : List Value} {r : Value}
    (hd : Datum.toValues ds = .ok args) (h : Builtin.call name args = .ok r) :
    callBuiltin name ds = .ok (.ofValue r) := by
  obtain ⟨b, hb, hr⟩ := bind_eq_ok h
  rw [callBuiltin, hb]
  simp only [hd, hr]

/-- **A round leaves a settled integer as it is.** -/
theorem Round.apply_int (h : Binary64.IsSettled i) (round : Round) :
    round.apply (.ofValue (.int i)) = .ok (.ofValue (.int i)) := by
  have hi : (Datum.ofValue (.int i)).toValue = .ok (.number (.ofInt64 i)) := Datum.toValue_int i
  cases round with
  | assertion text ht =>
    have hargs : Datum.toValues [.ofText text, .ofValue (.int i)] =
        .ok [.string text, .number (.ofInt64 i)] := by
      simp only [Datum.toValues, hi]
      rfl
    exact callBuiltin_of_call hargs (Builtin.call_typeAssertion_ofInt64 ht h)
  | count =>
    have hargs : Datum.toValues [.ofValue (.int i)] = .ok [.number (.ofInt64 i)] := by
      simp only [Datum.toValues, hi]
      rfl
    rw [Round.apply, callBuiltin_of_call hargs (Builtin.call_quantityCount_ofInt64 h)]
    rfl

/-- **So do any number of rounds.** -/
theorem runRounds_int (h : Binary64.IsSettled i) (rounds : List Round) :
    runRounds (.ofValue (.int i)) rounds = .ok (.ofValue (.int i)) := by
  induction rounds with
  | nil => rfl
  | cons round rounds ih =>
    rw [runRounds, List.foldlM_cons, Round.apply_int h round]
    exact ih

end Template

namespace Builtin

open Template (Datum runRounds)

/-- **An integer that a builtin gives back stays what it is.** If there were no integers in the
arguments, at any depth, every integer in the result, at any depth, crosses to the next builtin as a
number without a fraction, is asserted to be that integer again, and is the same after any number of
rounds through a template. -/
theorem call_int_stays {name : String} {args : List Value} {r : Value}
    (hfree : ∀ v ∈ args, v.isIntFree = true) (hlength : ∀ v ∈ args, v.length < 2 ^ 53)
    (h : call name args = .ok r) {i : Int64} (hi : Value.OccursIn (.int i) r) :
    ∃ x, (Datum.ofValue (.int i)).toValue = .ok (.number x) ∧
      (Value.number x).isIntegralNumber = true ∧
      (∀ text ∈ ["int", "int32", "int64"],
        call "typeassertion" [.string text, .number x] = .ok (.int i)) ∧
      ∀ rounds, runRounds (.ofValue (.int i)) rounds = .ok (.ofValue (.int i)) := by
  have hsettled : Binary64.IsSettled i := isSettled_of_call hfree hlength h i hi
  refine ⟨.ofInt64 i, Template.Datum.toValue_int i, Binary64.isIntegral_ofInt64 i, ?_, ?_⟩
  · exact fun text ht => call_typeAssertion_ofInt64 ht hsettled
  · exact Template.runRounds_int hsettled

/-- A quantity that is cut off counts the greatest integer, which is no number, and stays that. -/
theorem call_int_stays_peta :
    call "resource_AsInt64" [.string "9223.4P"] = .ok (.list [.int Int64.maxValue, .bool true]) ∧
    (Value.string "9223.4P").isIntFree = true ∧ (Value.string "9223.4P").length = 7 ∧
    ∃ x, (Datum.ofValue (.int Int64.maxValue)).toValue = .ok (.number x) ∧
      call "typeassertion" [.string "int32", .number x] = .ok (.int Int64.maxValue) := by
  have h : call "resource_AsInt64" [.string "9223.4P"] =
      .ok (.list [.int Int64.maxValue, .bool true]) := by decide +kernel
  have hlength : (Value.string "9223.4P").length = 7 := by decide +kernel
  have hmem : Value.OccursIn (.int Int64.maxValue) (.list [.int Int64.maxValue, .bool true]) :=
    .element List.mem_cons_self .self
  obtain ⟨x, hx, -, hassert, -⟩ := call_int_stays (by simp [Value.isIntFree])
    (by simp [hlength]) h hmem
  exact ⟨h, rfl, hlength, x, hx, hassert "int32" (by decide)⟩

end Builtin
end ChartRender
