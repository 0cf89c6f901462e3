import ChartRender.Proofs.Values.Crossing
import ChartRender.Template.Function
/-!
# Decoded data

Every number of decoded data is a `number`; an `int` is only ever made by a builtin. Whoever reads
documents and overrides and merges what was read, in whatever order, has only such data in hand
(`Values.isDecoded_run`), and so has a builtin that is called from a template: what crosses to it is
decoded again, even if it is the integer that another builtin gave, or one that the template counted
(`Values.decoded_intFree`).

Key definitions: `Value.IsDecoded`, `Values.Action`, `Values.run`.
Key theorems: `Values.isDecoded_apply`, `Values.isDecoded_run`, `Values.decoded_intFree`.
-/

namespace ChartRender

/-! ### Values without integers -/

/-- What a decoder makes: no map in the value holds a key twice, and there is no integer in it. -/
structure Value.IsDecoded (v : Value) : Prop where
  distinct : v.HasDistinctKeys
  intFree : v.isIntFree = true

theorem Value.hereditary_isDecoded : Value.Hereditary Value.IsDecoded where
  null := ⟨by simp, rfl⟩
  bool b := ⟨by simp, rfl⟩
  number x := ⟨by simp, rfl⟩
  string s := ⟨by simp, rfl⟩
  list {items} := by
    constructor
    · rintro ⟨hd, hi⟩ v hv
      exact ⟨hasDistinctKeys_list.mp hd v hv, isIntFree_list.mp hi v hv⟩
    · intro h
      exact ⟨hasDistinctKeys_list.mpr fun v hv => (h v hv).distinct,
        isIntFree_list.mpr fun v hv => (h v hv).intFree⟩
  map {fields} := by
    constructor
    · rintro ⟨hd, hi⟩
      obtain ⟨hk, hd⟩ := hasDistinctKeys_map.mp hd
      exact ⟨hk, fun p hp => ⟨hd p hp, isIntFree_map.mp hi p hp⟩⟩
    · rintro ⟨hk, h⟩
      exact ⟨hasDistinctKeys_map.mpr ⟨hk, fun p hp => (h p hp).distinct⟩,
        isIntFree_map.mpr fun p hp => (h p hp).intFree⟩

/-! ### Data that crosses to builtins -/

namespace Value.Hereditary

open Template (Datum)

variable {P : Value → Prop}

mutual

/-- **What data is handed to a builtin as has what is hereditary**, whatever the data is. -/
theorem of_datum (hP : Hereditary P) : ∀ {d : Datum} {v : Value}, d.toValue = .ok v → P v
  | .undefined, v, h | .null, v, h => Except.ok.inj h ▸ hP.null
  | .bool b, v, h => Except.ok.inj h ▸ hP.bool b
  | .int i, v, h => by
    rw [Datum.toValue] at h
    split_ifs at h
    exact Except.ok.inj h ▸ hP.number (.ofInt i)
  | .float x, v, h => by
    obtain rfl := Except.ok.inj h
    split_ifs
    · exact hP.number x
    · exact hP.null
  | .string _ s, v, h => Except.ok.inj h ▸ hP.string s
  | .builtins, v, h | .range, v, h | .debug _, v, h | .routine .., v, h =>
    Except.ok.inj h ▸ hP.string _
  | .list items, v, h => by
    obtain ⟨vs, hvs, rfl⟩ := map_eq_ok h
    exact hP.list.mpr (hP.of_data hvs)
  | .map entries, v, h => by
    obtain ⟨ps, hps, rfl⟩ := map_eq_ok h
    exact hP.map.mpr ⟨(Fields.ascending_sorted ps).nodup,
      fun p hp => hP.of_entries hps p (Fields.mem_of_mem_sorted hp)⟩

theorem of_data (hP : Hereditary P) : ∀ {ds : List Datum} {vs : List Value},
    Datum.toValues ds = .ok vs → ∀ v ∈ vs, P v
  | [], vs, h => by
    obtain rfl := Except.ok.inj h
    simp
  | d :: rest, vs, h => by
    rw [Datum.toValues] at h
    obtain ⟨v, hv, h⟩ := bind_eq_ok h
    obtain ⟨ws, hws, h⟩ := bind_eq_ok h
    obtain rfl := Except.ok.inj h
    exact List.forall_mem_cons.mpr ⟨hP.of_datum hv, hP.of_data hws⟩

theorem of_entries (hP : Hereditary P) : ∀ {entries : List (Datum × Datum)}
    {ps : List (String × Value)}, Datum.toPairs entries = .ok ps → ∀ p ∈ ps, P p.2
  | [], ps, h => by
    obtain rfl := Except.ok.inj h
    simp
  | (k, d) :: rest, ps, h => by
    rw [Datum.toPairs] at h
    obtain ⟨key, -, h⟩ := bind_eq_ok h
    obtain ⟨v, hv, h⟩ := bind_eq_ok h
    obtain ⟨qs, hqs, h⟩ := bind_eq_ok h
    obtain rfl := Except.ok.inj h
    exact List.forall_mem_cons.mpr ⟨hP.of_datum hv, hP.of_entries hqs⟩

end

end Value.Hereditary

namespace Values

open Template (Datum callBuiltin)

/-! ### Runs -/

/-- What is done with values: some are read, or of those in hand one is merged over another. -/
inductive Action where
  | yaml (text : String)
  | json (text : String)
  | overrides (arguments : List String)
  | merge (base overlay : Nat)

/-- What an action makes of the values in hand, if it does not fail. -/
def Action.result? (held : List Value) : Action → Option Value
  | .yaml text => (ofYaml text).toOption
  | .json text => (ofJson text).toOption
  | .overrides arguments => (ofOverrides arguments).toOption
  | .merge base overlay => do return (← held[base]?).merge (← held[overlay]?)

/-- The values in hand after an action, in the order in which they were made. -/
def Action.apply (held : List Value) (action : Action) : List Value :=
  held ++ (action.result? held).toList

/-- All values that actions make, from no values on. -/
def run (actions : List Action) : List Value := actions.foldl Action.apply [.empty]

theorem isDecoded_of_ofOverrides {arguments : List String} {v : Value}
    (h : ofOverrides arguments = .ok v) : v.IsDecoded := by
  rw [ofOverrides_eq] at h
  obtain ⟨as, has, rfl⟩ := map_eq_ok h
  refine Value.hereditary_isDecoded.setAll (fun b hb => ?_) Value.hereditary_isDecoded.empty
  obtain ⟨a, ha, rfl⟩ := List.mem_map.mp hb
  exact forall_of_mapM (fun _ _ => hereditary_of_assignment Value.hereditary_isDecoded) has a ha

/-- An action makes decoded data of decoded data. -/
theorem isDecoded_result {held : List Value} (h : ∀ v ∈ held, v.IsDecoded) {action : Action}
    {v : Value} (hv : action.result? held = some v) : v.IsDecoded := by
  cases action with
  | yaml text => exact Value.hereditary_isDecoded.of_ofYaml (eq_ok_of_toOption hv)
  | json text =>
    obtain ⟨j, -, rfl⟩ := ofJson_eq_ok (eq_ok_of_toOption hv)
    exact Value.hereditary_isDecoded.ofDocument (Value.hereditary_isDecoded.toValue j)
  | overrides arguments => exact isDecoded_of_ofOverrides (eq_ok_of_toOption hv)
  | merge base overlay =>
    obtain ⟨b, hb, hv⟩ := Option.bind_eq_some_iff.mp hv
    obtain ⟨o, ho, hv⟩ := Option.bind_eq_some_iff.mp hv
    obtain rfl := Option.some.inj hv
    exact Value.hereditary_isDecoded.merge (h b (List.mem_of_getElem? hb))
      (h o (List.mem_of_getElem? ho))

theorem isDecoded_apply {held : List Value} (h : ∀ v ∈ held, v.IsDecoded) (action : Action) :
    ∀ v ∈ action.apply held, v.IsDecoded := by
  intro v hv
  rcases List.mem_append.mp hv with hv | hv
  · exact h v hv
  · exact isDecoded_result h (Option.mem_toList.mp hv)

/-- **Whatever is read and merged is decoded data.** -/
theorem isDecoded_run (actions : List Action) : ∀ v ∈ run actions, v.IsDecoded := by
  induction actions using List.reverseRecOn with
  | nil => exact List.forall_mem_singleton.mpr Value.hereditary_isDecoded.empty
  | append_singleton actions action ih =>
    rw [run, List.foldl_append]
    exact isDecoded_apply ih action

/-- **There is no integer in decoded data**, however much of it is read and merged, **nor in what
builtins are applied to**, wherever the data of the template that calls them comes from. -/
theorem decoded_intFree (actions : List Action) :
    (∀ v ∈ run actions, v.isIntFree = true) ∧
      ∀ (args : List Datum) (values : List Value), Datum.toValues args = .ok values →
        ∀ v ∈ values, v.isIntFree = true := by
  constructor
  · exact fun v hv => (isDecoded_run actions v hv).intFree
  · exact fun args values h v hv => (Value.hereditary_isDecoded.of_data h v hv).intFree

/-- The length of a text is an integer, of which a template makes another one; both are numbers for
the next builtin. -/
theorem decoded_intFree_len :
    (run [.yaml "a: 1\nb: 2\n", .json "\x7b\"b\": 3\x7d", .overrides ["a=[4, 5]"], .merge 1 2,
        .merge 4 3])[5]? =
      some (.map [("a", .list [.number (.ofInt 4), .number (.ofInt 5)]), ("b", .number (.ofInt 3))]) ∧
    (Value.map [("a", .list [.number (.ofInt 4), .number (.ofInt 5)]),
        ("b", .number (.ofInt 3))]).isIntFree = true ∧
    callBuiltin "len" [.ofText "ab"] = .ok (.int 2) ∧
    Datum.toValues [.int 2, .int (2 + 2)] = .ok [.number (.ofInt 2), .number (.ofInt 4)] ∧
    ∀ v ∈ [Value.number (.ofInt 2), .number (.ofInt 4)], v.isIntFree = true := by
  obtain ⟨hfree, hcross⟩ := decoded_intFree [.yaml "a: 1\nb: 2\n", .json "\x7b\"b\": 3\x7d",
    .overrides ["a=[4, 5]"], .merge 1 2, .merge 4 3]
  have hrun : (run [.yaml "a: 1\nb: 2\n", .json "\x7b\"b\": 3\x7d", .overrides ["a=[4, 5]"],
      .merge 1 2, .merge 4 3])[5]? =
      some (.map [("a", .list [.number (.ofInt 4), .number (.ofInt 5)]),
        ("b", .number (.ofInt 3))]) := by decide +kernel
  have hargs : Datum.toValues [.int 2, .int (2 + 2)] =
      .ok [.number (.ofInt 2), .number (.ofInt 4)] := rfl
  exact ⟨hrun, hfree _ (List.mem_of_getElem? hrun), rfl, hargs, hcross _ _ hargs⟩

end Values
end ChartRender
