import ChartRender.Proofs.Builtin.Congruence
import ChartRender.Proofs.Template.Exchange
import ChartRender.Template.Function
/-!
# Builtins called from templates

A template calls a builtin on data, so that its arguments cross into values and the result crosses
back. Both crossings may change a value, but only into its canonical value, from which no builtin
tells it (`Builtin.apply_canonical`). So the call agrees with that of the builtin itself on decoded
arguments (`callBuiltin_agrees`).

Key definitions: `Template.Agrees`.
Key theorems: `Template.callBuiltin_agrees`.
-/

namespace ChartRender.Template

/-- What the call of a builtin in a template has in common with the call itself: both fail, the
failure being the cause of the fault, or the result that is read back equals the decoded result. -/
def Agrees : Except Fault Datum → Except Failure Value → Prop
  | .error fault, .error f => fault.causes = [.failure f]
  | .ok d, .ok r => ∃ v, d.toValue = .ok v ∧ (v == r.asData) = true
  | _, _ => False

/-- Values of one canonical value agree when one of them has crossed. -/
theorem agrees_ofValue {v r : Value} (hr : r.HasDistinctKeys) (h : v.canonical = r.canonical) :
    Agrees (.ok (.ofValue v)) (.ok r) := by
  refine ⟨v.canonical, Datum.toValue_ofValue v, ?_⟩
  refine (Value.equals_iff_canonical _ _ (Value.isData_canonical v) (Value.isData_asData hr)).mpr ?_
  rw [Value.canonical_canonical, Value.canonical_asData, h]

/-- **A builtin called from a template agrees with the builtin called on decoded arguments**, whatever
its name, the number of arguments and the values are. -/
theorem callBuiltin_agrees (name : String) {args : List Value}
    (h : ∀ v ∈ args, v.HasDistinctKeys) :
    Agrees (callBuiltin name (args.map Datum.ofValue))
      (Builtin.call name (args.map Value.asData)) := by
  have hdata : ∀ v ∈ args.map Value.asData, v.IsData := by
    intro v hv
    obtain ⟨w, hw, rfl⟩ := List.mem_map.mp hv
    exact Value.isData_asData (h w hw)
  have hcross : args.map Value.canonical = (args.map Value.asData).map Value.canonical := by
    rw [List.map_map]
    exact List.map_congr_left fun v _ => (Value.canonical_asData v).symm
  rw [callBuiltin, Builtin.call, Datum.toValues_map_ofValue, hcross]
  cases Builtin.ofName name with
  | error f => exact rfl
  | ok b =>
    change Agrees _ (b.apply (args.map Value.asData))
    rcases Builtin.alike_of_map_eq (b.apply_canonical hdata) with ⟨f, hc, hr⟩ | ⟨v, r, hc, hr, he⟩
    · simp only [hc, hr]
      exact rfl
    · simp only [hc, hr]
      exact agrees_ofValue
        (Builtin.hasDistinctKeys_of_apply (fun w hw => (hdata w hw).distinct) hr) he

/-- A look-up in a map whose keys are not sorted comes back with the number for the integer. -/
theorem callBuiltin_dictTest : ∃ d v,
    callBuiltin "dicttest" [.ofValue (.map [("b", .int 1), ("a", .null)]), .ofValue (.string "b"),
      .ofValue .null] = .ok d ∧ d.toValue = .ok v ∧
    (v == .list [.number (.ofInt64 1), .bool true]) = true := by
  have h := callBuiltin_agrees "dicttest" (show ∀ v ∈ [Value.map [("b", .int 1), ("a", .null)],
    .string "b", .null], v.HasDistinctKeys by simp)
  have hc : Builtin.call "dicttest" ([Value.map [("b", .int 1), ("a", .null)], .string "b",
      .null].map Value.asData) = .ok (.list [.number (.ofInt64 1), .bool true]) := rfl
  rw [hc] at h
  cases hd : callBuiltin "dicttest" ([Value.map [("b", .int 1), ("a", .null)], .string "b",
      .null].map Datum.ofValue) with
  | error fault =>
    rw [hd] at h
    exact h.elim
  | ok d =>
    rw [hd] at h
    obtain ⟨v, hv, he⟩ := h
    rw [Value.asData_list, List.map_cons, Value.asData,
      if_pos (Binary64.isFinite_ofInt64 1)] at he
    exact ⟨d, v, hd, hv, he⟩

end ChartRender.Template
