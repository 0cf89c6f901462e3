import ChartRender.Proofs.Command.Run
import ChartRender.Proofs.Value.Simplified
/-!
# Calls that pass results on

What a call prints can be an argument of another call, which then gets a value equal to the result of
the first (`Command.call_reads_back`). The text of the result has a way back, since no number that is
not finite comes up: arguments hold none, as JSON has none, and builtins make none of them.

Key theorems: `Command.isFinite_argument`, `Command.call_reads_back`.
-/

namespace ChartRender
namespace Command

theorem argument_eq (text : String) : (∃ j, Json.parse? text = some j ∧ argument text = j.toValue) ∨
    Json.parse? text = none ∧ argument text = .string text := by
  unfold argument
  cases Json.parse? text with
  | none => exact .inr ⟨rfl, rfl⟩
  | some j => exact .inl ⟨j, rfl, rfl⟩

theorem hasDistinctKeys_argument (text : String) : (argument text).HasDistinctKeys := by
  rcases argument_eq text with ⟨j, -, h⟩ | ⟨-, h⟩ <;> rw [h]
  · exact Json.hasDistinctKeys_toValue j
  · exact Value.hasDistinctKeys_string text

/-- **No argument holds a number that is not finite.** -/
theorem isFinite_argument (text : String) : (argument text).isFinite = true := by
  rcases argument_eq text with ⟨j, hj, h⟩ | ⟨-, h⟩ <;> rw [h]
  · exact Json.isFinite_of_parse? hj
  · rfl

/-- A call prints its result in a line, and changes nothing else but the messages. -/
theorem call_ok {name : String} {args : List String} {v : Value}
    (h : Builtin.call name (args.map argument) = .ok v) (debug : Bool) (s : Session) :
    ∃ messages, runIn (call name args debug) s =
      (.ok (), { s with
        output := s.output ++ (v.simplified.toJson ++ "\n"), messages := messages }) := by
  obtain ⟨m, hm⟩ := runIn_note debug
    ("Calling " ++ name ++ " with " ++ (Value.list (args.map argument)).toJson) s
  refine ⟨m, ?_⟩
  unfold call
  rw [runIn_bind_ok hm, h, runIn_bind_ok (runIn_orFail_ok _ _ _), runIn_print]
  rfl

/-- **What a call prints can be passed on.** The line is an argument that is equal to the result,
unless the result is nested deeper than arguments can be, and a result that is printed as null is
null. -/
theorem call_reads_back {name : String} {args : List String} {v : Value}
    (h : Builtin.call name (args.map argument) = .ok v) : ∃ line,
      (∀ debug s, ∃ messages, runIn (call name args debug) s =
        (.ok (), { s with output := s.output ++ (line ++ "\n"), messages := messages })) ∧
      (v.depth ≤ 127 → (argument line == v) = true) ∧ (line = "null" → v = .null) := by
  obtain ⟨b, -, hb⟩ := bind_eq_ok h
  have hk : v.HasDistinctKeys := Builtin.hasDistinctKeys_of_apply
    (List.forall_mem_map.mpr fun text _ => hasDistinctKeys_argument text) hb
  have hf : v.isFinite = true := Builtin.isFinite_of_apply
    (List.forall_mem_map.mpr fun text _ => isFinite_argument text) hb
  refine ⟨v.simplified.toJson, fun debug s => call_ok h debug s, fun hd => ?_,
    Value.eq_null_of_toJson hk hf⟩
  obtain ⟨w, hw, he⟩ := Value.parse?_simplified hd hk hf
  rw [argument, hw]
  exact he

/-- A map that is found in another comes back from its line, in which its keys are in another order
and negative zero has lost its sign. -/
theorem call_reads_back_dictTest : ∃ v line,
    Builtin.call "dicttest"
      (["\x7b\"k\":\x7b\"b\":2e0,\"a\":-0.0\x7d\x7d", "k", "null"].map argument) = .ok v ∧
    v = .list [.map [("b", .number (.ofInt 2)), ("a", .number Binary64.zero.neg)], .bool true] ∧
    (argument line == v) = true ∧ line ≠ "null" := by
  have hv : Builtin.call "dicttest"
      (["\x7b\"k\":\x7b\"b\":2e0,\"a\":-0.0\x7d\x7d", "k", "null"].map argument) =
      .ok (.list [.map [("b", .number (.ofInt 2)), ("a", .number Binary64.zero.neg)],
        .bool true]) := by decide +kernel
  obtain ⟨line, -, hback, hnull⟩ := call_reads_back hv
  exact ⟨_, line, hv, rfl, hback (by decide), fun h => by cases hnull h⟩

end Command
end ChartRender
