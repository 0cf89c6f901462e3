import ChartRender.Proofs.Value.DistinctKeys
/-!
# Places in a value

A place is given by the steps that lead to it from the outside: to an element of a list by its
index, and into a map by a key. `Value.part?` is what stands at a place, if anything does. Whatever a
value passes on to its elements and fields (`Value.Hereditary`) holds of its parts.

Key definitions: `Value.Step`, `Value.child?`, `Value.part?`.
Key theorems: `Value.Hereditary.child?`, `Value.part?_step`.
-/

namespace ChartRender
namespace Value

/-- A step into a value: to an element of a list, or to what a map holds under a key. -/
inductive Step where
  | index (n : Nat)
  | key (k : String)
  deriving DecidableEq, Repr

/-- What one step leads to. -/
def child? : Value → Step → Option Value
  | .list items, .index n => items[n]?
  | .map fields, .key k => Fields.get? fields k
  | _, _ => none

/-- What stands at a place. -/
def part? : Value → List Step → Option Value
  | v, [] => some v
  | v, step :: rest => (v.child? step).bind fun w => part? w rest

@[simp] theorem child?_list (items : List Value) (n : Nat) :
    child? (.list items) (.index n) = items[n]? := rfl

@[simp] theorem child?_map (fields : Fields) (k : String) :
    child? (.map fields) (.key k) = Fields.get? fields k := rfl

@[simp] theorem part?_nil (v : Value) : v.part? [] = some v := rfl

/-- What stands behind a step is a part of what the step leads to. -/
theorem part?_step {v w : Value} {step : Step} (h : v.child? step = some w) (rest : List Step) :
    v.part? (step :: rest) = w.part? rest := by
  rw [part?, h, Option.bind_some]

/-- What a step leads to is an element of a list or stands in a field of a map. -/
theorem child?_cases {v w : Value} {step : Step} (h : v.child? step = some w) :
    (∃ items, v = .list items ∧ w ∈ items) ∨
      ∃ fields k, v = .map fields ∧ step = .key k ∧ (k, w) ∈ fields := by
  cases v with
  | list items =>
    cases step with
    | index n => exact .inl ⟨items, rfl, List.mem_of_getElem? h⟩
    | key k => cases h
  | map fields =>
    cases step with
    | index n => cases h
    | key k => exact .inr ⟨fields, k, rfl, rfl, Fields.mem_of_get? h⟩
  | _ => cases h

theorem Hereditary.child? {P : Value → Prop} (hP : Hereditary P) {v w : Value} {step : Step}
    (h : P v) (hw : v.child? step = some w) : P w := by
  rcases child?_cases hw with ⟨items, rfl, hm⟩ | ⟨fields, k, rfl, -, hm⟩
  · exact hP.list.mp h w hm
  · exact (hP.map.mp h).2 _ hm

end Value
end ChartRender
