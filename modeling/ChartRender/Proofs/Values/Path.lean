import ChartRender.Proofs.Value.Path
import ChartRender.Values.Basic
/-!
# Values as a store

Dotted paths name the places of a store: what is written at a path is found there, and what lies
behind it is found inside the value that was written; in front of it there are maps; and paths that
fork off answer as before, although a value that is no map may have given way to one. A write is
refused exactly if a key of its path is empty, and then the values are kept as they were.

Key definitions: `Values.afterSet`, `Values.AnswersAfterSet`.
Key theorems: `Values.set_eq`, `Values.set_get?_laws`.
-/

namespace ChartRender
namespace Values

/-- The values that are held after a write was tried: those that it made, or the old ones if it
failed. -/
def afterSet (values : Value) (path : String) (new : Value) : Value :=
  match set values path new with
  | .ok written => written
  | .error _ => values

/-- A write comes to an error exactly if a key is empty. -/
theorem set_eq (values : Value) (path : String) (new : Value) : set values path new =
    if "" ∈ KeyPath.ofText path then .error (.invalidPath path)
    else .ok (values.set new (KeyPath.ofText path)) := by
  simp only [set, List.any_eq_true, beq_iff_eq, exists_eq_right]

theorem set_of_empty_key {path : String} (h : "" ∈ KeyPath.ofText path) (values new : Value) :
    set values path new = .error (.invalidPath path) := by
  rw [set_eq, if_pos h]

theorem set_of_keys {path : String} (h : "" ∉ KeyPath.ofText path) (values new : Value) :
    set values path new = .ok (values.set new (KeyPath.ofText path)) := by
  rw [set_eq, if_neg h]

/-- How a place answers after a write at a path, by the relation between the two. -/
structure AnswersAfterSet (values new : Value) (path place : KeyPath) (answer : Option Value) :
    Prop where
  /-- At the path stands what was written. -/
  here : place = path → answer = some new
  /-- Behind the path stands what lies inside what was written. -/
  behind : ∀ rest, place = path ++ rest → answer = new.get? rest
  /-- In front of the end of the path stands a map. -/
  above : ∀ rest, rest ≠ [] → path = place ++ rest → ∃ fields, answer = some (.map fields)
  /-- All other places answer as before. -/
  beside : ¬ path <+: place → ¬ place <+: path → answer = values.get? place

/-- A write by keys answers so at every place. -/
theorem answers_set (values new : Value) (path place : KeyPath) :
    AnswersAfterSet values new path place ((values.set new path).get? place) where
  here h := by
    have := Value.get?_set_append new [] path values
    rw [List.append_nil] at this
    rw [h, this, Value.get?_root]
  behind rest h := by rw [h, Value.get?_set_append]
  above rest hr h := by
    rw [h]
    exact Value.get?_set_front new hr place values
  beside h h' := Value.get?_set_of_fork new values h h'

/-- **Writing and reading at dotted paths obey the laws of a store.** A write fails exactly if a key
of its path is empty, and leaves the values as they were; else every dotted path answers by its
relation to the path of the write. -/
theorem set_get?_laws (values new : Value) (path : String) :
    ((∃ e, set values path new = .error e) ↔ "" ∈ KeyPath.ofText path) ∧
    ("" ∈ KeyPath.ofText path → afterSet values path new = values) ∧
    ("" ∉ KeyPath.ofText path → ∀ place : String,
      AnswersAfterSet values new (KeyPath.ofText path) (KeyPath.ofText place)
        (get? (afterSet values path new) place)) := by
  by_cases h : "" ∈ KeyPath.ofText path
  · have hs := set_of_empty_key h values new
    refine ⟨⟨fun _ => h, fun _ => ⟨_, hs⟩⟩, fun _ => ?_, fun hn => absurd h hn⟩
    rw [afterSet, hs]
  · have hs := set_of_keys h values new
    refine ⟨⟨fun he => ?_, fun he => absurd he h⟩, fun he => absurd he h, fun _ place => ?_⟩
    · obtain ⟨e, he⟩ := he
      rw [hs] at he
      cases he
    · rw [afterSet, hs]
      exact answers_set values new _ _

/-- A tag is written behind an image that was a text: the text gives way, and what stands beside the
image is found as before. -/
theorem set_get?_laws_image :
    let values := Value.map [("image", .string "nginx"), ("replicas", .null)]
    "" ∉ KeyPath.ofText "image.tag" ∧
    get? (afterSet values "image.tag" (.string "1")) "image.tag" = some (.string "1") ∧
    (∃ fields, get? (afterSet values "image.tag" (.string "1")) "image" = some (.map fields)) ∧
    get? (afterSet values "image.tag" (.string "1")) "replicas" = some .null := by
  intro values
  have hk : "" ∉ KeyPath.ofText "image.tag" := by decide +kernel
  have h := (set_get?_laws values (.string "1") "image.tag").2.2 hk
  refine ⟨hk, (h "image.tag").here rfl, ?_, ?_⟩
  · exact (h "image").above ["tag"] (by simp) (by decide +kernel)
  · exact (h "replicas").beside (by decide +kernel) (by decide +kernel)

end Values
end ChartRender
