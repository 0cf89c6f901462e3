import ChartRender.Diagnostic
import Mathlib
/-!
# What reports hold

The diagnostics of a report are grouped by name, in the order in which names fail first. To add one
changes the group of its own name only, where it comes last (`Report.lookup_addError`), and no name
has two groups.

Key definitions: `Report.failingNames`.
Key theorems: `Report.lookup_addError`, `Report.failingNames_addError`.
-/

namespace ChartRender
namespace Report

/-- The names under which there are diagnostics. -/
def failingNames (r : Report) : List String := r.errors.map (·.1)

@[simp] theorem successes_addError (r : Report) (name : String) (d : Diagnostic) :
    (r.addError name d).successes = r.successes := rfl

@[simp] theorem successes_addSuccess (r : Report) (name : String) :
    (r.addSuccess name).successes = r.successes ++ [name] := rfl

@[simp] theorem errors_addSuccess (r : Report) (name : String) :
    (r.addSuccess name).errors = r.errors := rfl

theorem lookup_insertError (name : String) (d : Diagnostic) (n : String) :
    ∀ es : List (String × List Diagnostic), (insertError name d es).lookup n =
      if n = name then some ((es.lookup name).getD [] ++ [d]) else es.lookup n
  | [] => by
    by_cases h : n = name
    · simp [insertError, h]
    · have hb : (n == name) = false := by simpa using h
      simp [insertError, List.lookup_cons, hb, h]
  | (k, ds) :: rest => by
    have ih := lookup_insertError name d n rest
    rw [insertError]
    by_cases hk : k = name
    · subst hk
      rw [if_pos rfl]
      by_cases h : n = k
      · simp [h]
      · have hb : (n == k) = false := by simpa using h
        simp [List.lookup_cons, hb, h]
    · have hb : (name == k) = false := by simpa using Ne.symm hk
      rw [if_neg hk, List.lookup_cons, List.lookup_cons, List.lookup_cons, hb, ih]
      by_cases h : n = name
      · simp [h, hb]
      · simp [h]

theorem names_insertError (name : String) (d : Diagnostic) :
    ∀ es : List (String × List Diagnostic), (insertError name d es).map (·.1) =
      if name ∈ es.map (·.1) then es.map (·.1) else es.map (·.1) ++ [name]
  | [] => by simp [insertError]
  | (k, ds) :: rest => by
    rw [insertError]
    by_cases hk : k = name
    · simp [hk]
    · rw [if_neg hk, List.map_cons, names_insertError name d rest, List.map_cons]
      by_cases hr : name ∈ rest.map (·.1)
      · rw [if_pos hr, if_pos (List.mem_cons_of_mem _ hr)]
      · rw [if_neg hr, if_neg (by simpa [Ne.symm hk] using hr), List.cons_append]

/-- **A diagnostic is added behind those of its name**, and the other names keep theirs. -/
theorem lookup_addError (r : Report) (name : String) (d : Diagnostic) (n : String) :
    (r.addError name d).errors.lookup n =
      if n = name then some ((r.errors.lookup name).getD [] ++ [d]) else r.errors.lookup n :=
  lookup_insertError name d n r.errors

/-- **A name that fails first comes last.** -/
theorem failingNames_addError (r : Report) (name : String) (d : Diagnostic) :
    (r.addError name d).failingNames =
      if name ∈ r.failingNames then r.failingNames else r.failingNames ++ [name] :=
  names_insertError name d r.errors

theorem nodup_failingNames_addError {r : Report} (h : r.failingNames.Nodup) (name : String)
    (d : Diagnostic) : (r.addError name d).failingNames.Nodup := by
  rw [failingNames_addError]
  split_ifs with hn
  · exact h
  · exact h.append (List.nodup_singleton name) (by simpa using hn)

/-- A name has diagnostics exactly if it is one of the failing names. -/
theorem mem_failingNames_iff {r : Report} {name : String} :
    name ∈ r.failingNames ↔ r.errors.lookup name ≠ none := by
  rw [failingNames, Ne, List.lookup_eq_none_iff, List.mem_map]
  push Not
  refine exists_congr fun p => and_congr_right fun _ => ?_
  rw [ne_eq, bne_iff_ne, not_not, eq_comm]

theorem hasErrors_eq_false_iff {r : Report} : r.hasErrors = false ↔ r.failingNames = [] := by
  simp [hasErrors, failingNames]

end Report
end ChartRender
