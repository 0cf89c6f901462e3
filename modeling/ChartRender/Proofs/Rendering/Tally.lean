import ChartRender.Proofs.Rendering.Report
/-!
# Reports tally what is noted in them

A report is made by noting one failure or success after the other, in any order. What it holds can be
told from the notes alone: the diagnostics grouped by name, each group and the groups themselves in the
order of the notes, and the successes in theirs (`Report.tallies_ofNotes`). Every note adds one
diagnostic or one success at its place and moves nothing else, so failures and successes do not disturb
each other, even under the same name.

Key definitions: `Report.Note`, `Report.ofNotes`, `Report.Tallies`.
Key theorems: `Report.failingNames_ofNotes`, `Report.errors_ofNotes`, `Report.errorCount_ofNotes`,
`Report.tallies_ofNotes`.
-/

namespace ChartRender
namespace Report

/-! ### Notes -/

/-- What is noted in a report: that a template failed, with a diagnostic, or that one succeeded. -/
inductive Note where
  | failure (name : String) (d : Diagnostic)
  | success (name : String)
  deriving DecidableEq, Repr

/-- The report with one more note. -/
def note (r : Report) : Note → Report
  | .failure name d => r.addError name d
  | .success name => r.addSuccess name

/-- The report of notes from the first to the last. -/
def ofNotes (notes : List Note) : Report := notes.foldl note empty

theorem ofNotes_append (notes : List Note) (n : Note) :
    ofNotes (notes ++ [n]) = (ofNotes notes).note n := by
  rw [ofNotes, List.foldl_append]
  rfl

/-- The name and the diagnostic of a failure. -/
def Note.failure? : Note → Option (String × Diagnostic)
  | .failure name d => some (name, d)
  | .success _ => none

/-- The name of a success. -/
def Note.success? : Note → Option String
  | .failure .. => none
  | .success name => some name

/-- The failures among notes. -/
def failures (notes : List Note) : List (String × Diagnostic) := notes.filterMap Note.failure?

/-- The diagnostics of a name among failures. -/
def diagnosticsOf (fs : List (String × Diagnostic)) (name : String) : List Diagnostic :=
  (fs.filter (·.1 == name)).map (·.2)

theorem mem_failures {notes : List Note} {name : String} {d : Diagnostic} :
    (name, d) ∈ failures notes ↔ .failure name d ∈ notes := by
  rw [failures, List.mem_filterMap]
  constructor
  · rintro ⟨n | n, hn, h⟩
    · cases h
      exact hn
    · cases h
  · exact fun h => ⟨_, h, rfl⟩

theorem failures_append_failure (notes : List Note) (name : String) (d : Diagnostic) :
    failures (notes ++ [.failure name d]) = failures notes ++ [(name, d)] := by
  rw [failures, List.filterMap_append]
  rfl

theorem failures_append_success (notes : List Note) (name : String) :
    failures (notes ++ [.success name]) = failures notes := by
  rw [failures, List.filterMap_append]
  exact List.append_nil _

/-- A success among the notes is not seen among the failures. -/
theorem failures_without_success (front back : List Note) (name : String) :
    failures (front ++ .success name :: back) = failures (front ++ back) := by
  rw [failures, failures, List.filterMap_append, List.filterMap_append, List.filterMap_cons]
  rfl

theorem diagnosticsOf_append (fs : List (String × Diagnostic)) (name : String) (d : Diagnostic)
    (n : String) : diagnosticsOf (fs ++ [(name, d)]) n =
      if n = name then diagnosticsOf fs name ++ [d] else diagnosticsOf fs n := by
  rw [diagnosticsOf, List.filter_append, List.map_append]
  by_cases h : n = name
  · rw [if_pos h, h, diagnosticsOf]
    simp
  · rw [if_neg h, diagnosticsOf]
    simp [Ne.symm h]

/-! ### Names -/

theorem eraseDups_append_singleton {α : Type} [BEq α] [LawfulBEq α] (xs : List α) (x : α)
    [Decidable (x ∈ xs)] :
    (xs ++ [x]).eraseDups = if x ∈ xs then xs.eraseDups else xs.eraseDups ++ [x] := by
  rw [List.eraseDups_append]
  split_ifs with h
  · simp [List.removeAll, h]
  · simp [List.removeAll, h, List.eraseDups_cons]

/-- **The names that fail** stand in the order of their first failures. -/
theorem failingNames_ofNotes (notes : List Note) :
    (ofNotes notes).failingNames = ((failures notes).map (·.1)).eraseDups := by
  induction notes using List.reverseRecOn with
  | nil => rfl
  | append_singleton notes n ih =>
    rw [ofNotes_append]
    cases n with
    | success name => rw [failures_append_success, ← ih]; rfl
    | failure name d =>
      rw [note, failingNames_addError, ih, failures_append_failure, List.map_append,
        List.map_singleton, eraseDups_append_singleton]
      simp only [List.mem_eraseDups]

/-- No name has two groups, whatever is noted. -/
theorem nodup_failingNames_ofNotes (notes : List Note) : (ofNotes notes).failingNames.Nodup := by
  refine List.foldlRecOn (motive := fun r : Report => r.failingNames.Nodup) notes note
    List.nodup_nil fun r h n _ => ?_
  cases n with
  | success name => exact h
  | failure name d => exact nodup_failingNames_addError h name d

/-! ### Groups -/

/-- Groups with different names are determined by what is looked up in them. -/
theorem eq_map_lookup : ∀ {es : List (String × List Diagnostic)}, (es.map (·.1)).Nodup →
    es = (es.map (·.1)).map fun name => (name, (es.lookup name).getD [])
  | [], _ => rfl
  | (k, ds) :: rest, h => by
    rw [List.map_cons, List.nodup_cons] at h
    have hrest : ∀ name ∈ rest.map (·.1), ((k, ds) :: rest).lookup name = rest.lookup name := by
      intro name hn
      have hb : (name == k) = false := beq_false_of_ne fun he => h.1 (he ▸ hn)
      rw [List.lookup_cons, hb]
    rw [List.map_cons, List.map_cons, List.lookup_cons_self, Option.getD_some, List.cons.injEq]
    refine ⟨rfl, (eq_map_lookup h.2).trans (List.map_congr_left fun name hn => ?_)⟩
    rw [hrest name hn]

/-- The diagnostics under a name are those noted with it. -/
theorem getD_lookup_ofNotes (notes : List Note) (n : String) :
    ((ofNotes notes).errors.lookup n).getD [] = diagnosticsOf (failures notes) n := by
  induction notes using List.reverseRecOn generalizing n with
  | nil => rfl
  | append_singleton notes m ih =>
    rw [ofNotes_append]
    cases m with
    | success name => rw [failures_append_success, ← ih]; rfl
    | failure name d =>
      rw [note, lookup_addError, failures_append_failure, diagnosticsOf_append, ← ih, ← ih]
      split_ifs <;> rfl

/-- **The diagnostics are grouped by name**: the groups in the order in which their names fail first,
and each in the order of the notes. -/
theorem errors_ofNotes (notes : List Note) :
    (ofNotes notes).errors = ((failures notes).map (·.1)).eraseDups.map fun name =>
      (name, diagnosticsOf (failures notes) name) := by
  have hgroups := eq_map_lookup (nodup_failingNames_ofNotes notes)
  change _ = (ofNotes notes).failingNames.map _ at hgroups
  simpa only [getD_lookup_ofNotes, failingNames_ofNotes] using hgroups

/-- **The successes** stand in the order of the notes. -/
theorem successes_ofNotes (notes : List Note) :
    (ofNotes notes).successes = notes.filterMap Note.success? := by
  induction notes using List.reverseRecOn with
  | nil => rfl
  | append_singleton notes n ih =>
    rw [ofNotes_append, List.filterMap_append, ← ih]
    cases n with
    | success name => rfl
    | failure name d => exact (List.append_nil _).symm

/-! ### Counts -/

theorem length_insertError (name : String) (d : Diagnostic) :
    ∀ es : List (String × List Diagnostic),
      ((insertError name d es).flatMap (·.2)).length = (es.flatMap (·.2)).length + 1
  | [] => rfl
  | (k, ds) :: rest => by
    rw [insertError]
    split_ifs
    · rw [List.flatMap_cons, List.flatMap_cons]
      simp only [List.length_append, List.length_singleton]
      omega
    · rw [List.flatMap_cons, List.flatMap_cons, List.length_append, List.length_append,
        length_insertError name d rest, Nat.add_assoc]

/-- A failure counts one, also under a name that has failed before. -/
theorem errorCount_addError (r : Report) (name : String) (d : Diagnostic) :
    (r.addError name d).errorCount = r.errorCount + 1 :=
  length_insertError name d r.errors

/-- **There are as many diagnostics as failures.** -/
theorem errorCount_ofNotes (notes : List Note) :
    (ofNotes notes).errorCount = (failures notes).length := by
  induction notes using List.reverseRecOn with
  | nil => rfl
  | append_singleton notes n ih =>
    rw [ofNotes_append]
    cases n with
    | success name => rw [failures_append_success, ← ih]; rfl
    | failure name d =>
      rw [note, errorCount_addError, ih, failures_append_failure, List.length_append,
        List.length_singleton]

/-- There are as many groups as names that fail. -/
theorem length_errors_ofNotes (notes : List Note) :
    (ofNotes notes).errors.length = ((failures notes).map (·.1)).toFinset.card := by
  have hnames : (ofNotes notes).failingNames.toFinset = ((failures notes).map (·.1)).toFinset := by
    rw [failingNames_ofNotes]
    ext name
    simp
  rw [← hnames, List.toFinset_card_of_nodup (nodup_failingNames_ofNotes notes), failingNames,
    List.length_map]

/-- A name fails exactly if it is noted as a failure. -/
theorem mem_failingNames_ofNotes {notes : List Note} {name : String} :
    name ∈ (ofNotes notes).failingNames ↔ ∃ d, .failure name d ∈ notes := by
  rw [failingNames_ofNotes, List.mem_eraseDups, List.mem_map]
  constructor
  · rintro ⟨⟨name, d⟩, hf, rfl⟩
    exact ⟨d, mem_failures.mp hf⟩
  · rintro ⟨d, hd⟩
    exact ⟨(name, d), mem_failures.mpr hd, rfl⟩

theorem hasErrors_ofNotes_iff (notes : List Note) :
    (ofNotes notes).hasErrors = true ↔ ∃ name d, .failure name d ∈ notes := by
  rw [← Bool.not_eq_false, hasErrors_eq_false_iff, List.eq_nil_iff_forall_not_mem]
  push Not
  exact exists_congr fun name => mem_failingNames_ofNotes

/-- A noun behind its count, with an `s` unless there is just one. -/
theorem counted_eq (count : Nat) (noun : String) :
    counted count noun = toString count ++ (" " ++ noun) ++ if count = 1 then "" else "s" := by
  unfold counted
  split_ifs with h
  · rw [h, String.append_empty, ← String.append_assoc]
    rfl
  · rw [← String.append_assoc]

/-! ### The tally -/

/-- What notes leave in a report. -/
structure Tallies (notes : List Note) (r : Report) : Prop where
  /-- One diagnostic is counted for each failure. -/
  count : r.errorCount = notes.countP fun n => n.failure?.isSome
  /-- There are errors exactly if something failed. -/
  hasErrors : r.hasErrors = true ↔ ∃ name d, .failure name d ∈ notes
  /-- Each name that failed has one group: its diagnostics in the order of the notes. The groups stand
  in the order in which their names failed first. -/
  errors : r.errors = ((failures notes).map (·.1)).eraseDups.map fun name =>
    (name, diagnosticsOf (failures notes) name)
  /-- No name has two groups. -/
  nodup : (r.errors.map (·.1)).Nodup
  /-- The successes stand in the order of the notes. -/
  successes : r.successes = notes.filterMap Note.success?
  /-- Each failure is found under its name, whatever else is noted. -/
  found : ∀ name d, .failure name d ∈ notes → ∃ ds, r.errors.lookup name = some ds ∧ d ∈ ds
  /-- Without one of the successes, the errors would be the same. -/
  undisturbed : ∀ front name back, notes = front ++ .success name :: back →
    r.errors = (ofNotes (front ++ back)).errors
  /-- The summary states how many failures there were, and of how many names. -/
  summary : r.summary =
    let count := notes.countP fun n => n.failure?.isSome
    let names := ((failures notes).map (·.1)).toFinset.card
    toString count ++ " error" ++ (if count = 1 then "" else "s") ++ " in " ++
      toString names ++ " template" ++ if names = 1 then "" else "s"

/-- **A report tallies what is noted in it**, whatever that is and in whatever order. -/
theorem tallies_ofNotes (notes : List Note) : Tallies notes (ofNotes notes) where
  count := by rw [errorCount_ofNotes, failures, List.length_filterMap_eq_countP]
  hasErrors := hasErrors_ofNotes_iff notes
  errors := errors_ofNotes notes
  nodup := nodup_failingNames_ofNotes notes
  successes := successes_ofNotes notes
  found name d hd := by
    have hname : name ∈ (ofNotes notes).failingNames := mem_failingNames_ofNotes.mpr ⟨d, hd⟩
    obtain ⟨ds, hds⟩ := Option.ne_none_iff_exists'.mp (mem_failingNames_iff.mp hname)
    refine ⟨ds, hds, ?_⟩
    have hgroup := getD_lookup_ofNotes notes name
    rw [hds, Option.getD_some] at hgroup
    rw [hgroup, diagnosticsOf]
    exact List.mem_map.mpr ⟨(name, d), by simpa using mem_failures.mpr hd, rfl⟩
  undisturbed front name back h := by
    rw [errors_ofNotes, errors_ofNotes, h, failures_without_success]
  summary := by
    have hcount := errorCount_ofNotes notes
    rw [failures, List.length_filterMap_eq_countP] at hcount
    have herror : " " ++ "error" = " error" := rfl
    have htemplate : " " ++ "template" = " template" := rfl
    rw [summary, counted_eq, counted_eq, hcount, length_errors_ofNotes, herror, htemplate]
    simp only [String.append_assoc]

-- One name fails twice and succeeds, another fails once in between.
example : (ofNotes [.failure "a" (.simple "1"), .failure "b" (.simple "2"), .success "a",
    .failure "a" (.simple "3")]).summary = "3 errors in 2 templates" := by decide +kernel

end Report
end ChartRender
