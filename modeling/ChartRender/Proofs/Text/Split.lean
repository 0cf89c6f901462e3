import ChartRender.Text.Basic
/-!
# Texts with separators

A text is cut at a separator into the pieces that were joined with it, as long as none of them has the
separator in it. Cut only once, it is cut where the separator stands first.

Key theorems: `Text.split_append`, `Text.split_join`, `Text.splitFirst?_eq_some_iff`.
-/

namespace ChartRender.Text

theorem split_of_notMem {separator : Char} : ∀ {cs : List Char}, separator ∉ cs →
    split separator cs = [cs]
  | [], _ => rfl
  | c :: cs, h => by
    rw [List.mem_cons, not_or] at h
    rw [split, if_neg (Ne.symm h.1), split_of_notMem h.2]

theorem split_append {separator : Char} (ds : List Char) : ∀ {cs : List Char}, separator ∉ cs →
    split separator (cs ++ separator :: ds) = cs :: split separator ds
  | [], _ => by rw [List.nil_append, split, if_pos rfl]
  | c :: cs, h => by
    rw [List.mem_cons, not_or] at h
    rw [List.cons_append, split, if_neg (Ne.symm h.1), split_append ds h.2]

/-- **What was joined is split again into the same texts**, if none has the separator in it. -/
theorem split_join (separator : Char) : ∀ {texts : List String}, texts ≠ [] →
    (∀ s ∈ texts, separator ∉ s.toList) →
    split separator (join (String.singleton separator) texts).toList = texts.map String.toList
  | [s], _, h => split_of_notMem (h s List.mem_cons_self)
  | s :: t :: rest, _, h => by
    rw [List.forall_mem_cons] at h
    have ih := split_join separator (List.cons_ne_nil t rest) h.2
    have hj : join (String.singleton separator) (s :: t :: rest) =
        s ++ String.singleton separator ++ join (String.singleton separator) (t :: rest) := rfl
    rw [hj, String.toList_append, String.toList_append, String.toList_singleton,
      List.append_assoc, List.singleton_append, split_append _ h.1, ih]
    rfl

theorem mem_join {separator : String} {c : Char} : ∀ {texts : List String},
    c ∈ (join separator texts).toList → c ∈ separator.toList ∨ ∃ s ∈ texts, c ∈ s.toList
  | [s], h => Or.inr ⟨s, List.mem_singleton_self s, h⟩
  | s :: t :: rest, h => by
    have hj : join separator (s :: t :: rest) = s ++ separator ++ join separator (t :: rest) := rfl
    rw [hj, String.toList_append, String.toList_append, List.mem_append, List.mem_append] at h
    rcases h with (h | h) | h
    · exact Or.inr ⟨s, List.mem_cons_self, h⟩
    · exact Or.inl h
    · exact (mem_join h).imp_right fun ⟨u, hu, hc⟩ => ⟨u, List.mem_cons_of_mem s hu, hc⟩

/-! ### The first separator -/

theorem splitFirst?_eq_none_iff {separator : Char} {cs : List Char} :
    splitFirst? separator cs = none ↔ separator ∉ cs := by
  induction cs with
  | nil => simp [splitFirst?]
  | cons c cs ih =>
    rw [splitFirst?, List.mem_cons, not_or, ← ih]
    by_cases hc : c = separator
    · simp [hc]
    · simp [hc, Ne.symm hc]

theorem splitFirst?_append {separator : Char} (after : List Char) : ∀ {before : List Char},
    separator ∉ before → splitFirst? separator (before ++ separator :: after) = some (before, after)
  | [], _ => by rw [List.nil_append, splitFirst?, if_pos rfl]
  | c :: before, h => by
    rw [List.mem_cons, not_or] at h
    rw [List.cons_append, splitFirst?, if_neg (Ne.symm h.1), splitFirst?_append after h.2]
    rfl

/-- **The first separator is the one that has none before it.** -/
theorem splitFirst?_eq_some_iff {separator : Char} {cs before after : List Char} :
    splitFirst? separator cs = some (before, after) ↔
      cs = before ++ separator :: after ∧ separator ∉ before := by
  constructor
  · intro h
    have hm : separator ∈ cs := Decidable.byContradiction fun hn => by
      rw [splitFirst?_eq_none_iff.mpr hn] at h
      cases h
    obtain ⟨front, back, rfl, hf⟩ := List.eq_append_cons_of_mem hm
    rw [splitFirst?_append back hf] at h
    cases h
    exact ⟨rfl, hf⟩
  · rintro ⟨rfl, hb⟩
    exact splitFirst?_append after hb

end ChartRender.Text
