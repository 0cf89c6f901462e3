import ChartRender.Text.Basic
import Mathlib
/-!
# What replacing does to a text

A text is replaced part by part if the pattern does not lie across the seam between the parts
(`Text.replaceFrom_append`); a text without the pattern stays as it is. How many characters of some
sort there are afterwards follows from the number of replacements, which is zero only if the pattern
does not occur (`Text.countP_replaceFrom`).

Key definitions: `Text.LiesAcross`.
Key theorems: `Text.replaceInduction`, `Text.replaceFrom_append`, `Text.replaceFrom_eq_self`,
`Text.countP_replaceFrom`.
-/

namespace ChartRender.Text

theorem toList_replace (s pattern new : String) :
    (replace s pattern new).toList = replaceFrom pattern.toList new.toList 0 s.toList := by
  rw [replace, String.toList_ofList]

/-! ### Step by step -/

theorem replaceFrom_skip (pattern new : List Char) : ∀ (skip : Nat) (cs : List Char),
    replaceFrom pattern new skip cs = replaceFrom pattern new 0 (cs.drop skip)
  | 0, _ => rfl
  | _ + 1, [] => rfl
  | skip + 1, _ :: cs => replaceFrom_skip pattern new skip cs

section
variable {pattern : List Char} (hp : pattern ≠ []) (new : List Char)

include hp in
theorem replaceFrom_found (rest : List Char) :
    replaceFrom pattern new 0 (pattern ++ rest) = new ++ replaceFrom pattern new 0 rest := by
  cases pattern with
  | nil => exact absurd rfl hp
  | cons p ps =>
    have hprefix : (p :: ps).isPrefixOf (p :: (ps ++ rest)) = true :=
      List.isPrefixOf_iff_prefix.mpr (List.prefix_append (p :: ps) rest)
    rw [List.cons_append, replaceFrom, if_pos hprefix, replaceFrom_skip, List.length_cons,
      Nat.add_sub_cancel, List.drop_left]

theorem replaceFrom_kept {c : Char} {rest : List Char} (h : ¬ pattern <+: c :: rest) :
    replaceFrom pattern new 0 (c :: rest) = c :: replaceFrom pattern new 0 rest := by
  rw [replaceFrom, if_neg fun hprefix => h (List.isPrefixOf_iff_prefix.mp hprefix)]

include hp in
/-- Induction over a text as it is searched: the pattern stands at the front, or the first character
is kept. -/
@[elab_as_elim]
theorem replaceInduction {P : List Char → Prop} (nil : P [])
    (found : ∀ rest, P rest → P (pattern ++ rest))
    (kept : ∀ c rest, ¬ pattern <+: c :: rest → P rest → P (c :: rest)) (cs : List Char) : P cs := by
  induction hn : cs.length using Nat.strong_induction_on generalizing cs with
  | h n ih =>
    cases cs with
    | nil => exact nil
    | cons c rest =>
      by_cases h : pattern <+: c :: rest
      · obtain ⟨back, hback⟩ := h
        have hlength := congrArg List.length hback
        have hpos := List.length_pos_of_ne_nil hp
        rw [List.length_append] at hlength
        rw [← hback]
        exact found back (ih back.length (by omega) back rfl)
      · exact kept c rest h (ih rest.length (by rw [← hn]; exact Nat.lt_succ_self _) rest rfl)

include hp in
/-- A text stays as it is if the pattern does not occur in it. -/
theorem replaceFrom_eq_self {cs : List Char} (h : ¬ pattern <:+: cs) :
    replaceFrom pattern new 0 cs = cs := by
  induction cs using replaceInduction hp with
  | nil => rfl
  | found rest _ => exact absurd (List.prefix_append pattern rest).isInfix h
  | kept c rest hc ih => rw [replaceFrom_kept new hc, ih fun hr => h (List.infix_cons hr)]

include hp in
/-- **Each replacement takes away the characters of the pattern and puts those of the new text.** -/
theorem countP_replaceFrom (cs : List Char) : ∃ n, (n = 0 ↔ ¬ pattern <:+: cs) ∧
    ∀ p : Char → Bool, (replaceFrom pattern new 0 cs).countP p + n * pattern.countP p =
      cs.countP p + n * new.countP p := by
  induction cs using replaceInduction hp with
  | nil =>
    refine ⟨0, iff_of_true rfl fun h => hp (List.infix_nil.mp h), fun p => ?_⟩
    rw [Nat.zero_mul, Nat.zero_mul]
    rfl
  | found rest ih =>
    obtain ⟨n, -, hcount⟩ := ih
    refine ⟨n + 1, iff_of_false (Nat.succ_ne_zero n)
      fun h => h (List.prefix_append pattern rest).isInfix, fun p => ?_⟩
    have := hcount p
    rw [replaceFrom_found hp, List.countP_append, List.countP_append, Nat.succ_mul, Nat.succ_mul]
    omega
  | kept c rest hc ih =>
    obtain ⟨n, hn, hcount⟩ := ih
    refine ⟨n, ?_, fun p => ?_⟩
    · rw [hn, List.infix_cons_iff, not_or, and_iff_right hc]
    · have := hcount p
      rw [replaceFrom_kept new hc, List.countP_cons, List.countP_cons]
      omega

end

/-! ### Seams -/

/-- A pattern lies across the seam between two texts: it starts at the end of one and ends at the start
of the other. -/
def LiesAcross (pattern front back : List Char) : Prop :=
  ∃ s t, s ≠ [] ∧ t ≠ [] ∧ pattern = s ++ t ∧ s <:+ front ∧ t <+: back

section
variable {pattern front back : List Char}

theorem not_liesAcross_of_head {c : Char} (h : c ∉ pattern) :
    ¬ LiesAcross pattern front (c :: back) := by
  rintro ⟨s, t, -, ht, rfl, -, htb⟩
  rcases List.prefix_cons_iff.mp htb with rfl | ⟨u, rfl, -⟩
  · exact ht rfl
  · exact h (by simp)

/-- No pattern lies across a seam if none of its beginnings can stand before it. -/
theorem not_liesAcross_of_ending {ending : List Char} (he : ending <:+ front)
    (h : ∀ n < pattern.length, 0 < n →
      ¬ pattern.take n <:+ ending ∧ ¬ ending <:+ pattern.take n) :
    ¬ LiesAcross pattern front back := by
  rintro ⟨s, t, hs, ht, rfl, hsf, -⟩
  have hlt : s.length < (s ++ t).length := by
    have := List.length_pos_of_ne_nil ht
    rw [List.length_append]
    omega
  obtain ⟨hns, hne⟩ := h s.length hlt (List.length_pos_of_ne_nil hs)
  rw [List.take_left] at hns hne
  exact (List.suffix_or_suffix_of_suffix hsf he).elim hns hne

/-- **A text is replaced part by part**, unless the pattern lies across. -/
theorem replaceFrom_append (hp : pattern ≠ []) (new : List Char)
    (h : ¬ LiesAcross pattern front back) : replaceFrom pattern new 0 (front ++ back) =
      replaceFrom pattern new 0 front ++ replaceFrom pattern new 0 back := by
  induction front using replaceInduction hp with
  | nil => rfl
  | found rest ih =>
    have hrest : ¬ LiesAcross pattern rest back := fun ⟨s, t, hs, ht, hst, hsr, htb⟩ =>
      h ⟨s, t, hs, ht, hst, hsr.trans (List.suffix_append pattern rest), htb⟩
    rw [List.append_assoc, replaceFrom_found hp, replaceFrom_found hp, ih hrest, List.append_assoc]
  | kept c rest hc ih =>
    have hrest : ¬ LiesAcross pattern rest back := fun ⟨s, t, hs, ht, hst, hsr, htb⟩ =>
      h ⟨s, t, hs, ht, hst, hsr.trans (List.suffix_cons c rest), htb⟩
    have hkept : ¬ pattern <+: c :: (rest ++ back) := by
      intro hprefix
      rw [← List.cons_append] at hprefix
      rcases List.prefix_or_prefix_of_prefix hprefix (List.prefix_append (c :: rest) back) with
        hf | ⟨t, rfl⟩
      · exact hc hf
      · have ht : t ≠ [] := by
          rintro rfl
          exact hc (by rw [List.append_nil])
        exact h ⟨c :: rest, t, by simp, ht, rfl, List.suffix_rfl,
          (List.prefix_append_right_inj _).mp hprefix⟩
    rw [List.cons_append, replaceFrom_kept new hkept, ih hrest, replaceFrom_kept new hc,
      List.cons_append]

/-- What stands behind a character that the pattern does not have is replaced on its own. -/
theorem replaceFrom_append_cons (hp : pattern ≠ []) (new : List Char) {c : Char} (hc : c ∉ pattern)
    (front back : List Char) : replaceFrom pattern new 0 (front ++ c :: back) =
      replaceFrom pattern new 0 front ++ c :: replaceFrom pattern new 0 back := by
  have hkept : ¬ pattern <+: c :: back := by
    intro h
    rcases List.prefix_cons_iff.mp h with rfl | ⟨t, rfl, -⟩
    · exact hp rfl
    · exact hc List.mem_cons_self
  rw [replaceFrom_append hp new (not_liesAcross_of_head hc), replaceFrom_kept new hkept]

end

end ChartRender.Text
