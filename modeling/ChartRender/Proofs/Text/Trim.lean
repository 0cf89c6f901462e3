import ChartRender.Proofs.Text.Lines
import ChartRender.Text.Basic
import Mathlib
/-!
# Lines of a trimmed text

Trimming a text takes away the blank lines at its start and its end, the white space in front of the
first line that is left, and the white space behind the last one. All other lines stay as they are
(`Text.printedLines_trim`). So every printed line but the first keeps its indentation
(`Text.indents_trim`).

Key definitions: `Text.printedLines`, `Text.indent`.
Key theorems: `Text.lineInduction`, `Text.printedLines_trim`, `Text.indents_trim`.
-/

namespace ChartRender.Text

/-- The lines of a text on which there is more than white space. -/
def printedLines (cs : List Char) : List (List Char) :=
  (linesFrom [] cs).filter fun line => !line.all isBlank

/-- The white space at the start of a line. -/
def indent (line : List Char) : List Char := line.takeWhile isBlank

/-! ### White space at the ends -/

section
variable {cs ds line : List Char}

theorem trimStart_eq_nil_iff : trimStart cs = [] ↔ cs.all isBlank = true := by
  rw [trimStart, List.dropWhile_eq_nil_iff, List.all_eq_true]

theorem trimStart_append_of_blank (h : cs.all isBlank = true) (ds : List Char) :
    trimStart (cs ++ ds) = trimStart ds :=
  List.dropWhile_append_of_pos (List.all_eq_true.mp h)

theorem trimStart_append (h : cs.all isBlank = false) (ds : List Char) :
    trimStart (cs ++ ds) = trimStart cs ++ ds := by
  have hne : trimStart cs ≠ [] := fun hn => by simp [trimStart_eq_nil_iff.mp hn] at h
  unfold trimStart at hne ⊢
  rw [List.dropWhile_append, if_neg (by simpa using hne)]

theorem trimEnd_append_of_blank (cs : List Char) (h : ds.all isBlank = true) :
    trimEnd (cs ++ ds) = trimEnd cs := by
  rw [trimEnd, List.reverse_append, trimStart_append_of_blank (by rwa [List.all_reverse])]
  rfl

theorem trimEnd_append (cs : List Char) (h : ds.all isBlank = false) :
    trimEnd (cs ++ ds) = cs ++ trimEnd ds := by
  rw [trimEnd, List.reverse_append, trimStart_append (by rwa [List.all_reverse]),
    List.reverse_append, List.reverse_reverse]
  rfl

theorem exists_trimStart (cs : List Char) :
    ∃ blank, blank.all isBlank = true ∧ cs = blank ++ trimStart cs := by
  refine ⟨cs.takeWhile isBlank, ?_, List.takeWhile_append_dropWhile.symm⟩
  exact List.all_eq_true.mpr fun c hc => List.mem_takeWhile_imp hc

theorem exists_trimEnd (cs : List Char) :
    ∃ blank, blank.all isBlank = true ∧ cs = trimEnd cs ++ blank := by
  obtain ⟨blank, hb, hcs⟩ := exists_trimStart cs.reverse
  refine ⟨blank.reverse, by rwa [List.all_reverse], ?_⟩
  rw [trimEnd, ← List.reverse_append, ← hcs, List.reverse_reverse]

theorem all_isBlank_trimStart (cs : List Char) :
    (trimStart cs).all isBlank = cs.all isBlank := by
  obtain ⟨blank, hb, hcs⟩ := exists_trimStart cs
  conv_rhs => rw [hcs, List.all_append, hb, Bool.true_and]

theorem all_isBlank_trimEnd (cs : List Char) : (trimEnd cs).all isBlank = cs.all isBlank := by
  obtain ⟨blank, hb, hcs⟩ := exists_trimEnd cs
  conv_rhs => rw [hcs, List.all_append, hb, Bool.and_true]

end

/-! ### A line and its line end -/

/-- What a line loses with its line end is white space. -/
theorem exists_dropReturn (line : List Char) :
    ∃ ending, ending.all isBlank = true ∧ line = dropReturn line ++ ending := by
  refine ⟨_, ?_, (dropReturn_append line).symm⟩
  split_ifs
  · decide
  · rfl

theorem all_isBlank_dropReturn (line : List Char) :
    (dropReturn line).all isBlank = line.all isBlank := by
  obtain ⟨ending, he, hline⟩ := exists_dropReturn line
  conv_rhs => rw [hline, List.all_append, he, Bool.and_true]

theorem trimEnd_dropReturn (line : List Char) : trimEnd (dropReturn line) = trimEnd line := by
  obtain ⟨ending, he, hline⟩ := exists_dropReturn line
  conv_rhs => rw [hline, trimEnd_append_of_blank _ he]

/-- On a line with more than white space it does not matter which end is looked at first. -/
theorem trimStart_dropReturn {line : List Char} (h : line.all isBlank = false) :
    trimStart (dropReturn line) = dropReturn (trimStart line) := by
  have happend := dropReturn_append line
  by_cases hr : line.getLast? = some '\r'
  · rw [if_pos hr] at happend
    have hd : (dropReturn line).all isBlank = false := by rw [all_isBlank_dropReturn, h]
    conv_rhs => rw [← happend, trimStart_append hd]
    rw [dropReturn, dropReturn, if_pos List.getLast?_concat, List.dropLast_concat]
  · obtain ⟨blank, -, hline⟩ := exists_trimStart line
    have hne : trimStart line ≠ [] := fun hn => by simp [trimStart_eq_nil_iff.mp hn] at h
    rw [hline, List.getLast?_append_of_ne_nil _ hne] at hr
    rw [if_neg (by rwa [hline, List.getLast?_append_of_ne_nil _ hne]), List.append_nil] at happend
    rw [happend, dropReturn, if_neg hr]

/-! ### Line by line -/

/-- Induction over the lines of a text, from the last one on. -/
@[elab_as_elim]
theorem lineInduction {P : List Char → Prop} (last : ∀ cs, '\n' ∉ cs → P cs)
    (line : ∀ line rest, '\n' ∉ line → P rest → P (line ++ '\n' :: rest)) (cs : List Char) :
    P cs := by
  induction hn : cs.length using Nat.strong_induction_on generalizing cs with
  | h n ih =>
    rcases line_cases cs with hcs | ⟨first, rest, hfirst, rfl⟩
    · exact last cs hcs
    · refine line first rest hfirst (ih rest.length ?_ rest rfl)
      rw [← hn, List.length_append, List.length_cons]
      omega

theorem printedLines_last {cs : List Char} (h : '\n' ∉ cs) :
    printedLines cs = if cs.all isBlank then [] else [cs] := by
  rw [printedLines, linesFrom_of_notMem [] h]
  cases cs with
  | nil => rfl
  | cons c cs =>
    by_cases hb : (c :: cs).all isBlank = true
    · simp [hb]
    · simp [hb]

theorem printedLines_line {line : List Char} (h : '\n' ∉ line) (rest : List Char) :
    printedLines (line ++ '\n' :: rest) =
      (if line.all isBlank then [] else [dropReturn line]) ++ printedLines rest := by
  rw [printedLines, linesFrom_append rest [] h, List.reverse_nil, List.nil_append,
    List.filter_cons, all_isBlank_dropReturn]
  by_cases hb : line.all isBlank = true
  · simp [hb, printedLines]
  · simp [hb, printedLines]

theorem printedLines_eq_nil_iff (cs : List Char) :
    printedLines cs = [] ↔ cs.all isBlank = true := by
  induction cs using lineInduction with
  | last cs h =>
    rw [printedLines_last h]
    split_ifs with hb <;> simp [hb]
  | line line rest h ih =>
    have hfeed : isBlank '\n' = true := by decide
    rw [printedLines_line h, List.append_eq_nil_iff, ih, List.all_append, List.all_cons, hfeed,
      Bool.true_and, Bool.and_eq_true]
    refine and_congr_left fun _ => ?_
    split_ifs with hb <;> simp [hb]

/-- Trimming the start takes blank lines away, and the indentation of the first line that is left. -/
theorem printedLines_trimStart (cs : List Char) :
    printedLines (trimStart cs) = (printedLines cs).modifyHead trimStart := by
  induction cs using lineInduction with
  | last cs h =>
    obtain ⟨blank, -, hcs⟩ := exists_trimStart cs
    have hstart : '\n' ∉ trimStart cs := fun hm => h (hcs ▸ List.mem_append_right _ hm)
    rw [printedLines_last hstart, printedLines_last h, all_isBlank_trimStart]
    split_ifs <;> rfl
  | line line rest h ih =>
    cases hb : line.all isBlank with
    | true =>
      have hline : (line ++ ['\n']).all isBlank = true := by
        rw [List.all_append, hb]
        decide
      have hsplit : line ++ '\n' :: rest = (line ++ ['\n']) ++ rest := by simp
      rw [printedLines_line h, hb, if_pos rfl, List.nil_append, ← ih, hsplit,
        trimStart_append_of_blank hline]
    | false =>
      obtain ⟨blank, -, hline⟩ := exists_trimStart line
      have hstart : '\n' ∉ trimStart line := fun hm => h (hline ▸ List.mem_append_right _ hm)
      rw [trimStart_append hb, printedLines_line hstart, printedLines_line h,
        all_isBlank_trimStart, hb, if_neg Bool.false_ne_true, if_neg Bool.false_ne_true,
        ← trimStart_dropReturn hb]
      rfl

/-- Trimming the end takes blank lines away, and the white space behind the last line that is left. -/
theorem printedLines_trimEnd (cs : List Char) :
    printedLines (trimEnd cs) = (printedLines cs).modifyLast trimEnd := by
  induction cs using lineInduction with
  | last cs h =>
    obtain ⟨blank, -, hcs⟩ := exists_trimEnd cs
    have hend : '\n' ∉ trimEnd cs := fun hm => h (hcs ▸ List.mem_append_left _ hm)
    rw [printedLines_last hend, printedLines_last h, all_isBlank_trimEnd]
    split_ifs <;> rfl
  | line line rest h ih =>
    cases hb : rest.all isBlank with
    | true =>
      have hrest : ('\n' :: rest).all isBlank = true := by
        rw [List.all_cons, hb]
        decide
      obtain ⟨blank, -, hline⟩ := exists_trimEnd line
      have hend : '\n' ∉ trimEnd line := fun hm => h (hline ▸ List.mem_append_left _ hm)
      rw [trimEnd_append_of_blank line hrest, printedLines_last hend, printedLines_line h,
        (printedLines_eq_nil_iff rest).mpr hb, all_isBlank_trimEnd, List.append_nil,
        ← trimEnd_dropReturn]
      split_ifs <;> rfl
    | false =>
      have hne : printedLines rest ≠ [] := fun hn => by
        simp [(printedLines_eq_nil_iff rest).mp hn] at hb
      have htrim : trimEnd (line ++ '\n' :: rest) = line ++ '\n' :: trimEnd rest := by
        have := trimEnd_append (line ++ ['\n']) hb
        simpa using this
      rw [htrim, printedLines_line h, printedLines_line h, ih,
        List.modifyLast_append_of_right_ne_nil _ _ _ hne]

/-- **Trimming changes two lines at most**: the first line that is printed loses its indentation, and
the last one the white space behind it. -/
theorem printedLines_trim (cs : List Char) : printedLines (trim cs) =
    ((printedLines cs).modifyHead trimStart).modifyLast trimEnd := by
  rw [trim, printedLines_trimEnd, printedLines_trimStart]

/-! ### Indentation -/

theorem indent_trimStart (line : List Char) : indent (trimStart line) = [] := by
  induction line with
  | nil => rfl
  | cons c cs ih =>
    unfold indent trimStart at ih ⊢
    by_cases hc : isBlank c = true
    · rwa [List.dropWhile_cons_of_pos hc]
    · rw [List.dropWhile_cons_of_neg hc, List.takeWhile_cons_of_neg hc]

theorem indent_trimEnd {line : List Char} (h : line.all isBlank = false) :
    indent (trimEnd line) = indent line := by
  obtain ⟨blank, -, hline⟩ := exists_trimEnd line
  have hstop : ¬ ((trimEnd line).takeWhile isBlank).length = (trimEnd line).length := by
    intro hl
    have hall := List.takeWhile_eq_self_iff.mp ((List.takeWhile_prefix isBlank).eq_of_length hl)
    rw [← all_isBlank_trimEnd, List.all_eq_true.mpr hall] at h
    cases h
  conv_rhs => rw [indent, hline, List.takeWhile_append, if_neg hstop]
  rfl

/-- **Of the indentations trimming takes away the first**, and leaves all others. -/
theorem indents_trim (cs : List Char) : (printedLines (trim cs)).map indent =
    ((printedLines cs).map indent).modifyHead fun _ => [] := by
  have hprinted : ∀ line ∈ printedLines (trimStart cs), line.all isBlank = false := by
    intro line hm
    simpa using (List.mem_filter.mp hm).2
  have hend : (printedLines (trimEnd (trimStart cs))).map indent =
      (printedLines (trimStart cs)).map indent := by
    rw [printedLines_trimEnd]
    rcases List.eq_nil_or_concat' (printedLines (trimStart cs)) with hn | ⟨front, last, hl⟩
    · rw [hn]
      rfl
    · rw [hl] at hprinted ⊢
      rw [List.modifyLast_concat, List.map_append, List.map_append, List.map_singleton,
        List.map_singleton, indent_trimEnd (hprinted last (by simp))]
  rw [trim, hend, printedLines_trimStart]
  cases printedLines cs with
  | nil => rfl
  | cons first rest =>
    rw [List.modifyHead_cons, List.map_cons, List.map_cons, List.modifyHead_cons, indent_trimStart]

end ChartRender.Text
