import ChartRender.Text.Basic
/-!
# Where lines stand

What `lineSpan` reports for the number of a line, against the place of that line in the text
(`Text.IsLine`). The span is as long as the line, and it starts where the line starts if every line
end before it is a single line feed; each line end of two characters moves it one byte to the front
(`lineSpan_marks`).

Key definitions: `Text.IsLine`, `Text.longLineEnds`, `Text.Marks`.
Key theorems: `Text.linesFrom_append`, `Text.lines_join`, `Text.lineSpan_marks`.
-/

namespace ChartRender.Text

/-- The line with a number, counted from one, in a text: what stands before the line, the line, and
what stands behind it, from its line end on. -/
structure IsLine (source : List Char) (number : Nat) (before line after : List Char) : Prop where
  split : source = before ++ (line ++ after)
  number_eq : number = before.count '\n' + 1
  starts : ∀ c, before.getLast? = some c → c = '\n'
  within : '\n' ∉ line
  ends : after = [] ∨ (∃ rest, after = '\n' :: rest ∧ line.getLast? ≠ some '\r') ∨
    ∃ rest, after = '\r' :: '\n' :: rest

/-- The number of line ends that consist of a carriage return and a line feed. -/
def longLineEnds : List Char → Nat
  | c :: d :: cs => (if c = '\r' ∧ d = '\n' then 1 else 0) + longLineEnds (d :: cs)
  | _ => 0

/-- A span that has the length of the line with a number and starts where it starts, but for one byte
for each longer line end before it. -/
def Marks (source : String) (number : Nat) (span : Span) : Prop :=
  ∃ before line after, IsLine source.toList number before line after ∧
    span.length = byteLength line ∧ span.offset + longLineEnds before = byteLength before

/-! ### Lengths and line ends -/

theorem byteLength_append : ∀ cs ds : List Char,
    byteLength (cs ++ ds) = byteLength cs + byteLength ds
  | [], ds => (Nat.zero_add _).symm
  | c :: cs, ds => by
    rw [List.cons_append, byteLength, byteLength, byteLength_append cs ds, Nat.add_assoc]

/-- The line ends of a text are those behind its first line and that of the first line. -/
theorem longLineEnds_append (rest : List Char) : ∀ {line : List Char}, '\n' ∉ line →
    longLineEnds (line ++ '\n' :: rest) =
      (if line.getLast? = some '\r' then 1 else 0) + longLineEnds ('\n' :: rest)
  | [], _ => (Nat.zero_add _).symm
  | [c], _ => by simp [longLineEnds]
  | c :: d :: line, h => by
    have hd : d ≠ '\n' := fun hd => h (hd ▸ List.mem_cons_of_mem _ List.mem_cons_self)
    have hline : '\n' ∉ d :: line := fun hm => h (List.mem_cons_of_mem _ hm)
    have ih := longLineEnds_append rest hline
    rw [List.cons_append, List.cons_append, longLineEnds, if_neg fun hc => hd hc.2, Nat.zero_add,
      ← List.cons_append, ih, List.getLast?_cons_cons]

theorem longLineEnds_feed (cs : List Char) : longLineEnds ('\n' :: cs) = longLineEnds cs := by
  cases cs with
  | nil => rfl
  | cons c cs => simp [longLineEnds]

/-- A line loses nothing but the carriage return of its line end. -/
theorem dropReturn_append (line : List Char) :
    dropReturn line ++ (if line.getLast? = some '\r' then ['\r'] else []) = line := by
  unfold dropReturn
  split
  · rename_i h
    obtain ⟨hne, hlast⟩ := List.getLast?_eq_some_iff.mp h
    rw [hlast, List.dropLast_concat]
  · exact List.append_nil line

/-! ### The first line -/

theorem linesFrom_append (rest : List Char) : ∀ (acc : List Char) {line : List Char}, '\n' ∉ line →
    linesFrom acc (line ++ '\n' :: rest) = dropReturn (acc.reverse ++ line) :: linesFrom [] rest
  | acc, [], _ => by simp [linesFrom]
  | acc, c :: line, h => by
    have hc : c ≠ '\n' := fun hc => h (hc ▸ List.mem_cons_self)
    have hline : '\n' ∉ line := fun hm => h (List.mem_cons_of_mem _ hm)
    rw [List.cons_append, linesFrom, if_neg hc, linesFrom_append rest (c :: acc) hline]
    simp

theorem linesFrom_of_notMem : ∀ (acc : List Char) {line : List Char}, '\n' ∉ line →
    linesFrom acc line = if (acc.reverse ++ line).isEmpty then [] else [acc.reverse ++ line]
  | acc, [], _ => by simp [linesFrom]
  | acc, c :: line, h => by
    have hc : c ≠ '\n' := fun hc => h (hc ▸ List.mem_cons_self)
    have hline : '\n' ∉ line := fun hm => h (List.mem_cons_of_mem _ hm)
    rw [linesFrom, if_neg hc, linesFrom_of_notMem (c :: acc) hline]
    simp

/-- **The lines of a text are those that it was put together from**, if none has a line end in it. -/
theorem lines_join : ∀ {texts : List String}, (∀ s ∈ texts, '\n' ∉ s.toList ∧ '\r' ∉ s.toList) →
    lines (String.join (texts.map (· ++ "\n"))) = texts.map String.toList
  | [], _ => rfl
  | s :: rest, h => by
    rw [List.forall_mem_cons] at h
    obtain ⟨⟨hfeed, hreturn⟩, hrest⟩ := h
    have ih := lines_join hrest
    have hdrop : dropReturn s.toList = s.toList :=
      if_neg fun hlast => hreturn (List.mem_of_getLast? hlast)
    have hjoin : (String.join ((s :: rest).map (· ++ "\n"))).toList =
        s.toList ++ '\n' :: (String.join (rest.map (· ++ "\n"))).toList := by
      simp [String.toList_join]
    rw [lines] at ih ⊢
    rw [hjoin, linesFrom_append _ [] hfeed, List.reverse_nil, List.nil_append, hdrop, ih,
      List.map_cons]

/-- A text is one line without a line end, or a line with its line end and more text. -/
theorem line_cases (cs : List Char) :
    '\n' ∉ cs ∨ ∃ line rest, '\n' ∉ line ∧ cs = line ++ '\n' :: rest := by
  by_cases h : '\n' ∈ cs
  · obtain ⟨line, rest, hcs, hline⟩ := List.eq_append_cons_of_mem h
    exact Or.inr ⟨line, rest, hline, hcs⟩
  · exact Or.inl h

theorem IsLine.first {line rest : List Char} (h : '\n' ∉ line) :
    ∃ after, IsLine (line ++ '\n' :: rest) 1 [] (dropReturn line) after := by
  have hdrop := dropReturn_append line
  have hmem : '\n' ∉ dropReturn line := fun hm => h (hdrop ▸ List.mem_append_left _ hm)
  refine ⟨(if line.getLast? = some '\r' then ['\r'] else []) ++ '\n' :: rest, ?_, rfl, nofun, hmem, ?_⟩
  · rw [List.nil_append, ← List.append_assoc, hdrop]
  · by_cases hr : line.getLast? = some '\r'
    · rw [if_pos hr]
      exact Or.inr (Or.inr ⟨rest, rfl⟩)
    · rw [if_neg hr]
      refine Or.inr (Or.inl ⟨rest, rfl, ?_⟩)
      rwa [dropReturn, if_neg hr]

/-- The lines behind the first one have the same places in the whole text, further back. -/
theorem IsLine.behind {first rest before line after : List Char} {number : Nat}
    (hf : '\n' ∉ first) (h : IsLine rest number before line after) :
    IsLine (first ++ '\n' :: rest) (number + 1) (first ++ '\n' :: before) line after where
  split := by rw [h.split, List.append_assoc, List.cons_append]
  number_eq := by
    rw [h.number_eq, List.count_append, List.count_cons_self, List.count_eq_zero.mpr hf,
      Nat.zero_add]
  starts c hc := by
    cases hb : before with
    | nil =>
      rw [hb, List.getLast?_concat] at hc
      exact (Option.some.inj hc).symm
    | cons d before =>
      refine h.starts c ?_
      rw [hb] at hc ⊢
      rwa [List.getLast?_append, List.getLast?_cons_cons, List.getLast?_cons, Option.some_or,
        ← List.getLast?_cons] at hc
  within := h.within
  ends := h.ends

/-! ### Spans -/

theorem byteLength_dropReturn (line : List Char) : byteLength (dropReturn line) +
    (if line.getLast? = some '\r' then 1 else 0) = byteLength line := by
  have h := congrArg byteLength (dropReturn_append line)
  rw [byteLength_append] at h
  rw [← h]
  split <;> rfl

/-- What is found for the number of a line in a text that starts at an offset. -/
theorem spanFrom_marks {span : Span} : ∀ {number offset : Nat} {cs : List Char},
    spanFrom offset (linesFrom [] cs) number = some span →
    ∃ before line after, IsLine cs number before line after ∧
      (linesFrom [] cs)[number - 1]? = some line ∧ span.length = byteLength line ∧
      span.offset + longLineEnds before = offset + byteLength before
  | 0, offset, cs, h => by
    cases hl : linesFrom [] cs <;> rw [hl] at h <;> cases h
  | 1, offset, cs, h => by
    rcases line_cases cs with hcs | ⟨line, rest, hline, rfl⟩
    · rw [linesFrom_of_notMem [] hcs] at h
      cases cs with
      | nil => cases h
      | cons c cs =>
        cases h
        rw [linesFrom_of_notMem [] hcs]
        exact ⟨[], c :: cs, [], ⟨(List.append_nil _).symm, rfl, nofun, hcs, Or.inl rfl⟩, rfl, rfl, rfl⟩
    · rw [linesFrom_append rest [] hline] at h ⊢
      cases h
      obtain ⟨after, hfirst⟩ := IsLine.first hline
      exact ⟨[], _, after, hfirst, rfl, rfl, rfl⟩
  | number + 2, offset, cs, h => by
    rcases line_cases cs with hcs | ⟨first, rest, hfirst, rfl⟩
    · rw [linesFrom_of_notMem [] hcs] at h
      cases cs <;> cases h
    · rw [linesFrom_append rest [] hfirst] at h ⊢
      obtain ⟨before, line, after, hl, hline, hlength, hoffset⟩ := spanFrom_marks h
      refine ⟨_, line, after, hl.behind hfirst, hline, hlength, ?_⟩
      have hdrop := byteLength_dropReturn first
      have hfeed : byteLength ('\n' :: before) = 1 + byteLength before := rfl
      simp only [List.reverse_nil, List.nil_append] at hoffset
      rw [longLineEnds_append before hfirst, longLineEnds_feed, byteLength_append, hfeed]
      omega

/-- **The span of a line is that of the line**, but for a byte for each longer line end before it. -/
theorem lineSpan_marks {source : String} {number : Nat} {span : Span}
    (h : lineSpan source number = some span) : Marks source number span := by
  obtain ⟨before, line, after, hl, -, hlength, hoffset⟩ := spanFrom_marks h
  exact ⟨before, line, after, hl, hlength, hoffset.trans (Nat.zero_add _)⟩

-- The second line starts at the fourth byte.
example : lineSpan "a\r\nbc" 2 = some ⟨2, 2⟩ := by decide

end ChartRender.Text
