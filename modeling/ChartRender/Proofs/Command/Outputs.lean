import ChartRender.Command.Render
import ChartRender.Proofs.Text.Trim
/-!
# Joined outputs

The outputs of a directory are joined section by section, in their order: a line with the name of the
template, and the text without the white space around it. So the printed lines of the text follow in
their order, and each is indented as in the text but the first, which starts at the margin
(`joinOutputs_keeps_lines`).

Key definitions: `Text.KeepsLines`.
Key theorems: `Text.keepsLines_trim`, `joinOutputs_keeps_lines`.
-/

namespace ChartRender

namespace Text

/-- How the printed lines of a text stand in the body of its section. -/
structure KeepsLines (text body : List Char) : Prop where
  /-- They are the same lines in the same order, but for the white space in front of the first and
  behind the last. -/
  lines : printedLines body = ((printedLines text).modifyHead trimStart).modifyLast trimEnd
  /-- They are indented as before, but for the first, which is not indented. -/
  indents : (printedLines body).map indent =
    ((printedLines text).map indent).modifyHead fun _ => []
  /-- So the indentation is kept exactly if the first of them had none. -/
  indents_kept : (printedLines body).map indent = (printedLines text).map indent ↔
    ∀ line, (printedLines text).head? = some line → indent line = []

theorem keepsLines_trim (text : List Char) : KeepsLines text (trim text) where
  lines := printedLines_trim text
  indents := indents_trim text
  indents_kept := by
    rw [indents_trim]
    cases printedLines text with
    | nil => simp
    | cons first rest =>
      rw [List.map_cons, List.modifyHead_cons, List.head?_cons]
      constructor
      · intro h line hl
        obtain rfl := Option.some.inj hl
        exact (List.cons.inj h).1.symm
      · intro h
        rw [h first rfl]

end Text

open Text

/-- **Joined outputs have one section for each output, in order**, which starts with the line that
names it; in a section the lines are those of the text, and all but the first are indented as in it. -/
theorem joinOutputs_keeps_lines (outputs : List (String × String)) : ∃ parts : List String,
    joinOutputs outputs = Text.join "\n" parts ∧
      List.Forall₂ (fun output part => ∃ body : List Char,
        part = "# Source: " ++ output.1 ++ "\n" ++ String.ofList body ++ "\n" ∧
          KeepsLines output.2.toList body) outputs parts := by
  refine ⟨_, rfl, List.forall₂_map_right_iff.mpr (List.forall₂_same.mpr fun output _ => ?_)⟩
  exact ⟨trim output.2.toList, rfl, keepsLines_trim _⟩

/-- A text whose lines are all indented alike loses the indentation of its first line. -/
theorem joinOutputs_unindents :
    let text := "  a: 1\n  b: 2\n"
    let body := "a: 1\n  b: 2\n"
    joinOutputs [("a.yaml", text)] = "# Source: a.yaml\n" ++ body ∧
      (printedLines text.toList).map indent = [[' ', ' '], [' ', ' ']] ∧
      (printedLines body.toList).map indent = [[], [' ', ' ']] := by
  decide

end ChartRender
