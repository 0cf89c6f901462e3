/-!
# Texts

What texts are cut into and put together from: the pieces between separators, the lines, and what is
left without white space at the ends; and the replacement of a pattern.

A text is cut into lines at each line feed; a carriage return just before it belongs to the line
end, and nothing follows the last line end. `Text.lineSpan` gives the place that a line is reported
at, by adding up the lengths of the lines before it with one byte for each line end. White space are
the characters with the Unicode property White_Space.

Key definitions: `Text.split`, `Text.splitFirst?`, `Text.join`, `Text.lines`, `Text.Span`,
`Text.lineSpan`, `Text.isBlank`, `Text.trim`, `Text.replace`.
-/

namespace ChartRender.Text

/-! ### Pieces -/

/-- The pieces of a text between the occurrences of a separator: one more than there are of it. -/
def split (separator : Char) : List Char → List (List Char)
  | [] => [[]]
  | c :: cs =>
    if c = separator then [] :: split separator cs
    else match split separator cs with
      | piece :: rest => (c :: piece) :: rest
      | [] => [[c]]

/-- What stands before and after the first separator, if there is one. -/
def splitFirst? (separator : Char) : List Char → Option (List Char × List Char)
  | [] => none
  | c :: cs =>
    if c = separator then some ([], cs)
    else (splitFirst? separator cs).map fun (before, after) => (c :: before, after)

/-- The texts one after the other with a separator between them. -/
def join (separator : String) : List String → String
  | [] => ""
  | [s] => s
  | s :: rest => s ++ separator ++ join separator rest

/-! ### Lines and their places -/

/-- A run of bytes: where it starts and how many there are. -/
structure Span where
  offset : Nat
  length : Nat
  deriving DecidableEq, Repr

/-- A line without the carriage return in front of its line feed. -/
def dropReturn (line : List Char) : List Char :=
  if line.getLast? = some '\r' then line.dropLast else line

/-- The lines of a text, without their line ends; `line` holds the characters of the current line
read so far, in reverse. -/
def linesFrom (line : List Char) : List Char → List (List Char)
  | [] => if line.isEmpty then [] else [line.reverse]
  | c :: cs =>
    if c = '\n' then dropReturn line.reverse :: linesFrom [] cs else linesFrom (c :: line) cs

/-- The lines of a text, without their line ends. -/
def lines (s : String) : List (List Char) := linesFrom [] s.toList

/-- The number of bytes that characters take. -/
def byteLength : List Char → Nat
  | [] => 0
  | c :: cs => c.utf8Size + byteLength cs

/-- The span of the line with the given number, counted from one, when the lines before it start at
`offset` and each takes its bytes and one more. -/
def spanFrom (offset : Nat) : List (List Char) → Nat → Option Span
  | [], _ => none
  | _, 0 => none
  | line :: _, 1 => some ⟨offset, byteLength line⟩
  | line :: rest, n + 2 => spanFrom (offset + byteLength line + 1) rest (n + 1)

/-- The span that stands for a line of a source text, if there is such a line. -/
def lineSpan (source : String) (number : Nat) : Option Span := spanFrom 0 (lines source) number

/-! ### White space -/

/-- Closed ranges of the white space characters, ascending. -/
def blankRanges : List (Nat × Nat) :=
  [(0x09, 0x0D), (0x20, 0x20), (0x85, 0x85), (0xA0, 0xA0), (0x1680, 0x1680), (0x2000, 0x200A),
   (0x2028, 0x2029), (0x202F, 0x202F), (0x205F, 0x205F), (0x3000, 0x3000)]

def isBlank (c : Char) : Bool := blankRanges.any fun r => r.1 ≤ c.toNat && c.toNat ≤ r.2

/-- Drops the white space at the start. -/
def trimStart (cs : List Char) : List Char := cs.dropWhile isBlank

/-- Drops the white space at the end. -/
def trimEnd (cs : List Char) : List Char := (trimStart cs.reverse).reverse

/-- Drops the white space at both ends. -/
def trim (cs : List Char) : List Char := trimEnd (trimStart cs)

/-! ### Replacing -/

/-- Replaces a pattern wherever it occurs, from the start on; `skip` counts the characters that
belong to an occurrence already replaced. -/
def replaceFrom (pattern new : List Char) : (skip : Nat) → List Char → List Char
  | _, [] => []
  | skip + 1, _ :: cs => replaceFrom pattern new skip cs
  | 0, c :: cs =>
    if pattern.isPrefixOf (c :: cs) then new ++ replaceFrom pattern new (pattern.length - 1) cs
    else c :: replaceFrom pattern new 0 cs

/-- A text with every occurrence of a pattern, which is not empty, replaced. Occurrences do not
overlap, and what is put in is not searched again. -/
def replace (s pattern new : String) : String :=
  String.ofList (replaceFrom pattern.toList new.toList 0 s.toList)

end ChartRender.Text
