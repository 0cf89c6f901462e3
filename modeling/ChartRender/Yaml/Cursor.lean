/-!
# Places in a YAML text

A `Cursor` is what is left of a text, with the place reached so far: characters since the start,
line and column. It also knows the characters that end a line and those that may not occur at all.

Key definitions: `Yaml.Cursor`, `Yaml.Cursor.advance`, `Yaml.Cursor.skipBreak`, `Yaml.isAllowed`.
-/

namespace ChartRender.Yaml

def isBlank (c : Char) : Bool := c == ' ' || c == '\t'

/-- Whether a character ends a line. -/
def isBreak (c : Char) : Bool :=
  c == '\n' || c == '\r' || c == '\x85' || c == '\u2028' || c == '\u2029'

/-- Whether a character separates words: a blank, a line end, or the end of the text. -/
def isGap (c : Option Char) : Bool := c.all fun c => isBlank c || isBreak c

/-- Whether a line ends here. -/
def isLineEnd (c : Option Char) : Bool := c.all isBreak

/-- Whether a character may occur in a text. -/
def isAllowed (c : Char) : Bool :=
  let n := c.toNat
  n == 0x09 || n == 0x0A || n == 0x0D || (0x20 ≤ n && n ≤ 0x7E) || n == 0x85 ||
    (0xA0 ≤ n && n ≤ 0xFFFD) || 0x10000 ≤ n

/-- What is left of a text and the place reached in it. -/
structure Cursor where
  rest : List Char
  index : Nat
  line : Nat
  column : Nat
  deriving Repr

namespace Cursor

/-- The start of a text; a mark of byte order in front is no part of it. -/
def start (text : List Char) : Cursor :=
  match text with
  | '\uFEFF' :: text => ⟨text, 0, 0, 0⟩
  | text => ⟨text, 0, 0, 0⟩

/-- The character `n` places ahead. -/
def peek (c : Cursor) (n : Nat) : Option Char := c.rest[n]?

/-- The place `n` characters ahead on the same line. -/
def advance (c : Cursor) (n : Nat) : Cursor := ⟨c.rest.drop n, c.index + n, c.line, c.column + n⟩

/-- The place behind the characters that satisfy a condition. -/
def skipWhile (c : Cursor) (p : Char → Bool) : Cursor := c.advance (c.rest.takeWhile p).length

/-- The line break here, as it counts in a scalar, and the start of the next line. -/
def readBreak (c : Cursor) : List Char × Cursor :=
  match c.rest with
  | '\r' :: '\n' :: rest => (['\n'], ⟨rest, c.index + 2, c.line + 1, 0⟩)
  | b :: rest =>
    if isBreak b then
      (if b == '\u2028' || b == '\u2029' then [b] else ['\n'], ⟨rest, c.index + 1, c.line + 1, 0⟩)
    else ([], c)
  | [] => ([], c)

/-- The start of the next line if a line break is here. -/
def skipBreak (c : Cursor) : Cursor := c.readBreak.2

/-- Whether the line starts with a mark between documents, `---` or `...`. -/
def atDocumentMark (c : Cursor) : Bool :=
  c.column == 0 && isGap (c.peek 3) &&
    match c.rest with
    | '-' :: '-' :: '-' :: _ => true
    | '.' :: '.' :: '.' :: _ => true
    | _ => false

end Cursor

end ChartRender.Yaml
