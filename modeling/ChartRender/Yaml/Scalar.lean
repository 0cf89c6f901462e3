import ChartRender.Json.Reader
import ChartRender.Yaml.Cursor
/-!
# The text of YAML scalars

A scalar is written plain, between quotes, or as a block of indented lines. Plain and quoted scalars
may go over several lines: a single line break counts as a blank, and of more than one the first
does not count. A block keeps its line breaks, or folds them in the same way, and its last ones are
kept, clipped to one or dropped.

Key definitions: `Yaml.Gap`, `Yaml.readPlain?`, `Yaml.readQuoted?`, `Yaml.readBlock?`.
-/

namespace ChartRender.Yaml

/-! ### Gaps between words -/

/-- The white space between two words of a scalar: the blanks if it stays on one line, else its
first line break and those that follow. -/
structure Gap where
  broken : Bool
  blanks : List Char
  first : List Char
  more : List Char
  deriving Repr

namespace Gap

def empty : Gap := ⟨false, [], [], []⟩

/-- What line breaks count for: one as a blank, several as all but the first. -/
def folded (first more : List Char) : List Char :=
  if first = ['\n'] then if more.isEmpty then [' '] else more else first ++ more

/-- The text that a gap counts for. -/
def text (g : Gap) : List Char := if g.broken then folded g.first g.more else g.blanks

end Gap

/-- Reads a gap. On all but its first line a tab left of the column `indent` is refused. -/
def readGap? (indent : Int) : Nat → Gap → Cursor → Option (Gap × Cursor)
  | 0, _, _ => none
  | fuel + 1, g, c =>
    match c.peek 0 with
    | none => some (g, c)
    | some b =>
      if isBlank b then
        if g.broken then
          if b == '\t' && decide ((c.column : Int) < indent) then none
          else readGap? indent fuel g (c.advance 1)
        else readGap? indent fuel { g with blanks := g.blanks ++ [b] } (c.advance 1)
      else if isBreak b then
        let (text, next) := c.readBreak
        if g.broken then readGap? indent fuel { g with more := g.more ++ text } next
        else readGap? indent fuel ⟨true, [], text, g.more⟩ next
      else some (g, c)

/-! ### Plain scalars -/

def isFlowMark (c : Char) : Bool := c == ',' || c == '[' || c == ']' || c == '\x7b' || c == '\x7d'

/-- The word of a plain scalar that starts here, up to white space, a colon before white space or,
inside a flow collection, one of its marks. There, a colon right before a mark is refused. -/
def plainWord? (flow : Bool) : List Char → Option (List Char)
  | [] => some []
  | c :: rest =>
    if isBlank c || isBreak c then some []
    else if flow && c == ':' && rest.head?.any (fun d => isFlowMark d || d == '?') then none
    else if (c == ':' && isGap rest.head?) || (flow && isFlowMark c) then some []
    else (plainWord? flow rest).map (c :: ·)

/-- Reads a plain scalar. `text` is what has been read and `gap` what followed it. The result says
whether the scalar ended with a line break. -/
def readPlainFrom? (flow : Bool) (indent : Int) :
    Nat → List Char → Gap → Cursor → Option (List Char × Bool × Cursor)
  | 0, _, _, _ => none
  | fuel + 1, text, gap, c =>
    if c.atDocumentMark || c.peek 0 == some '#' then some (text, gap.broken, c)
    else
      match plainWord? flow c.rest with
      | none => none
      | some word =>
        let c := c.advance word.length
        let text := if word.isEmpty then text else text ++ gap.text ++ word
        let gap := if word.isEmpty then gap else .empty
        if c.rest.isEmpty || !isGap (c.peek 0) then some (text, gap.broken, c)
        else
          match readGap? indent (c.rest.length + 1) .empty c with
          | none => none
          | some (gap, c) =>
            if !flow && decide ((c.column : Int) < indent) then some (text, gap.broken, c)
            else readPlainFrom? flow indent fuel text gap c

/-- Reads a plain scalar whose further lines must be indented to the column `indent`. -/
def readPlain? (flow : Bool) (indent : Int) (c : Cursor) : Option (List Char × Bool × Cursor) :=
  readPlainFrom? flow indent (c.rest.length + 1) [] .empty c

/-! ### Quoted scalars -/

/-- The number that hexadecimal digits write. -/
def hex? (digits : List Char) : Option Nat :=
  digits.foldlM (fun n d => (Json.hexDigit? d).map (n * 16 + ·)) 0

/-- The character of a code point that is no half of a surrogate pair. -/
def charOf? (n : Nat) : Option Char :=
  if (0xD800 ≤ n && n ≤ 0xDFFF) || 0x10FFFF < n then none else some (Char.ofNat n)

/-- The character that a letter behind a backslash stands for. -/
def ofEscape? : Char → Option Char
  | '0' => some '\x00'
  | 'a' => some '\x07'
  | 'b' => some '\x08'
  | 't' => some '\t'
  | '\t' => some '\t'
  | 'n' => some '\n'
  | 'v' => some '\x0b'
  | 'f' => some '\x0c'
  | 'r' => some '\r'
  | 'e' => some '\x1b'
  | ' ' => some ' '
  | '"' => some '"'
  | '/' => some '/'
  | '\\' => some '\\'
  | 'N' => some '\x85'
  | '_' => some '\xa0'
  | 'L' => some '\u2028'
  | 'P' => some '\u2029'
  | _ => none

/-- A piece of a quoted scalar without white space: its text, the number of characters it takes, and
whether a backslash before a line break ended it. -/
structure Piece where
  text : List Char
  length : Nat
  escapedBreak : Bool
  deriving Repr

/-- The piece with a character in front that took `n` characters to write. -/
def Piece.cons (c : Char) (n : Nat) (p : Piece) : Piece :=
  ⟨c :: p.text, p.length + n, p.escapedBreak⟩

/-- The piece of a single-quoted scalar that starts here. -/
def singleQuotedPiece : List Char → Piece
  | [] => ⟨[], 0, false⟩
  | '\'' :: '\'' :: rest => (singleQuotedPiece rest).cons '\'' 2
  | c :: rest =>
    if isBlank c || isBreak c || c == '\'' then ⟨[], 0, false⟩
    else (singleQuotedPiece rest).cons c 1

/-- The piece of a double-quoted scalar that starts here. -/
def doubleQuotedPiece? : List Char → Option Piece
  | [] => some ⟨[], 0, false⟩
  | '\\' :: 'x' :: a :: b :: rest => do
    let c ← (hex? [a, b]).bind charOf?
    let p ← doubleQuotedPiece? rest
    return p.cons c 4
  | '\\' :: 'u' :: a :: b :: c :: d :: rest => do
    let c ← (hex? [a, b, c, d]).bind charOf?
    let p ← doubleQuotedPiece? rest
    return p.cons c 6
  | '\\' :: 'U' :: a :: b :: c :: d :: e :: f :: g :: h :: rest => do
    let c ← (hex? [a, b, c, d, e, f, g, h]).bind charOf?
    let p ← doubleQuotedPiece? rest
    return p.cons c 10
  | '\\' :: c :: rest =>
    if isBreak c then some ⟨[], 1, true⟩
    else do
      let e ← ofEscape? c
      let p ← doubleQuotedPiece? rest
      return p.cons e 2
  | c :: rest =>
    if isBlank c || isBreak c || c == '"' then some ⟨[], 0, false⟩
    else if c == '\\' then none
    else (doubleQuotedPiece? rest).map (·.cons c 1)

/-- Reads the rest of a quoted scalar, up to its closing quote and over it. -/
def readQuotedFrom? (quote : Char) : Nat → List Char → Cursor → Option (List Char × Cursor)
  | 0, _, _ => none
  | fuel + 1, text, c =>
    if c.atDocumentMark || c.rest.isEmpty then none
    else do
      let piece ←
        if quote == '"' then doubleQuotedPiece? c.rest else some (singleQuotedPiece c.rest)
      let c := c.advance piece.length
      let text := text ++ piece.text
      let (before, c) : Gap × Cursor :=
        if piece.escapedBreak then (⟨true, [], [], []⟩, c.skipBreak) else (.empty, c)
      if c.peek 0 == some quote then return (text, c.advance 1)
      else
        let (gap, c) ← readGap? 0 (c.rest.length + 1) before c
        readQuotedFrom? quote fuel (text ++ gap.text) c

/-- Reads a quoted scalar, from its opening quote on. -/
def readQuoted? (quote : Char) (c : Cursor) : Option (List Char × Cursor) :=
  readQuotedFrom? quote (c.rest.length + 1) [] (c.advance 1)

/-! ### Block scalars -/

/-- What becomes of the line breaks at the end of a block. -/
inductive Chomping where
  | strip
  | clip
  | keep
  deriving DecidableEq, Repr

/-- The digit that gives the indentation of a block; zero is refused. -/
def indentDigit? (c : Cursor) : Option (Nat × Cursor) :=
  match c.peek 0 with
  | some d =>
    if d == '0' then none
    else if d.isDigit then some (d.toNat - '0'.toNat, c.advance 1) else some (0, c)
  | none => some (0, c)

/-- The sign that says what becomes of the last line breaks. -/
def chomping? (c : Cursor) : Option (Chomping × Cursor) :=
  match c.peek 0 with
  | some '+' => some (.keep, c.advance 1)
  | some '-' => some (.strip, c.advance 1)
  | _ => none

/-- Reads the sign and the digit behind the mark of a block, in either order. -/
def blockHeader? (c : Cursor) : Option (Chomping × Nat × Cursor) :=
  match chomping? c with
  | some (chomping, c) => (indentDigit? c).map fun (n, c) => (chomping, n, c)
  | none => do
    let (n, c) ← indentDigit? c
    match (if n = 0 then none else chomping? c) with
    | some (chomping, c) => return (chomping, n, c)
    | none => return (.clip, n, c)

/-- Reads empty lines and the indentation of the line behind them. While `indent` is zero every
blank counts as indentation. The result holds the line breaks and the widest indentation met. -/
def blockBreaks? (indent : Nat) :
    Nat → List Char → Nat → Cursor → Option (List Char × Nat × Cursor)
  | 0, _, _, _ => none
  | fuel + 1, breaks, widest, c =>
    let blanks := (c.rest.takeWhile (· == ' ')).length
    let c := c.advance (if indent = 0 then blanks else min blanks (indent - c.column))
    let widest := max widest c.column
    match c.peek 0 with
    | none => some (breaks, widest, c)
    | some b =>
      if b == '\t' && (indent = 0 || decide (c.column < indent)) then none
      else if isBreak b then
        let (text, next) := c.readBreak
        blockBreaks? indent fuel (breaks ++ text) widest next
      else some (breaks, widest, c)

/-- The content of a block read so far: its text, the break behind its last line and those behind
that, and whether its last line starts with a blank. -/
structure Block where
  text : List Char
  lastBreak : List Char
  breaks : List Char
  startsBlank : Bool
  deriving Repr

/-- The block with its open line breaks put behind its text, before a line that starts with a blank
or does not. -/
def Block.joined (literal blank : Bool) (b : Block) : List Char :=
  if !literal && b.lastBreak == ['\n'] && !b.startsBlank && !blank then
    b.text ++ (if b.breaks.isEmpty then [' '] else b.breaks)
  else b.text ++ b.lastBreak ++ b.breaks

/-- Reads the lines of a block that are indented to the column `indent`. -/
def blockLines? (literal : Bool) (indent : Nat) : Nat → Block → Cursor → Option (Block × Cursor)
  | 0, _, _ => none
  | fuel + 1, b, c =>
    match c.peek 0 with
    | none => some (b, c)
    | some first =>
      if c.column ≠ indent then some (b, c)
      else
        let blank := isBlank first
        let line := c.rest.takeWhile fun d => !isBreak d
        let (lastBreak, next) := (c.advance line.length).readBreak
        match blockBreaks? indent (next.rest.length + 1) [] 0 next with
        | none => none
        | some (breaks, _, next) =>
          blockLines? literal indent fuel
            ⟨b.joined literal blank ++ line, lastBreak, breaks, blank⟩ next

/-- Reads a block scalar from its mark on, inside a collection that is indented to `parent`. -/
def readBlock? (literal : Bool) (parent : Int) (c : Cursor) : Option (List Char × Cursor) := do
  let (chomping, digit, c) ← blockHeader? (c.advance 1)
  let c := c.skipWhile isBlank
  let c := if c.peek 0 == some '#' then c.skipWhile (!isBreak ·) else c
  if !isLineEnd (c.peek 0) then none
  else
    let c := c.skipBreak
    let given := if digit = 0 then 0 else (if 0 ≤ parent then parent else 0).toNat + digit
    let (breaks, widest, c) ← blockBreaks? given (c.rest.length + 1) [] 0 c
    let indent := if given = 0 then max widest (max (parent + 1).toNat 1) else given
    let (b, c) ← blockLines? literal indent (c.rest.length + 1) ⟨[], [], breaks, false⟩ c
    let tail := match chomping with
      | .strip => []
      | .clip => b.lastBreak
      | .keep => b.lastBreak ++ b.breaks
    return (b.text ++ tail, c)

end ChartRender.Yaml
