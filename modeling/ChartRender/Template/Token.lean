import ChartRender.Binary64.Basic
import ChartRender.Decimal.Basic
import ChartRender.Json.Reader
import ChartRender.Template.Fault
import ChartRender.Text.Basic
/-!
# Template tokens

A template is text with pieces of code between `{{` and `}}` (expressions) or between `{%` and `%}`
(statements), and with comments. A hyphen next to a delimiter drops the white space on its outer
side, and the line end at the end of a template is no part of it. A closing delimiter counts only
outside brackets. Where no token can be read stands one that says why, and nothing follows it; the
last token otherwise stands for the end, on the last line. Left out are raw blocks, between whose
delimiters everything would be text.

Key definitions: `Template.Token`, `Template.Placed`, `Template.tokens`.
-/

namespace ChartRender.Template

/-- A token. -/
inductive Token where
  | text (s : String)
  | exprStart
  | exprEnd
  | stmtStart
  | stmtEnd
  | word (name : String)
  | int (n : Nat)
  | float (x : Binary64)
  | string (s : String)
  | symbol (s : String)
  | broken (kind : FaultKind)
  | finish
  deriving DecidableEq, Repr

/-- A token and the line that it starts on. -/
structure Placed where
  token : Token
  line : Nat
  deriving DecidableEq, Repr

/-! ### Lines and white space -/

/-- The number of line feeds among characters. -/
def lineFeeds (cs : List Char) : Nat := cs.count '\n'

/-- White space between tokens. -/
def isGap (c : Char) : Bool := c == ' ' || c == '\t' || c == '\n' || c == '\r' || c == '\x0c'

/-- A text without the line end at its end. -/
def dropLastLineEnd (cs : List Char) : List Char :=
  match cs.reverse with
  | '\n' :: '\r' :: rest => rest.reverse
  | '\n' :: rest => rest.reverse
  | _ => cs

/-! ### Names and numbers -/

def isNameStart (c : Char) : Bool := c.isAlpha || c == '_'

def isNameChar (c : Char) : Bool := c.isAlphanum || c == '_'

/-- How far the text of a number has been read. -/
inductive NumberPart where
  | whole
  | fraction
  | exponentMark
  | exponent
  deriving DecidableEq, Repr

/-- The part that a number is in after one more character, if it goes on. An underscore may stand
anywhere behind the first digit. -/
def NumberPart.next? (part : NumberPart) (c : Char) : Option NumberPart :=
  if c = '_' then some part
  else match part with
    | .whole =>
      if c.isDigit then some .whole
      else if c = '.' then some .fraction
      else if c = 'e' ∨ c = 'E' then some .exponentMark
      else none
    | .fraction =>
      if c.isDigit then some .fraction else if c = 'e' ∨ c = 'E' then some .exponentMark else none
    | .exponentMark => if c.isDigit ∨ c = '+' ∨ c = '-' then some .exponent else none
    | .exponent => if c.isDigit then some .exponent else none

/-- The characters of a number, the part it ends in, and what follows. -/
def splitNumber (part : NumberPart) : List Char → List Char × NumberPart × List Char
  | [] => ([], part, [])
  | c :: cs =>
    match part.next? c with
    | some part =>
      let (number, last, rest) := splitNumber part cs
      (c :: number, last, rest)
    | none => ([], part, c :: cs)

/-- The token of an integer, which must fit into 128 bits. -/
def integerToken (digits : Option Nat) : Token :=
  match digits with
  | some n => if Width.isUnsigned 128 n then .int n else .broken .syntaxError
  | none => .broken .syntaxError

/-- The natural number that digits write in a base, underscores left out. -/
def digitsIn? (base : Nat) (cs : List Char) : Option Nat :=
  if cs.isEmpty then none
  else
    let append (n : Nat) (c : Char) : Option Nat :=
      (Json.hexDigit? c).bind fun d => if d < base then some (n * base + d) else none
    cs.foldlM append 0

/-- Whether a character can be a digit of an integer in a base. -/
def isDigitIn (base : Nat) (c : Char) : Bool := c == '_' || (Json.hexDigit? c).any (· < base)

/-- The token of an integer in a base other than ten, and what follows it. -/
def baseToken (base : Nat) (cs : List Char) : Token × List Char :=
  let (digits, rest) := cs.span (isDigitIn base)
  (integerToken (digitsIn? base (digits.filter (· != '_'))), rest)

/-- The token of the number that starts here, and what follows it. -/
def numberToken (cs : List Char) : Token × List Char :=
  match cs with
  | '0' :: 'x' :: cs | '0' :: 'X' :: cs => baseToken 16 cs
  | '0' :: 'o' :: cs | '0' :: 'O' :: cs => baseToken 8 cs
  | '0' :: 'b' :: cs | '0' :: 'B' :: cs => baseToken 2 cs
  | cs =>
    let (number, part, rest) := splitNumber .whole cs
    let number := number.filter (· != '_')
    let token := match part with
      | .whole => integerToken (digitsIn? 10 number)
      | _ => match Binary64.ofChars? number with
        | some x => .float x
        | none => .broken .syntaxError
    (token, rest)

/-! ### Strings -/

/-- The characters up to the closing quote as they are written, and what follows it. A quote behind
a backslash does not close the string. -/
def splitString? (quote : Char) : List Char → Option (List Char × List Char)
  | [] => none
  | '\\' :: c :: cs => (splitString? quote cs).map fun (s, rest) => ('\\' :: c :: s, rest)
  | c :: cs =>
    if c = '\\' then none
    else if c = quote then some ([], cs)
    else (splitString? quote cs).map fun (s, rest) => (c :: s, rest)

/-- The character that a letter behind a backslash stands for. -/
def ofEscape? (c : Char) : Option Char := if c = '\'' then some c else Json.ofEscape? c

/-- The characters that a string stands for, its escapes replaced. -/
def unescape? : List Char → Option (List Char)
  | [] => some []
  | '\\' :: 'u' :: a :: b :: c :: d :: rest =>
    match Json.unit? a b c d with
    | none => none
    | some u =>
      if Json.isHighHalf u then
        match rest with
        | '\\' :: 'u' :: e :: f :: g :: h :: rest =>
          match Json.unit? e f g h with
          | none => none
          | some l =>
            if Json.isLowHalf l then (unescape? rest).map (Json.ofHalves u l :: ·) else none
        | _ => none
      else if Json.isLowHalf u then none
      else (unescape? rest).map (Char.ofNat u :: ·)
  | '\\' :: c :: rest =>
    match ofEscape? c with
    | none => none
    | some c => (unescape? rest).map (c :: ·)
  | c :: rest => if c = '\\' then none else (unescape? rest).map (c :: ·)

/-- The token of a string that is written so. -/
def stringToken (written : List Char) : Token :=
  match unescape? written with
  | some s => .string (String.ofList s)
  | none => .broken .badEscape

/-! ### Code -/

/-- The symbols of two characters. -/
def longSymbols : List (Char × Char) :=
  [('/', '/'), ('*', '*'), ('=', '='), ('!', '='), ('>', '='), ('<', '=')]

/-- The symbols of one character. -/
def shortSymbols : List Char :=
  ['+', '-', '*', '/', '%', '.', ',', ':', '~', '|', '=', '>', '<', '(', ')', '[', ']', '\x7b',
   '\x7d']

/-- The symbol that starts here, and what follows it. -/
def symbol? : List Char → Option (Token × List Char)
  | [] => none
  | [c] => if c ∈ shortSymbols then some (.symbol (String.ofList [c]), []) else none
  | c :: d :: cs =>
    if (c, d) ∈ longSymbols then some (.symbol (String.ofList [c, d]), cs)
    else if c ∈ shortSymbols then some (.symbol (String.ofList [c]), d :: cs)
    else none

/-- How many brackets are open after a token. -/
def openBrackets (depth : Nat) : Token → Nat
  | .symbol s =>
    if s == "(" || s == "[" || s == "\x7b" then depth + 1
    else if s == ")" || s == "]" || s == "\x7d" then depth - 1
    else depth
  | _ => depth

/-- The token other than a closing delimiter that starts here, and what follows it. -/
def codeToken (cs : List Char) : Token × List Char :=
  match symbol? cs with
  | some result => result
  | none =>
    match cs with
    | [] => (.finish, [])
    | c :: cs =>
      if c = '\'' ∨ c = '"' then
        match splitString? c cs with
        | some (written, rest) => (stringToken written, rest)
        | none => (.broken .syntaxError, [])
      else if c.isDigit then numberToken (c :: cs)
      else if isNameStart c then
        let (name, rest) := (c :: cs).span isNameChar
        (.word (String.ofList name), rest)
      else (.broken .syntaxError, cs)

/-- If a piece of code ends here: whether white space is dropped behind it, and what follows it. -/
def codeEnd? (statement : Bool) (cs : List Char) : Option (Bool × List Char) :=
  let mark := if statement then '%' else '\x7d'
  match cs with
  | c :: d :: rest =>
    if c = mark ∧ d = '\x7d' then some (false, rest)
    else match rest with
      | e :: rest =>
        if d = mark ∧ e = '\x7d' then
          if c = '-' then some (true, rest) else if c = '+' then some (false, rest) else none
        else none
      | [] => none
  | _ => none

/-! ### Text -/

/-- Splits a text before its first opening delimiter. -/
def splitText : List Char → List Char × List Char
  | [] => ([], [])
  | '\x7b' :: c :: cs =>
    if c = '\x7b' ∨ c = '%' ∨ c = '#' then ([], '\x7b' :: c :: cs)
    else
      let (text, rest) := splitText (c :: cs)
      ('\x7b' :: text, rest)
  | c :: cs =>
    let (text, rest) := splitText cs
    (c :: text, rest)

/-- What stands before and after the end of a comment, if it has one. -/
def splitComment? : List Char → Option (List Char × List Char)
  | [] => none
  | '#' :: '\x7d' :: cs => some ([], cs)
  | c :: cs => (splitComment? cs).map fun (comment, rest) => (c :: comment, rest)

/-- The sign behind an opening delimiter: whether white space is dropped in front, and what
follows. -/
def openingSign : List Char → Bool × List Char
  | '-' :: cs => (true, cs)
  | '+' :: cs => (false, cs)
  | cs => (false, cs)

/-- The token of a text, unless it is empty. -/
def textTokens (line : Nat) (cs : List Char) : List Placed :=
  if cs.isEmpty then [] else [⟨.text (String.ofList cs), line⟩]

/-! ### All tokens -/

/-- Where in a template a token is read: in its text, where white space may have to be dropped, or
in a piece of code, with a number of open brackets. -/
inductive Region where
  | text (trim : Bool)
  | code (statement : Bool) (depth : Nat)
  deriving DecidableEq, Repr

/-- The characters of a text with the white space at its ends dropped as asked. -/
def trimmed (front back : Bool) (cs : List Char) : List Char :=
  let cs := if front then Text.trimStart cs else cs
  if back then Text.trimEnd cs else cs

/-- The tokens from a place on. Each step takes at least one character, so `fuel` need only exceed
their number; `last` is the last line. -/
def tokensFrom (last : Nat) : Nat → Region → Nat → List Char → List Placed
  | 0, _, line, _ => [⟨.broken .syntaxError, line⟩]
  | fuel + 1, .text trim, line, cs =>
    let (text, rest) := splitText cs
    let here := line + lineFeeds text
    match rest with
    | '\x7b' :: '#' :: rest =>
      let shown := textTokens line (trimmed trim (openingSign rest).1 text)
      match splitComment? rest with
      | none => shown ++ [⟨.broken .syntaxError, last⟩]
      | some (comment, after) =>
        let trim := comment.getLast? == some '-'
        shown ++ tokensFrom last fuel (.text trim) (here + lineFeeds comment) after
    | '\x7b' :: c :: rest =>
      let (trimFront, rest) := openingSign rest
      textTokens line (trimmed trim trimFront text) ++
        ⟨if c = '%' then .stmtStart else .exprStart, here⟩ ::
          tokensFrom last fuel (.code (c == '%') 0) here rest
    | _ => textTokens line (trimmed trim false text) ++ [⟨.finish, last⟩]
  | fuel + 1, .code statement depth, line, cs =>
    let (gap, cs) := cs.span isGap
    let line := line + lineFeeds gap
    match if depth = 0 then codeEnd? statement cs else none with
    | some (trim, rest) =>
      ⟨if statement then .stmtEnd else .exprEnd, line⟩ ::
        tokensFrom last fuel (.text trim) line rest
    | none =>
      match codeToken cs with
      | (.finish, _) => [⟨.finish, last⟩]
      | (.broken kind, []) => [⟨.broken kind, last⟩]
      | (.broken kind, _) => [⟨.broken kind, line⟩]
      | (token, rest) =>
        let taken := cs.take (cs.length - rest.length)
        ⟨token, line⟩ ::
          let depth := openBrackets depth token
          tokensFrom last fuel (.code statement depth) (line + lineFeeds taken) rest

/-- The tokens of a template. -/
def tokens (source : String) : List Placed :=
  let cs := dropLastLineEnd source.toList
  tokensFrom (1 + lineFeeds cs) (cs.length + 2) (.text false) 1 cs

end ChartRender.Template
