import ChartRender.Yaml.Scalar
/-!
# YAML tokens

What a YAML text says once blanks, comments and indentation are understood: marks, names and
scalars, with a token where a block collection starts and one where its indentation ends. A key
needs no mark of its own, so when the colon behind it is met its token is put in front of what has
been read since the key began. That is possible only on the same line and within 1024 characters.

Key definitions: `Yaml.Token`, `Yaml.Scan`, `Yaml.Scan.token?`, `Yaml.tokens?`.
-/

namespace ChartRender.Yaml

/-- A token. -/
inductive Token where
  | documentStart
  | documentEnd
  | blockSequenceStart
  | blockMappingStart
  | blockEnd
  | flowSequenceStart
  | flowSequenceEnd
  | flowMappingStart
  | flowMappingEnd
  | blockEntry
  | flowEntry
  | key
  | value
  | alias (name : String)
  | anchor (name : String)
  | tag (text : String)
  | scalar (plain : Bool) (text : String)
  deriving DecidableEq, Repr, Inhabited

/-- A place where a key may have begun: the number of tokens before it, the place, and whether the
indentation allows nothing but a key there. -/
structure KeyPlace where
  tokens : Nat
  index : Nat
  line : Nat
  column : Nat
  required : Bool
  deriving Repr

/-- How far a text has been understood. Tokens are held last first, and there is one entry for a
possible key for each flow collection that is open and one for the block around them. -/
structure Scan where
  cursor : Cursor
  tokens : List Token
  count : Nat
  indent : Int
  indents : List Int
  keyAllowed : Bool
  key : Option KeyPlace
  outerKeys : List (Option KeyPlace)
  deriving Repr

namespace Scan

def start (text : List Char) : Scan := ⟨.start text, [], 0, -1, [], true, none, []⟩

/-- Whether a flow collection is open. -/
def inFlow (s : Scan) : Bool := !s.outerKeys.isEmpty

/-- Adds a token. -/
def push (s : Scan) (t : Token) : Scan := { s with tokens := t :: s.tokens, count := s.count + 1 }

/-- Puts a token where `place` tokens stand before it. -/
def insert (s : Scan) (place : Nat) (t : Token) : Scan :=
  let after := s.count - place
  { s with tokens := s.tokens.take after ++ t :: s.tokens.drop after, count := s.count + 1 }

/-! ### Blanks, comments and indentation -/

/-- Skips blanks, comments and line ends. Outside flow collections a key may begin on each new line,
and where one may, a tab is not skipped. -/
def skipGap : Nat → Scan → Scan
  | 0, s => s
  | fuel + 1, s =>
    let c := s.cursor.skipWhile fun b => b == ' ' || (b == '\t' && (s.inFlow || !s.keyAllowed))
    let c := if c.peek 0 == some '#' then c.skipWhile (!isBreak ·) else c
    if (c.peek 0).any isBreak then
      skipGap fuel { s with cursor := c.skipBreak, keyAllowed := s.keyAllowed || !s.inFlow }
    else { s with cursor := c }

/-- Whether the colon of a key may still come. -/
def isFresh (c : Cursor) (k : KeyPlace) : Bool := c.line ≤ k.line && c.index ≤ k.index + 1024

/-- Gives up possible keys whose colon can no longer come, and fails if one of them was required. -/
def dropStale? (s : Scan) : Option Scan :=
  let stale (k : Option KeyPlace) : Bool := k.any fun k => !isFresh s.cursor k
  if (s.key :: s.outerKeys).any fun k => stale k && k.any (·.required) then none
  else
    let keep (k : Option KeyPlace) : Option KeyPlace := if stale k then none else k
    some { s with key := keep s.key, outerKeys := s.outerKeys.map keep }

/-- Ends the block collections that are indented deeper than a column. -/
def unindent (column : Int) : List Int → Scan → Scan
  | [], s => s
  | outer :: rest, s =>
    if column < s.indent then
      unindent column rest { s.push .blockEnd with indent := outer, indents := rest }
    else s

/-- Ends the block collections that do not reach a column; flow collections ignore indentation. -/
def unroll (s : Scan) (column : Int) : Scan := if s.inFlow then s else unindent column s.indents s

/-- Begins a block collection at a column if none is indented that far, with its token where `place`
tokens stand before it. -/
def roll (s : Scan) (column : Nat) (place : Nat) (t : Token) : Scan :=
  if s.inFlow || decide ((column : Int) ≤ s.indent) then s
  else { s.insert place t with indent := column, indents := s.indent :: s.indents }

/-! ### Possible keys -/

/-- Gives up the possible key, which fails if it was required. -/
def removeKey? (s : Scan) : Option Scan :=
  if s.key.any (·.required) then none else some { s with key := none }

/-- Notes that a key may begin here, if one is allowed. -/
def saveKey? (s : Scan) : Option Scan :=
  if s.keyAllowed then do
    let s ← s.removeKey?
    let c := s.cursor
    let required := !s.inFlow && s.indent == (c.column : Int)
    return { s with key := some ⟨s.count, c.index, c.line, c.column, required⟩ }
  else some s

/-! ### Tokens -/

/-- Adds a token that takes `n` characters. -/
def mark (s : Scan) (n : Nat) (keyAllowed : Bool) (t : Token) : Scan :=
  { s.push t with cursor := s.cursor.advance n, keyAllowed := keyAllowed }

def documentMark? (s : Scan) (t : Token) : Option Scan := do
  let s ← (s.unroll (-1)).removeKey?
  return s.mark 3 false t

def flowStart? (s : Scan) (t : Token) : Option Scan := do
  let s ← s.saveKey?
  return { s.mark 1 true t with key := none, outerKeys := s.key :: s.outerKeys }

def flowEnd? (s : Scan) (t : Token) : Option Scan := do
  let s ← s.removeKey?
  match s.outerKeys with
  | key :: rest => return { s.mark 1 false t with key := key, outerKeys := rest }
  | [] => return s.mark 1 false t

def flowEntry? (s : Scan) : Option Scan := do
  let s ← s.removeKey?
  return s.mark 1 true .flowEntry

/-- The mark of an entry of a block sequence or of an explicit key. -/
def blockMark? (s : Scan) (start t : Token) (keyAllowed : Bool) : Option Scan :=
  if !s.inFlow && !s.keyAllowed then none
  else do
    let s ← (s.roll s.cursor.column s.count start).removeKey?
    return s.mark 1 keyAllowed t

/-- The colon between key and value. If a key may have begun it is one. -/
def value? (s : Scan) : Option Scan :=
  match s.key with
  | some k =>
    let s := (s.insert k.tokens .key).roll k.column k.tokens .blockMappingStart
    some ({ s with key := none }.mark 1 false .value)
  | none =>
    if s.inFlow then some (s.mark 1 false .value)
    else if s.keyAllowed then
      some ((s.roll s.cursor.column s.count .blockMappingStart).mark 1 true .value)
    else none

def isNameChar (c : Char) : Bool := c.isAlphanum || c == '_' || c == '-'

/-- The name of an anchor or an alias. -/
def name? (s : Scan) (token : String → Token) : Option Scan := do
  let s ← s.saveKey?
  let c := s.cursor.advance 1
  let name := c.rest.takeWhile isNameChar
  let next := c.peek name.length
  let ends := isGap next || next.any fun d => "?:,]\x7d%@`".toList.contains d
  if name.isEmpty || !ends then none
  else return s.mark (name.length + 1) false (token (String.ofList name))

/-- A character of a tag that stands for itself. -/
def isTagChar (c : Char) : Bool := c.isAlphanum || "-_;/?:@&=+$.!~*'()%,[]".toList.contains c

/-- The tag that starts here, and the number of its characters. `!!` is short for the tags of the
core schema. -/
def tagText? (cs : List Char) : Option (String × Nat) :=
  match cs with
  | '!' :: '<' :: rest =>
    let text := rest.takeWhile isTagChar
    match rest.drop text.length with
    | '>' :: _ => if text.isEmpty then none else some (String.ofList text, text.length + 3)
    | _ => none
  | '!' :: '!' :: rest =>
    let text := rest.takeWhile isTagChar
    if text.isEmpty then none
    else some ("tag:yaml.org,2002:" ++ String.ofList text, text.length + 2)
  | '!' :: rest =>
    let text := rest.takeWhile isTagChar
    if text.contains '!' then none
    else some ("!" ++ String.ofList text, text.length + 1)
  | _ => none

def tag? (s : Scan) : Option Scan := do
  let s ← s.saveKey?
  let (text, n) ← tagText? s.cursor.rest
  let next := s.cursor.peek n
  if isGap next || (s.inFlow && next == some ',') then return s.mark n false (.tag text) else none

def blockScalar? (s : Scan) (literal : Bool) : Option Scan := do
  let s ← s.removeKey?
  let (text, c) ← readBlock? literal s.indent s.cursor
  return { s.push (.scalar false (String.ofList text)) with cursor := c, keyAllowed := true }

def quotedScalar? (s : Scan) (quote : Char) : Option Scan := do
  let s ← s.saveKey?
  let (text, c) ← readQuoted? quote s.cursor
  return { s.push (.scalar false (String.ofList text)) with cursor := c, keyAllowed := false }

def plainScalar? (s : Scan) : Option Scan := do
  let s ← s.saveKey?
  let (text, broken, c) ← readPlain? s.inFlow (s.indent + 1) s.cursor
  return { s.push (.scalar true (String.ofList text)) with cursor := c, keyAllowed := broken }

/-- The characters that start no plain scalar. -/
def isIndicator (c : Char) : Bool := "-?:,[]\x7b\x7d#&*!|>'\"%@`".toList.contains c

/-- Whether a plain scalar may start with a character before another. -/
def startsPlain (inFlow : Bool) (c : Char) (next : Option Char) : Bool :=
  (!isBlank c && !isBreak c && !isIndicator c) || (c == '-' && !next.any isBlank) ||
    (!inFlow && (c == '?' || c == ':') && !isGap next)

/-- Reads the token that starts with a character. -/
def token? (s : Scan) (c : Char) : Option Scan :=
  let next := s.cursor.peek 1
  if s.cursor.column == 0 && c == '%' then none
  else if s.cursor.atDocumentMark then
    s.documentMark? (if c == '-' then .documentStart else .documentEnd)
  else if c == '[' then s.flowStart? .flowSequenceStart
  else if c == '\x7b' then s.flowStart? .flowMappingStart
  else if c == ']' then s.flowEnd? .flowSequenceEnd
  else if c == '\x7d' then s.flowEnd? .flowMappingEnd
  else if c == ',' then s.flowEntry?
  else if c == '-' && isGap next then s.blockMark? .blockSequenceStart .blockEntry true
  else if c == '?' && (s.inFlow || isGap next) then
    s.blockMark? .blockMappingStart .key (!s.inFlow)
  else if c == ':' && (s.inFlow || isGap next) then s.value?
  else if c == '*' then s.name? .alias
  else if c == '&' then s.name? .anchor
  else if c == '!' then s.tag?
  else if c == '|' && !s.inFlow then s.blockScalar? true
  else if c == '>' && !s.inFlow then s.blockScalar? false
  else if c == '\'' || c == '"' then s.quotedScalar? c
  else if startsPlain s.inFlow c next then s.plainScalar?
  else none

/-- Ends what is open at the end of the text. -/
def finish? (s : Scan) : Option (List Token) := do
  let s ← (s.unroll (-1)).removeKey?
  return s.tokens.reverse

/-- Reads one token after another; `fuel` bounds their number. -/
def run? : Nat → Scan → Option (List Token)
  | 0, _ => none
  | fuel + 1, s => do
    let s ← (s.skipGap (s.cursor.rest.length + 1)).dropStale?
    let s := s.unroll s.cursor.column
    match s.cursor.peek 0 with
    | none => s.finish?
    | some c =>
      let s ← s.token? c
      run? fuel s

end Scan

/-- The tokens of a text. Every token takes at least one character. -/
def tokens? (text : String) : Option (List Token) :=
  let cs := text.toList
  if cs.all isAllowed then Scan.run? (cs.length + 1) (.start cs) else none

end ChartRender.Yaml
