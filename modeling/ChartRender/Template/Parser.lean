import ChartRender.Template.Basic
import ChartRender.Template.Token
/-!
# Reading templates

Builds the statements of a template from its tokens. Operators bind, from the loosest to the
tightest: the choice `a if c else b`, `or`, `and`, `not`, comparison, sum, concatenation, product,
sign, and what stands behind an operand (attributes, items, calls, filters, tests). The layers of
operators are built one upon the other, each from the reader of the next tighter one, so that only a
bracket goes back to the loosest. A template that cannot be read is rejected at the line of the
token where that showed.

This is a part of the template language, and what is left out is rejected here as if it were no
template. Of statements there are none with `block`, `extends`, `import … as`, `with`, `filter`,
`autoescape`, `call` and `do`; a `set` has one name and an expression; a `for` has one name and
neither a condition nor an `else`, and nothing is known inside it as `loop`; parameters have no
defaults; and an include names one template, which must be there. Of expressions there are no
comparisons but `==` and `!=`, no `in`, no `/`, `//`, `%` and `**`, no slices and no tuples. Of all
this only `extends` and `import` lead to other templates.

Key definitions: `Template.Parser`, `Template.expression`, `Template.block`, `Template.parse`.
-/

namespace ChartRender.Template

/-- Why and on which line tokens are no template. -/
structure Rejection where
  kind : FaultKind
  line : Nat
  deriving DecidableEq, Repr

/-- A reader of tokens. -/
abbrev Parser := StateT (List Placed) (Except Rejection)

namespace Parser

/-- Rejects what was found on a line. -/
def reject (line : Nat) : Parser α := throw ⟨.syntaxError, line⟩

/-- The next token, which stays. -/
def peek : Parser Placed := fun ts =>
  match ts with
  | [] => .error ⟨.syntaxError, 0⟩
  | t :: rest =>
    match t.token with
    | .broken kind => .error ⟨kind, t.line⟩
    | _ => .ok (t, t :: rest)

/-- Takes the next token; there is none behind the end. -/
def next : Parser Placed := do
  let t ← peek
  if t.token = .finish then reject t.line
  else
    modify List.tail
    return t

/-- Takes the next token if it is the given one. -/
def skip (token : Token) : Parser Bool := do
  let t ← peek
  if t.token = token then
    modify List.tail
    return true
  else return false

/-- Takes the next token, which must be the given one. -/
def expect (token : Token) : Parser Unit := do
  let t ← next
  if t.token = token then return () else reject t.line

/-- Takes a symbol. -/
def symbol (s : String) : Parser Unit := expect (.symbol s)

/-- Takes a name. -/
def name : Parser String := do
  let t ← next
  match t.token with
  | .word name => return name
  | _ => reject t.line

/-- The names that cannot be assigned. -/
def reservedNames : List String :=
  ["true", "True", "false", "False", "none", "None", "loop", "self"]

/-- Takes a name that is assigned. -/
def target : Parser String := do
  let line := (← peek).line
  let name ← name
  if name ∈ reservedNames then reject line else return name

/-- Reads items with commas between them up to a closing symbol; a comma may stand behind the
last. -/
def itemsUntil (close : String) (item : Parser α) : Nat → Parser (List α)
  | 0 => do reject (← peek).line
  | fuel + 1 => do
    if ← skip (.symbol close) then return []
    else
      let x ← item
      if ← skip (.symbol ",") then return x :: (← itemsUntil close item fuel)
      else
        symbol close
        return [x]

/-- How many items are still possible: no more than there are tokens. -/
def bound : Parser Nat := return (← get).length

/-- Reads operands with operators between them, which bind to the left. -/
def leftAssoc (operator? : Token → Option (Expr → Expr → Expr)) (operand : Parser Expr) :
    Nat → Expr → Parser Expr
  | 0, e => return e
  | fuel + 1, e => do
    match operator? (← peek).token with
    | none => return e
    | some build =>
      modify List.tail
      let right ← operand
      leftAssoc operator? operand fuel (build e right)

/-- Reads one or more operands with operators between them. -/
def operands (operator? : Token → Option (Expr → Expr → Expr)) (operand : Parser Expr) :
    Parser Expr := do
  let e ← operand
  leftAssoc operator? operand (← bound) e

end Parser

open ChartRender.Template.Parser

/-! ### Operators -/

def productOperator? : Token → Option (Expr → Expr → Expr)
  | .symbol "*" => some (.binary .mul)
  | _ => none

def concatOperator? : Token → Option (Expr → Expr → Expr)
  | .symbol "~" => some (.binary .concat)
  | _ => none

def sumOperator? : Token → Option (Expr → Expr → Expr)
  | .symbol "+" => some (.binary .add)
  | .symbol "-" => some (.binary .sub)
  | _ => none

def comparisonOperator? : Token → Option (Expr → Expr → Expr)
  | .symbol "==" => some (.binary .equal)
  | .symbol "!=" => some (.binary .unequal)
  | _ => none

def andOperator? : Token → Option (Expr → Expr → Expr)
  | .word "and" => some .and
  | _ => none

def orOperator? : Token → Option (Expr → Expr → Expr)
  | .word "or" => some .or
  | _ => none

/-! ### Operands -/

/-- An argument, with a name in front or without. -/
def argument (expr : Parser Expr) : Parser (Option String × Expr) := do
  let e ← expr
  match e with
  | .var _ name => if ← skip (.symbol "=") then return (some name, ← expr) else return (none, e)
  | _ => return (none, e)

/-- Whether no argument without a name stands behind one with a name. -/
def namedLast : Arguments → Bool
  | [] => true
  | (none, _) :: rest => namedLast rest
  | (some _, _) :: rest => rest.all fun a => a.1.isSome

/-- The arguments of a call, behind the opening bracket. -/
def arguments (expr : Parser Expr) : Parser Arguments := do
  let line := (← peek).line
  let args ← itemsUntil ")" (argument expr) (← bound)
  if namedLast args then return args else reject line

/-- An entry of a map. -/
def mapEntry (expr : Parser Expr) : Parser (Expr × Expr) := do
  let key ← expr
  symbol ":"
  return (key, ← expr)

/-- An operand without anything behind it. -/
def primary (expr : Parser Expr) : Parser Expr := do
  let t ← next
  match t.token with
  | .word "true" | .word "True" => return .literal t.line (.bool true)
  | .word "false" | .word "False" => return .literal t.line (.bool false)
  | .word "none" | .word "None" => return .literal t.line .null
  | .word name => return .var t.line name
  | .int n => return .literal t.line (.int n)
  | .float x => return .literal t.line (.float x)
  | .string s => return .literal t.line (.string s)
  | .symbol "(" => do
    let e ← expr
    symbol ")"
    return e
  | .symbol "[" => return .list t.line (← itemsUntil "]" expr (← bound))
  | .symbol "\x7b" => return .map t.line (← itemsUntil "\x7d" (mapEntry expr) (← bound))
  | _ => reject t.line

/-- The call of what stands in front of arguments, from a given line on. -/
def callOf (line : Nat) (args : Arguments) : Expr → Expr
  | .var _ name => .call line name args
  | .attr e name => .callMethod e name args
  | e => .callValue e args

/-- Attributes, items and calls behind an operand that starts on a line. -/
def postfixes (expr : Parser Expr) (line : Nat) : Nat → Expr → Parser Expr
  | 0, e => return e
  | fuel + 1, e => do
    if ← skip (.symbol ".") then
      let name ← name
      postfixes expr line fuel (.attr e name)
    else if ← skip (.symbol "[") then
      let key ← expr
      symbol "]"
      postfixes expr line fuel (.item e key)
    else if ← skip (.symbol "(") then
      let args ← arguments expr
      postfixes expr line fuel (callOf line args e)
    else return e

/-- An operand behind any number of signs. -/
def signed (expr : Parser Expr) : Nat → Parser Expr
  | 0 => primary expr
  | fuel + 1 => do
    if ← skip (.symbol "-") then return .neg (← signed expr fuel) else primary expr

/-- An operand with its sign, attributes, items and calls. -/
def operand (expr : Parser Expr) : Parser Expr := do
  let line := (← peek).line
  let e ← signed expr (← bound)
  postfixes expr line (← bound) e

/-- Whether a token can start the argument of a test that is written without brackets. -/
def startsTestArgument : Token → Bool
  | .word name => !(name == "and" || name == "or" || name == "else" || name == "is")
  | .string _ | .int _ | .float _ => true
  | .symbol s => s == "+" || s == "-" || s == "[" || s == "\x7b"
  | _ => false

/-- The arguments of a filter or a test, if there are any. -/
def bracketedArguments? (expr : Parser Expr) : Parser (Option Arguments) := do
  if ← skip (.symbol "(") then return some (← arguments expr) else return none

/-- Filters and tests behind an operand. -/
def filters (expr : Parser Expr) : Nat → Expr → Parser Expr
  | 0, e => return e
  | fuel + 1, e => do
    if ← skip (.symbol "|") then
      let name ← name
      let args ← bracketedArguments? expr
      filters expr fuel (.filter e name (args.getD []))
    else if ← skip (.word "is") then
      let negated ← skip (.word "not")
      let name ← name
      let args ← match ← bracketedArguments? expr with
        | some args => pure args
        | none =>
          if startsTestArgument (← peek).token then
            let a ← operand expr
            pure [(none, a)]
          else pure []
      let test := Expr.test e name args
      filters expr fuel (if negated then .not test else test)
    else return e

/-- An operand with all that stands behind it. -/
def filtered (expr : Parser Expr) : Parser Expr := do
  let e ← operand expr
  filters expr (← bound) e

/-! ### Expressions -/

def comparison (expr : Parser Expr) : Parser Expr :=
  operands comparisonOperator?
    (operands sumOperator? (operands concatOperator? (operands productOperator? (filtered expr))))

/-- A comparison behind any number of negations. -/
def negation (expr : Parser Expr) : Nat → Parser Expr
  | 0 => comparison expr
  | fuel + 1 => do
    if ← skip (.word "not") then return .not (← negation expr fuel) else comparison expr

def disjunction (expr : Parser Expr) : Parser Expr := do
  operands orOperator? (operands andOperator? (do negation expr (← bound)))

/-- An expression, inside which there are at most `fuel` brackets and choices around one another. -/
def expression : Nat → Parser Expr
  | 0 => do reject (← peek).line
  | fuel + 1 => do
    let yes ← disjunction (expression fuel)
    if ← skip (.word "if") then
      let condition ← disjunction (expression fuel)
      expect (.word "else")
      return .choose condition yes (← expression fuel)
    else return yes

/-- An expression; no more brackets can be around one another than there are tokens. -/
def expr : Parser Expr := do expression (← bound)

/-- An expression that is no choice. -/
def simpleExpr : Parser Expr := do disjunction (expression (← bound))

/-! ### Statements -/

/-- A name that is imported, and the name it gets. -/
def importedName : Parser (String × String) := do
  let name ← target
  if ← skip (.word "as") then return (name, ← target) else return (name, name)

/-- Reads imported names with commas between them up to the end of the statement, which stays. -/
def importedNames : Nat → Parser (List (String × String))
  | 0 => return []
  | fuel + 1 => do
    if (← peek).token = .stmtEnd then return []
    else
      let p ← importedName
      if ← skip (.symbol ",") then return p :: (← importedNames fuel) else return [p]

mutual

/-- Statements up to the end of the template or to a statement that starts with one of some words;
that word stays. -/
def block : Nat → (ends : List String) → Parser (List Stmt)
  | 0, _ => do reject (← peek).line
  | fuel + 1, ends => do
    let t ← peek
    match t.token with
    | .text s => do
      modify List.tail
      return .text s :: (← block fuel ends)
    | .exprStart => do
      modify List.tail
      let e ← expr
      expect .exprEnd
      return .emit e :: (← block fuel ends)
    | .stmtStart => do
      modify List.tail
      match (← peek).token with
      | .word name =>
        if name ∈ ends then return []
        else
          let s ← statement fuel
          expect .stmtEnd
          return s :: (← block fuel ends)
      | _ => reject (← peek).line
    | _ => return []

/-- A statement, from its first word to the end of what belongs to it. -/
def statement : Nat → Parser Stmt
  | 0 => do reject (← peek).line
  | fuel + 1 => do
    let t ← next
    match t.token with
    | .word "set" => do
      let name ← target
      symbol "="
      return .assign name (← expr)
    | .word "if" => conditional fuel
    | .word "for" => do
      let name ← target
      expect (.word "in")
      let e ← simpleExpr
      expect .stmtEnd
      let body ← block fuel ["endfor"]
      expect (.word "endfor")
      return .forEach name e body
    | .word "macro" => do
      let name ← name
      symbol "("
      let params ← itemsUntil ")" target (← bound)
      expect .stmtEnd
      let body ← block fuel ["endmacro"]
      expect (.word "endmacro")
      return .define name params body
    | .word "include" => return .include t.line (← expr)
    | .word "from" => do
      let e ← expr
      expect (.word "import")
      return .fromImport t.line e (← importedNames (← bound))
    | _ => reject t.line

/-- A choice between statements, from its condition on. -/
def conditional : Nat → Parser Stmt
  | 0 => do reject (← peek).line
  | fuel + 1 => do
    let condition ← simpleExpr
    expect .stmtEnd
    let yes ← block fuel ["endif", "else", "elif"]
    let t ← next
    match t.token with
    | .word "else" => do
      expect .stmtEnd
      let no ← block fuel ["endif"]
      expect (.word "endif")
      return .choose condition yes no
    | .word "elif" => return .choose condition yes [← conditional fuel]
    | _ => return .choose condition yes []

end

/-- Reads the tokens of a whole template. Each step down takes a token, so twice their number is
fuel enough. -/
def parseTokens (ts : List Placed) : Except Rejection (List Stmt) :=
  ((block (2 * ts.length) []).run ts).map (·.1)

/-- The fault that a rejection means. -/
def Rejection.fault (r : Rejection) : Fault :=
  match r.kind with
  | .syntaxError => .because .syntaxError "unexpected token"
  | kind => .plain kind

/-- The statements of the template with a name and a text, or the fault that makes it none. -/
def parse (name source : String) : Except Fault (List Stmt) :=
  match parseTokens (tokens source) with
  | .ok stmts => .ok stmts
  | .error r => .error (r.fault.placed name r.line)

end ChartRender.Template
