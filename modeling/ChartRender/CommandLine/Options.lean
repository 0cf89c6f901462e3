/-!
# Reading a command line

The arguments of a command are options and operands in any order. An option is written `--long` or
`-s`; its value follows as the next argument or in the same one (`--long=value`, `-svalue`). After
`--` all arguments are operands. Where operands without a fixed number may begin with a hyphen, an
argument that is no option of the command is such an operand, and from the first of them on
everything is.

Key definitions: `OptionSpec`, `Grammar`, `Reading`, `Grammar.step`, `Grammar.read`.
-/

namespace ChartRender.CommandLine

/-- What an option is for: it asks for the version or for help, is set or not, or has a value. -/
inductive OptionKind where
  | version
  | help
  | flag
  | value (repeatable mayBeEmpty : Bool)
  deriving DecidableEq, Repr

/-- An option. -/
structure OptionSpec where
  long : String
  short : Option Char
  kind : OptionKind
  deriving DecidableEq, Repr

/-- What a command takes: its options, the operands of which there is exactly one each, and the
operands behind them if their number is free. -/
structure Grammar where
  options : List OptionSpec
  operands : Nat
  takesMore : Bool
  hyphenated : Bool
  mayBeEmpty : Bool
  deriving DecidableEq, Repr

/-- Why reading ends before the command is known. -/
inductive Stop where
  | misuse
  | version
  | help
  deriving DecidableEq, Repr

/-- What has been read: the flags that are set, the values of options, the operands, the option
whose value comes next, and whether everything that follows is an operand. -/
structure Reading where
  flags : List String
  values : List (String × String)
  operands : List String
  pending : Option OptionSpec
  operandsOnly : Bool
  deriving DecidableEq, Repr

namespace Reading

def start : Reading := ⟨[], [], [], none, false⟩

def isSet (r : Reading) (flag : String) : Bool := r.flags.contains flag

/-- The values of an option, in order. -/
def valuesOf (r : Reading) (option : String) : List String :=
  (r.values.filter fun p => p.1 == option).map (·.2)

/-- The value of an option that is given at most once. -/
def value? (r : Reading) (option : String) : Option String := (r.valuesOf option).getLast?

/-- Takes the value of an option. -/
def takeValue (r : Reading) (o : OptionSpec) (value : String) : Except Stop Reading :=
  match o.kind with
  | .value repeatable mayBeEmpty =>
    if value = "" ∧ !mayBeEmpty then .error .misuse
    else if !repeatable ∧ !(r.valuesOf o.long).isEmpty then .error .misuse
    else .ok { r with values := r.values ++ [(o.long, value)], pending := none }
  | _ => .error .misuse

/-- Takes an option without a value in the same argument. No option may come where a value is
awaited. -/
def takeOption (r : Reading) (o : OptionSpec) : Except Stop Reading :=
  if r.pending.isSome then .error .misuse
  else match o.kind with
    | .version => .error .version
    | .help => .error .help
    | .flag => if r.isSet o.long then .error .misuse else .ok { r with flags := o.long :: r.flags }
    | .value .. => .ok { r with pending := some o }

/-- Takes an option with a value in the same argument. -/
def takeAttached (r : Reading) (o : OptionSpec) (value : String) : Except Stop Reading :=
  if r.pending.isSome then .error .misuse else r.takeValue o value

end Reading

namespace Grammar

/-- Takes an operand. -/
def takeOperand (g : Grammar) (r : Reading) (operand : String) : Except Stop Reading :=
  if r.pending.isSome then .error .misuse
  else if r.operands.length < g.operands then
    if operand = "" ∧ !g.mayBeEmpty then .error .misuse
    else .ok { r with operands := r.operands ++ [operand] }
  else if g.takesMore then
    .ok { r with
      operands := r.operands ++ [operand]
      operandsOnly := r.operandsOnly || g.hyphenated }
  else .error .misuse

/-- Takes an argument that is no option: the value that is awaited, or an operand. -/
def takePlain (g : Grammar) (r : Reading) (arg : String) : Except Stop Reading :=
  match r.pending with
  | some o => r.takeValue o arg
  | none => g.takeOperand r arg

/-- Whether the next operand may begin with a hyphen. -/
def allowsHyphen (g : Grammar) (r : Reading) : Bool :=
  g.takesMore && g.hyphenated && g.operands ≤ r.operands.length

def findLong? (g : Grammar) (name : String) : Option OptionSpec :=
  g.options.find? fun o => o.long == name

def findShort? (g : Grammar) (c : Char) : Option OptionSpec :=
  g.options.find? fun o => o.short == some c

/-- The name of a long option and the value behind its equals sign, if there is one. -/
def splitLong (cs : List Char) : String × Option String :=
  let name := cs.takeWhile (· != '=')
  match cs.drop name.length with
  | [] => (String.ofList name, none)
  | _ :: value => (String.ofList name, some (String.ofList value))

/-- Takes an argument that begins with two hyphens, which are left out of `cs`. -/
def takeLong (g : Grammar) (r : Reading) (arg : String) (cs : List Char) : Except Stop Reading :=
  let (name, value) := splitLong cs
  match g.findLong? name, value with
  | some o, none => r.takeOption o
  | some o, some value => r.takeAttached o value
  | none, _ => if g.allowsHyphen r then g.takePlain r arg else .error .misuse

/-- Takes the letters of an argument that begins with one hyphen: options one after the other, up to
the first that has a value. -/
def takeLetters (g : Grammar) (r : Reading) : List Char → Except Stop Reading
  | [] => .ok r
  | c :: cs =>
    match g.findShort? c with
    | none => .error .misuse
    | some o =>
      match o.kind, cs with
      | .value .., '=' :: value => r.takeAttached o (String.ofList value)
      | .value .., d :: value => r.takeAttached o (String.ofList (d :: value))
      | _, cs => do
        let r ← r.takeOption o
        takeLetters g r cs

/-- Takes an argument that begins with one hyphen, which is left out of `cs`. -/
def takeShort (g : Grammar) (r : Reading) (arg : String) (cs : List Char) : Except Stop Reading :=
  if g.allowsHyphen r && cs.any fun c => (g.findShort? c).isNone then g.takePlain r arg
  else g.takeLetters r cs

/-- Takes the next argument. -/
def step (g : Grammar) (r : Reading) (arg : String) : Except Stop Reading :=
  if r.operandsOnly then g.takeOperand r arg
  else match arg.toList with
    | ['-', '-'] => if r.pending.isSome then .error .misuse else .ok { r with operandsOnly := true }
    | '-' :: '-' :: cs => g.takeLong r arg cs
    | '-' :: c :: cs => g.takeShort r arg (c :: cs)
    | _ => g.takePlain r arg

/-- Whether nothing is missing. -/
def isComplete (g : Grammar) (r : Reading) : Bool :=
  r.pending.isNone && g.operands ≤ r.operands.length

/-- Reads all arguments of a command. -/
def read (g : Grammar) (args : List String) : Except Stop Reading := do
  let r ← args.foldlM g.step .start
  if g.isComplete r then return r else throw .misuse

end Grammar

end ChartRender.CommandLine
