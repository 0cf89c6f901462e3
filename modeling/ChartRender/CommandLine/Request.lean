import ChartRender.Command.Render
import ChartRender.CommandLine.Options
/-!
# Requests

What a command line asks for. The options `--debug` and `--config` may stand before the name of the
command or behind it; of two configurations the one behind the name counts.

Key definitions: `Request`, `Request.ofArguments`.
-/

namespace ChartRender.CommandLine

/-- A command with its options and operands. -/
inductive Action where
  | render (o : RenderOptions)
  | call (name : String) (args : List String)
  | quantity (texts : List String) (checkOnly json : Bool)
  | list
  deriving DecidableEq, Repr

/-- What a command line asks for. -/
structure Request where
  action : Action
  debug : Bool
  config : Option String
  deriving DecidableEq, Repr

/-- What comes instead of a request: a complaint, or something to be shown. -/
inductive Refusal where
  | misuse
  | show (text : String)
  deriving DecidableEq, Repr

/-! ### Grammars -/

/-- The options that every command has. -/
def sharedOptions : List OptionSpec :=
  [⟨"debug", none, .flag⟩, ⟨"config", none, .value false false⟩, ⟨"help", some 'h', .help⟩,
   ⟨"version", some 'V', .version⟩]

/-- The names of the commands. -/
inductive CommandName where
  | render
  | call
  | quantity
  | shims
  deriving DecidableEq, Repr

namespace CommandName

def text : CommandName → String
  | .render => "render"
  | .call => "call"
  | .quantity => "quantity"
  | .shims => "shims"

def all : List CommandName := [.render, .call, .quantity, .shims]

def ofText? (s : String) : Option CommandName := all.find? fun c => c.text == s

/-- What a command takes. -/
def grammar : CommandName → Grammar
  | .render =>
    { options := sharedOptions ++
        [⟨"values", some 'f', .value true false⟩, ⟨"set", none, .value true true⟩,
         ⟨"lenient", none, .flag⟩, ⟨"output", some 'o', .value false false⟩]
      operands := 1, takesMore := false, hyphenated := false, mayBeEmpty := false }
  | .call =>
    { options := sharedOptions
      operands := 1, takesMore := true, hyphenated := true, mayBeEmpty := true }
  | .quantity =>
    { options := sharedOptions ++ [⟨"validate", none, .flag⟩, ⟨"json", none, .flag⟩]
      operands := 1, takesMore := true, hyphenated := false, mayBeEmpty := true }
  | .shims =>
    { options := sharedOptions
      operands := 0, takesMore := false, hyphenated := false, mayBeEmpty := true }

/-- The command that a reading of its arguments describes. -/
def action (c : CommandName) (r : Reading) : Action :=
  match c with
  | .render => .render
      { template := r.operands.headD ""
        valuesFiles := r.valuesOf "values"
        overrides := r.valuesOf "set"
        lenient := r.isSet "lenient"
        output := r.value? "output" }
  | .call => .call (r.operands.headD "") r.operands.tail
  | .quantity => .quantity r.operands (r.isSet "validate") (r.isSet "json")
  | .shims => .list

end CommandName

/-- What stands in front of the name of the command, which is the one operand there. -/
def frontGrammar : Grammar :=
  { options := sharedOptions, operands := 1, takesMore := false, hyphenated := false,
    mayBeEmpty := true }

/-! ### Reading requests -/

def programName : String := "helmshim"

def programVersion : String := "0.2.0"

/-- The line that tells the version of the program or of one of its commands. -/
def versionText (command : Option CommandName) : String :=
  programName ++ (match command with
    | some c => "-" ++ c.text
    | none => "") ++ " " ++ programVersion ++ "\n"

/-- The lines that tell how the program is used. -/
def helpText : String :=
  "Usage: " ++ programName ++ " [OPTIONS] <" ++ Text.join "|" (CommandName.all.map (·.text)) ++
    "> [ARGUMENTS]\n"

/-- What comes of reading that has stopped. -/
def Stop.refusal (command : Option CommandName) : Stop → Refusal
  | .misuse => .misuse
  | .version => .show (versionText command)
  | .help => .show helpText

/-- Reads the arguments up to the name of the command, and gives that name and the arguments behind
it. -/
def readFront (r : Reading) : List String → Except Stop (Reading × String × List String)
  | [] => .error .misuse
  | arg :: rest => do
    let r ← frontGrammar.step r arg
    match r.operands with
    | [] => if r.operandsOnly then throw .misuse else readFront r rest
    | name :: _ => return (r, name, rest)

/-- What comes of asking for help with something. -/
def helpWith : List String → Refusal
  | [] => .show helpText
  | [topic] =>
    if topic = "help" ∨ (CommandName.ofText? topic).isSome then .show helpText else .misuse
  | _ => .misuse

/-- The request that the arguments of the program make. -/
def Request.ofArguments (args : List String) : Except Refusal Request :=
  match readFront .start args with
  | .error stop => .error (stop.refusal none)
  | .ok (front, name, rest) =>
    if name = "help" then .error (helpWith rest)
    else match CommandName.ofText? name with
      | none => .error .misuse
      | some c =>
        match c.grammar.read rest with
        | .error stop => .error (stop.refusal (some c))
        | .ok r => .ok
            { action := c.action r
              debug := front.isSet "debug" || r.isSet "debug"
              config := (r.value? "config").or (front.value? "config") }

end ChartRender.CommandLine
