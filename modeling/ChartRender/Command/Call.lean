import ChartRender.Builtin
import ChartRender.Command.Basic
import ChartRender.Json.Printer
import ChartRender.Json.Reader
import ChartRender.Json.Tree
/-!
# Calling builtins

The commands that deal with builtins outside of templates: calling one with arguments given as
texts, and listing them all.

Key definitions: `Value.simplified`, `Command.argument`, `Command.call`, `Command.list`.
-/

namespace ChartRender

namespace Value

mutual

/-- The value with every number that is a 64-bit integer as an integer, and with sorted keys. -/
def simplified : Value → Value
  | .number x =>
    match x.toInt64? with
    | some i => .int i
    | none => .number x
  | .list items => .list (simplifiedAll items)
  | .map fields => .map (Fields.sorted (simplifiedFields fields))
  | v => v

def simplifiedAll : List Value → List Value
  | [] => []
  | v :: rest => simplified v :: simplifiedAll rest

def simplifiedFields : List (String × Value) → List (String × Value)
  | [] => []
  | (key, v) :: rest => (key, simplified v) :: simplifiedFields rest

end

end Value

namespace Command

/-- The value that an argument stands for: that of a JSON document, or else the text itself. -/
def argument (text : String) : Value := ((Json.parse? text).map Json.toValue).getD (.string text)

/-- Calls a builtin and prints its result. -/
def call (name : String) (args : List String) (debug : Bool) : Command Unit := do
  let values := args.map argument
  note debug ("Calling " ++ name ++ " with " ++ (Value.list values).toJson)
  let result ← orFail .builtin (Builtin.call name values)
  print (result.simplified.toJson ++ "\n")

/-- A text filled up with blanks. -/
def padded (width : Nat) (s : String) : String :=
  s ++ String.ofList (List.replicate (width - s.length) ' ')

/-- Lists the builtins with the numbers of their arguments and what they do. -/
def list : Command Unit :=
  let width := (Builtin.all.map fun b => b.name.length).foldl max 0
  print (String.join (Builtin.all.map fun b =>
    padded width b.name ++ "  " ++ toString b.arity ++ "  " ++ b.summary ++ "\n"))

end Command

end ChartRender
