import ChartRender.Command.Basic
import ChartRender.Json.Printer
import ChartRender.Quantity
/-!
# Converting quantities

The command that checks quantities and converts them to counts. The first one that is not well
formed ends it before anything is printed.

Key definitions: `QuantityEntry`, `QuantityEntry.of`, `Command.quantity`.
-/

namespace ChartRender

/-- A quantity and, if it was to be converted, its count and whether the unit allows one. -/
structure QuantityEntry where
  text : String
  count : Option (Int64 × Bool)
  deriving DecidableEq, Repr

namespace QuantityEntry

/-- The entry of a text, which is checked first and then converted unless it is only to be
checked. -/
def of (checkOnly : Bool) (text : String) : Except Failure QuantityEntry := do
  let v ← Quantity.validate (.string text)
  if checkOnly then return ⟨text, none⟩ else return ⟨text, some (← Quantity.toInt64 v)⟩

/-- The entries of texts, from the first to the last. -/
def ofAll (checkOnly : Bool) : List String → Except Failure (List QuantityEntry)
  | [] => .ok []
  | text :: rest => do
    let entry ← of checkOnly text
    let entries ← ofAll checkOnly rest
    return entry :: entries

/-- The entry as a line. -/
def line (e : QuantityEntry) : String :=
  match e.count with
  | some (n, ok) =>
    e.text ++ "\t" ++ toString n.toInt ++ "\t" ++ (if ok then "true" else "false") ++ "\n"
  | none => e.text ++ "\tvalid\n"

/-- The entry as a value. -/
def toValue (e : QuantityEntry) : Value :=
  .map (("quantity", .string e.text) ::
    match e.count with
    | some (n, ok) => [("value", .int n), ("ok", .bool ok)]
    | none => [])

end QuantityEntry

/-- Checks or converts quantities and prints them, line by line or as one JSON document. -/
def Command.quantity (texts : List String) (checkOnly json : Bool) : Command Unit := do
  let entries ← orFail .builtin (QuantityEntry.ofAll checkOnly texts)
  if json then
    Command.print (Value.toIndentedJson 0 (.list (entries.map QuantityEntry.toValue)) ++ "\n")
  else Command.print (String.join (entries.map QuantityEntry.line))

end ChartRender
