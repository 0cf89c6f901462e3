import ChartRender.Decimal.Layout
import ChartRender.Template.Datum
import ChartRender.Text.Quoted
/-!
# The text of data

How data is written: as it is (`Datum.text`), inside a list or a map, where texts are quoted
(`Datum.inner`), and as output of a template (`Datum.output`), where truth values are in lower case
and templates of markup have their special characters escaped.

Key definitions: `Datum.text`, `Datum.inner`, `Datum.output`, `Template.isMarkup`.
-/

namespace ChartRender.Template

/-- On its own a number is written positionally, whatever its size. -/
def plainLayout : Layout := ⟨.upward, none, none, false⟩

/-- Inside a collection a number is written positionally if its leading digit has an exponent from
-4 to 15; the others bear an exponent without a plus sign. -/
def innerLayout : Layout := ⟨.upward, some (-4), some 15, false⟩

namespace Datum

/-- The name under which the builtins print themselves. -/
def builtinsText : String := "ShimNamespace"

/-- The name of the function that gives a range of integers. -/
def rangeName : String := "range"

/-- The name of the function that shows data, or the state of the evaluation. -/
def debugName : String := "debug"

/-- The text of a truth value. -/
def boolText (b : Bool) : String := if b then "True" else "False"

/-- The text of something that is called. -/
def routineText (name : String) : String := "<macro " ++ name ++ ">"

mutual

/-- The text of a datum inside a collection. -/
def inner : Datum → String
  | .undefined => "undefined"
  | .null => "None"
  | .bool b => boolText b
  | .int i => toString i
  | .float x => String.ofList (innerLayout.text x)
  | .string _ s => Text.quoted s
  | .list items => "[" ++ innerAll items ++ "]"
  | .map entries => "\x7b" ++ innerEntries entries ++ "\x7d"
  | .builtins => builtinsText
  | .range => rangeName
  | .debug _ => debugName
  | .routine name _ => routineText name

/-- The texts of items, with commas between them. -/
def innerAll : List Datum → String
  | [] => ""
  | [d] => inner d
  | d :: rest => inner d ++ ", " ++ innerAll rest

/-- The texts of entries, with commas between them. -/
def innerEntries : List (Datum × Datum) → String
  | [] => ""
  | [(k, d)] => inner k ++ ": " ++ inner d
  | (k, d) :: rest => inner k ++ ": " ++ inner d ++ ", " ++ innerEntries rest

end

/-- The text of a datum on its own. -/
def text : Datum → String
  | .undefined => ""
  | .float x => String.ofList (plainLayout.text x)
  | .string _ s => s
  | d => inner d

end Datum

/-! ### Output -/

/-- The way a character is written in markup. -/
def escapedInMarkup (c : Char) : List Char :=
  match c with
  | '<' => ['&', 'l', 't', ';']
  | '>' => ['&', 'g', 't', ';']
  | '&' => ['&', 'a', 'm', 'p', ';']
  | '"' => ['&', 'q', 'u', 'o', 't', ';']
  | '\'' => ['&', '#', 'x', '2', '7', ';']
  | '/' => ['&', '#', 'x', '2', 'f', ';']
  | c => [c]

/-- A text with the special characters of markup escaped. -/
def escapeMarkup (s : String) : String := String.ofList (s.toList.flatMap escapedInMarkup)

/-- A text with the special characters of markup escaped if a condition holds. -/
def escapeIf (condition : Bool) (s : String) : String := if condition then escapeMarkup s else s

/-- Whether a template with a name is one of markup: by its last extension, or by the whole name if
it has none, one extension `.j2` at the end left out. -/
def isMarkup (name : String) : Bool :=
  let cs := match name.toList.reverse with
    | '2' :: 'j' :: '.' :: rest => rest
    | rest => rest
  let extension := String.ofList (cs.takeWhile (· != '.')).reverse
  extension == "html" || extension == "htm" || extension == "xml"

/-- The text that a template puts out for a datum. Numbers need no escapes, and safe texts are
spared them. -/
def Datum.output (markup : Bool) : Datum → String
  | .bool b => if b then "true" else "false"
  | .string safe s => escapeIf (markup && !safe) s
  | .list items => escapeIf markup (Datum.text (.list items))
  | .map entries => escapeIf markup (Datum.text (.map entries))
  | .routine name index => escapeIf markup (Datum.text (.routine name index))
  | d => d.text

end ChartRender.Template
