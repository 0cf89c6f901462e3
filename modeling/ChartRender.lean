import ChartRender.Main
import ChartRender.Proofs.Command.Stages
import ChartRender.Proofs.Quantity.Exactness
import ChartRender.Proofs.Template.Function
import ChartRender.Proofs.Value.Merge
import ChartRender.Proofs.Rendering.Report
import ChartRender.Proofs.Values.Path
import ChartRender.Proofs.Rendering.Account
import ChartRender.Proofs.Files.Tree
import ChartRender.Proofs.Template.SelfContained
import ChartRender.Proofs.Rendering.Isolation
import ChartRender.Proofs.Value.Finite
import ChartRender.Proofs.Values.Crossing
import ChartRender.Proofs.Value.Equality
import ChartRender.Proofs.Builtin.Congruence
import ChartRender.Proofs.Decimal.Shortest
import ChartRender.Proofs.Decimal.Spelling
import ChartRender.Proofs.Json.Leaf
import ChartRender.Proofs.Json.RoundTrip
import ChartRender.Proofs.Json.Text
import ChartRender.Proofs.Template.Token
import ChartRender.Proofs.Template.Head
import ChartRender.Proofs.Rendering.BuiltinsName
import ChartRender.Proofs.Template.Reach
import ChartRender.Proofs.Text.Lines
import ChartRender.Proofs.Text.Split
import ChartRender.Proofs.Rendering.Span
import ChartRender.Proofs.Command.Call
import ChartRender.Proofs.Json.Tree
import ChartRender.Proofs.Value.MergeLaws
import ChartRender.Proofs.TypeName
import ChartRender.Proofs.Values.Decoded
import ChartRender.Proofs.Command.Quantity
import ChartRender.Proofs.Quantity.Grammar
import ChartRender.Proofs.Quantity.Conversion
import ChartRender.Proofs.Diagnostic
import ChartRender.Proofs.Builtin.TypeTests
import ChartRender.Proofs.Value.Equivalence
import ChartRender.Proofs.Text.LineSpan
import ChartRender.Proofs.Command.Outputs
import ChartRender.Proofs.Builtin.Tuple
import ChartRender.Proofs.Values.Precedence
import ChartRender.Proofs.Diagnostic.Causes
import ChartRender.Proofs.Text.Replace
import ChartRender.Proofs.Diagnostic.Wording
import ChartRender.Proofs.Builtin.Integers
import ChartRender.Proofs.Quantity.Monotone
import ChartRender.Proofs.Quantity.Unitless
import ChartRender.Proofs.Values.Integers
import ChartRender.Proofs.Template.Number
import ChartRender.Proofs.Builtin.Dispatch
import ChartRender.Proofs.Rendering.Tally
import ChartRender.Proofs.Rendering.Listing
import ChartRender.Proofs.Quantity.Split
