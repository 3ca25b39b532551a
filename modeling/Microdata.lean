import Microdata.Main
import Microdata.Proofs.Binding.Mirror
import Microdata.Proofs.Binding.Agreement
import Microdata.Proofs.Binding.Blindness
import Microdata.Proofs.Binding.Simulation
import Microdata.Proofs.Binding.Guards
import Microdata.Proofs.Binding.Entries
import Microdata.Proofs.Binding.Order
import Microdata.Proofs.Binding.Links
import Microdata.Proofs.Binding.Verdicts
import Microdata.Proofs.Binding.Inlining
import Microdata.Proofs.Binding.Totality
import Microdata.Proofs.Expression.Requests
import Microdata.Proofs.Expression.Derivation
import Microdata.Proofs.Number.Numeral
import Microdata.Proofs.Expression.Scanning
import Microdata.Proofs.Expression.Acceptance
import Microdata.Proofs.Number.Integral
import Microdata.Proofs.Expression.Lexemes
import Microdata.Proofs.Expression.Source
import Microdata.Proofs.Expression.Tiling
import Microdata.Proofs.Binding.Content
import Microdata.Proofs.Binding.Places
import Microdata.Proofs.Binding.Copies
import Microdata.Proofs.Binding.Strictness
import Microdata.Proofs.Template.Strictness
import Microdata.Proofs.Template.Order
import Microdata.Proofs.Command.ExitStatus
import Microdata.Proofs.Form.Notation
import Microdata.Proofs.Form.Leaves
import Microdata.Proofs.Form.Assembly
import Microdata.Proofs.Form.Conservation
import Microdata.Proofs.Form.Totality
import Microdata.Proofs.Markup.Escape
import Microdata.Proofs.Markup.Names
import Microdata.Proofs.Markup.Raw
import Microdata.Proofs.Markup.Tags
import Microdata.Proofs.Markup.Traversal
import Microdata.Proofs.Markup.RoundTrip
import Microdata.Proofs.Markup.Reading
import Microdata.Proofs.Markup.Repetition
import Microdata.Proofs.Markup.Building
import Microdata.Proofs.Markup.Nesting
import Microdata.Proofs.Source.Canonical
import Microdata.Proofs.Source.Properties
import Microdata.Proofs.Text.Cutting
import Microdata.Proofs.Template.Types
import Microdata.Proofs.Binding.Setters
import Microdata.Proofs.Form.Submission
import Microdata.Proofs.Number.Rounding
import Microdata.Proofs.Number.Shortest
import Microdata.Proofs.Number.Nearest
import Microdata.Proofs.Number.Positional
import Microdata.Proofs.Expression.Literals
import Microdata.Proofs.Binding.Filling
import Microdata.Proofs.Template.Paths
import Microdata.Proofs.Number.Order
import Microdata.Proofs.Value.Comparison
import Microdata.Proofs.Expression.Comparison
import Microdata.Proofs.Binding.Attributes
import Microdata.Proofs.Binding.Marks
import Microdata.Proofs.Source.Readability
import Microdata.Proofs.Expression.Recovery
import Microdata.Proofs.Expression.Spans
import Microdata.Proofs.Expression.Slices
import Microdata.Proofs.Value.Ordering
import Microdata.Proofs.Binding.Registry
import Microdata.Proofs.Binding.Pool
