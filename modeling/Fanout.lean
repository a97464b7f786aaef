import Fanout.Main
import Fanout.Proofs.Again
import Fanout.Proofs.Bindings
import Fanout.Proofs.ByteOrder
import Fanout.Proofs.Calendar.DayNumber
import Fanout.Proofs.Calendar.Duration
import Fanout.Proofs.Calendar.DurationText
import Fanout.Proofs.Calendar.Instant
import Fanout.Proofs.Calendar.Timestamp
import Fanout.Proofs.Combination
import Fanout.Proofs.Comparison
import Fanout.Proofs.Component
import Fanout.Proofs.Count
import Fanout.Proofs.Derived
import Fanout.Proofs.Diagnostics
import Fanout.Proofs.Effect
import Fanout.Proofs.Enumeration
import Fanout.Proofs.Expr.Chain
import Fanout.Proofs.Expr.Characters
import Fanout.Proofs.Expr.Completeness
import Fanout.Proofs.Expr.Computed
import Fanout.Proofs.Expr.Cursor
import Fanout.Proofs.Expr.Demand
import Fanout.Proofs.Expr.FloatText
import Fanout.Proofs.Expr.Height
import Fanout.Proofs.Expr.Integer
import Fanout.Proofs.Expr.Kept
import Fanout.Proofs.Expr.Layout
import Fanout.Proofs.Expr.Literal
import Fanout.Proofs.Expr.Mentioned
import Fanout.Proofs.Expr.Minimal
import Fanout.Proofs.Expr.NumberParts
import Fanout.Proofs.Expr.Numeral
import Fanout.Proofs.Expr.Phrase
import Fanout.Proofs.Expr.Power
import Fanout.Proofs.Expr.Print
import Fanout.Proofs.Expr.RoundTrip
import Fanout.Proofs.Expr.Separated
import Fanout.Proofs.Expr.Soundness
import Fanout.Proofs.Expr.Spelling
import Fanout.Proofs.Expr.Word
import Fanout.Proofs.Extreme
import Fanout.Proofs.Files.Beside
import Fanout.Proofs.Files.Places
import Fanout.Proofs.Files.Writing
import Fanout.Proofs.Forward
import Fanout.Proofs.Generate
import Fanout.Proofs.Indexed
import Fanout.Proofs.Log
import Fanout.Proofs.Meeting
import Fanout.Proofs.Number.Amount
import Fanout.Proofs.Number.Bits
import Fanout.Proofs.Number.Conversion
import Fanout.Proofs.Number.Digits
import Fanout.Proofs.Number.FloatText
import Fanout.Proofs.Number.Nearest
import Fanout.Proofs.Number.Shortest
import Fanout.Proofs.Number.Word
import Fanout.Proofs.Output
import Fanout.Proofs.Path
import Fanout.Proofs.Promotion
import Fanout.Proofs.Rearrange
import Fanout.Proofs.Results
import Fanout.Proofs.Run
import Fanout.Proofs.Settings
import Fanout.Proofs.Source.Directive
import Fanout.Proofs.Source.Edits
import Fanout.Proofs.Source.Faults
import Fanout.Proofs.Source.Header
import Fanout.Proofs.Source.Lines
import Fanout.Proofs.Source.Listing
import Fanout.Proofs.Source.Names
import Fanout.Proofs.Source.Record
import Fanout.Proofs.Source.Rediscovery
import Fanout.Proofs.Source.Reference
import Fanout.Proofs.Source.Search
import Fanout.Proofs.Source.Written
import Fanout.Proofs.Survival
import Fanout.Proofs.Template.Alone
import Fanout.Proofs.Template.Placeholder
import Fanout.Proofs.Template.ReadBack
import Fanout.Proofs.Template.Scan
import Fanout.Proofs.Template.Span
import Fanout.Proofs.Template.Written
import Fanout.Proofs.Text
import Fanout.Proofs.Value
