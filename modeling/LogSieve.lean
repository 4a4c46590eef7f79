import LogSieve.Text.Lower
import LogSieve.Text.Quoted
import LogSieve.Text.Utf8
import LogSieve.Number.Layout
import LogSieve.Json.Reader
import LogSieve.Json.Writer
import LogSieve.Filter.Compile
import LogSieve.Filter.Verdict
import LogSieve.Scan.Sieve
import LogSieve.Report.Caret
import LogSieve.Report.Table
import LogSieve.Settings
import LogSieve.Command.Session
import LogSieve.Main
import LogSieve.Proofs.Filter.Tiling
import LogSieve.Proofs.Filter.Derivation
import LogSieve.Proofs.Filter.Recognition
import LogSieve.Proofs.Filter.Spelling
import LogSieve.Proofs.Filter.Printed
import LogSieve.Proofs.Filter.Depth
import LogSieve.Proofs.Filter.Load
import LogSieve.Proofs.Filter.Viable
import LogSieve.Proofs.Filter.Composed
import LogSieve.Proofs.Filter.Distinct
import LogSieve.Proofs.Filter.Dependence
import LogSieve.Proofs.Filter.Caseless
import LogSieve.Proofs.Filter.Verbatim
import LogSieve.Proofs.Scan.Failure
import LogSieve.Proofs.Scan.Inversion
import LogSieve.Proofs.Scan.Selection
import LogSieve.Proofs.Command.Files
import LogSieve.Proofs.Command.Unreadable
import LogSieve.Proofs.Command.Stages
import LogSieve.Proofs.Record.OwnText
import LogSieve.Proofs.Record.Whole
import LogSieve.Proofs.Record.BareWord
import LogSieve.Proofs.Record.LineEnd
import LogSieve.Proofs.Number.Nearest
import LogSieve.Proofs.Number.Written
import LogSieve.Proofs.Filter.SameNumber
import LogSieve.Proofs.Filter.Bracketed
import LogSieve.Proofs.Filter.Placed
import LogSieve.Proofs.Filter.Culprit
import LogSieve.Proofs.Report.Caret
import LogSieve.Proofs.Filter.Ending
import LogSieve.Proofs.Filter.Moved
import LogSieve.Proofs.Filter.Joined
import LogSieve.Proofs.Json.Ordered
import LogSieve.Proofs.Record.KeyValue
import LogSieve.Proofs.Record.Typing
import LogSieve.Proofs.Filter.Dotted
import LogSieve.Proofs.Filter.Reserved
import LogSieve.Proofs.Filter.Counted
import LogSieve.Proofs.Filter.Balance
import LogSieve.Proofs.Filter.Height
