import Spreadsheet.Coord
import Spreadsheet.Operator
import Spreadsheet.Decimal.Binary64
import Spreadsheet.Decimal.Positional
import Spreadsheet.Decimal.Shortest
import Spreadsheet.Numeral
import Spreadsheet.Text.Edges
import Spreadsheet.Text.Unprintable
import Spreadsheet.Text.Combining
import Spreadsheet.Text.Blank
import Spreadsheet.Text.Visible
import Spreadsheet.Text.Quoted
import Spreadsheet.TokenError
import Spreadsheet.Formula
import Spreadsheet.Formula.Grammar
import Spreadsheet.Formula.Recognition
import Spreadsheet.Formula.Reader
import Spreadsheet.Formula.Recognition.Reader
import Spreadsheet.Value
import Spreadsheet.Value.Reader
import Spreadsheet.Source
import Spreadsheet.Evaluation.Number
import Spreadsheet.Evaluation
import Spreadsheet.Evaluation.Evaluator
import Spreadsheet.Grid
import Spreadsheet.Display
import Spreadsheet.Sink
import Spreadsheet.File.SystemError
import Spreadsheet.Output
import Spreadsheet.Layout
import Spreadsheet.Record
import Spreadsheet.Record.Reader
import Spreadsheet.Storage
import Spreadsheet.File.Path
import Spreadsheet.Storage.Reader
import Spreadsheet.File.Tree
import Spreadsheet.File.Task
import Spreadsheet.Session
import Spreadsheet.Session.Operation
import Spreadsheet.Menu
import Spreadsheet.Menu.Terminal
import Spreadsheet.CommandLine.Arguments
import Spreadsheet.CommandLine.Report
import Spreadsheet.CommandLine
import Spreadsheet.OneShot
import Spreadsheet.Main
import Spreadsheet.Proofs.Except
import Spreadsheet.Proofs.File.Tree
import Spreadsheet.Proofs.File.Path
import Spreadsheet.Proofs.Evaluation.Operands
import Spreadsheet.Proofs.Evaluation.References
import Spreadsheet.Proofs.Evaluation.Fresh
import Spreadsheet.Proofs.Evaluation.Reuse
import Spreadsheet.Proofs.Evaluation.Failure
import Spreadsheet.Proofs.Evaluation.Limit
import Spreadsheet.Proofs.Evaluation.Consistency
import Spreadsheet.Proofs.Evaluation.Mirror
import Spreadsheet.Proofs.Evaluation.Locality
import Spreadsheet.Proofs.Decimal.Nearest
import Spreadsheet.Proofs.Decimal.Rounding
import Spreadsheet.Proofs.Decimal.Digits
import Spreadsheet.Proofs.Decimal.Significant
import Spreadsheet.Proofs.Decimal.Shortest
import Spreadsheet.Proofs.Decimal.Bits
import Spreadsheet.Proofs.Decimal.Arithmetic
import Spreadsheet.Proofs.Numeral
import Spreadsheet.Proofs.Display
import Spreadsheet.Proofs.Evaluation.Integers
import Spreadsheet.Proofs.Formula.Grammar
import Spreadsheet.Proofs.Numeral.Form
import Spreadsheet.Proofs.Formula.Bytes
import Spreadsheet.Proofs.Formula.Recognition
import Spreadsheet.Proofs.Text.Blank
import Spreadsheet.Proofs.Text.Quoted
import Spreadsheet.Proofs.Text.Canonical
import Spreadsheet.Proofs.Text.Encoding
import Spreadsheet.Proofs.Formula.Written
import Spreadsheet.Proofs.Value.Token
import Spreadsheet.Proofs.Value.Canonical
import Spreadsheet.Proofs.Formula.Reader
import Spreadsheet.Proofs.Numeral.Storage
import Spreadsheet.Proofs.Value.Classes
import Spreadsheet.Proofs.Record
import Spreadsheet.Proofs.Record.Reader
import Spreadsheet.Proofs.Record.Quoting
import Spreadsheet.Proofs.Grid
import Spreadsheet.Proofs.Grid.Cells
import Spreadsheet.Proofs.Grid.Undo
import Spreadsheet.Proofs.Storage
import Spreadsheet.Proofs.Storage.Loaded
import Spreadsheet.Proofs.Storage.Lines
import Spreadsheet.Proofs.Storage.Reader
import Spreadsheet.Proofs.Session
import Spreadsheet.Proofs.Evaluation.Comparison
import Spreadsheet.Proofs.Session.Operation
import Spreadsheet.Proofs.Session.History
import Spreadsheet.Proofs.Sink
import Spreadsheet.Proofs.Output
import Spreadsheet.Proofs.Layout
import Spreadsheet.Proofs.Storage.Reload
import Spreadsheet.Proofs.Menu
import Spreadsheet.Proofs.Menu.Terminal
import Spreadsheet.Proofs.Menu.Dialogue
import Spreadsheet.Proofs.Menu.Saving
import Spreadsheet.Proofs.Menu.Ending
import Spreadsheet.Proofs.Menu.Output
import Spreadsheet.Proofs.CommandLine.Set
import Spreadsheet.Proofs.CommandLine.Arguments
