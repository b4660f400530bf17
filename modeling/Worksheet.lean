import Worksheet.Aggregate.Registry
import Worksheet.CellName
import Worksheet.Expr.Eval
import Worksheet.Expr.OfText
import Worksheet.Grid.Edges
import Worksheet.Grid.Lookup
import Worksheet.Grid.Order
import Worksheet.Grid.Propagate
import Worksheet.Sheet
import Worksheet.Stack
import Worksheet.Text.Letter
import Worksheet.Text.Quoted
import Worksheet.Text.Upper
import Worksheet.Proofs.Grid.Schedule
import Worksheet.Proofs.Grid.Cells
import Worksheet.Proofs.Grid.Reach
import Worksheet.Proofs.Grid.Wiring
import Worksheet.Proofs.Grid.Graph
import Worksheet.Proofs.Grid.Order
import Worksheet.Proofs.Grid.Lookup
import Worksheet.Proofs.Expr.References
import Worksheet.Proofs.Grid.Evaluate
import Worksheet.Proofs.Grid.Runs
import Worksheet.Proofs.Grid.Pass
import Worksheet.Proofs.Grid.History
import Worksheet.Proofs.Grid.Settled
import Worksheet.Proofs.Sheet.Session
import Worksheet.Proofs.Text.Upper
import Worksheet.Proofs.Token.Spelling
import Worksheet.Proofs.Token.Tiling
import Worksheet.Proofs.Token.Append
import Worksheet.Proofs.Expr.Grammar
import Worksheet.Proofs.Expr.RoundTrip
import Worksheet.Proofs.Grid.Roots
import Worksheet.Proofs.Aggregate.Names
import Worksheet.Proofs.Grid.Faults
import Worksheet.Proofs.Grid.Report
import Worksheet.Proofs.Sheet.Answers
import Worksheet.Proofs.Expr.Stack
import Worksheet.Proofs.Grid.Stack
import Worksheet.Proofs.Sheet.Stack
import Worksheet.Proofs.Expr.Completion
import Worksheet.Proofs.Expr.Operations
import Worksheet.Proofs.Grid.Consistency
import Worksheet.Proofs.Grid.Circular
import Worksheet.Proofs.Expr.Offsets
import Worksheet.Proofs.Grid.Blame
import Worksheet.Proofs.CellName.Positions
import Worksheet.Proofs.Grid.Ranges
import Worksheet.Proofs.Grid.Agreement
import Worksheet.Proofs.Grid.Edits
import Worksheet.Proofs.CellName.Canonical
import Worksheet.Proofs.CellName.Rectangles
import Worksheet.Proofs.Grid.Differences
import Worksheet.Proofs.Grid.Literals
import Worksheet.Proofs.Grid.Rounds
