import Tabular.Address
import Tabular.Aggregate.Bucket
import Tabular.Aggregate.Category
import Tabular.Aggregate.GroundTruth
import Tabular.Aggregate.Trend
import Tabular.Calendar
import Tabular.Cell
import Tabular.Console.Command
import Tabular.Console.Run
import Tabular.Decimal.Binary
import Tabular.Decimal.Fixed
import Tabular.Decimal.Numeral
import Tabular.Decimal.Shortest
import Tabular.Delimited.Reader
import Tabular.Delimited.Writer
import Tabular.Error
import Tabular.Formula.Column
import Tabular.Formula.Parser
import Tabular.Formula.Token
import Tabular.Formula.Tree
import Tabular.Formula.Value
import Tabular.Header
import Tabular.Intake.Csv
import Tabular.Intake.Format
import Tabular.Intake.Spreadsheet
import Tabular.Json.Basic
import Tabular.Json.Decode
import Tabular.Json.Document
import Tabular.Json.Records
import Tabular.Layout
import Tabular.Merge
import Tabular.Profile
import Tabular.Proofs.Aggregate.Bucket
import Tabular.Proofs.Aggregate.Category
import Tabular.Proofs.Aggregate.Granularity
import Tabular.Proofs.Aggregate.Groups
import Tabular.Proofs.Aggregate.ReadBack
import Tabular.Proofs.Aggregate.Scope
import Tabular.Proofs.Aggregate.Thin
import Tabular.Proofs.Aggregate.Trend
import Tabular.Proofs.Agree
import Tabular.Proofs.Alike
import Tabular.Proofs.Calendar.Days
import Tabular.Proofs.Calendar.Serial
import Tabular.Proofs.Calendar.Spelled
import Tabular.Proofs.Calendar.Written
import Tabular.Proofs.Console.Alike
import Tabular.Proofs.Console.Lines
import Tabular.Proofs.Console.MissingSheet
import Tabular.Proofs.Console.Outcome
import Tabular.Proofs.Console.Reads
import Tabular.Proofs.Decimal.Whole
import Tabular.Proofs.Delimited.Bytes
import Tabular.Proofs.Delimited.File
import Tabular.Proofs.Delimited.Roundtrip
import Tabular.Proofs.Digits
import Tabular.Proofs.Distinct
import Tabular.Proofs.Formula.Columns
import Tabular.Proofs.Formula.Grammar
import Tabular.Proofs.Formula.Indexed
import Tabular.Proofs.Formula.Longest
import Tabular.Proofs.Formula.Matching
import Tabular.Proofs.Formula.Missing
import Tabular.Proofs.Formula.NewColumn
import Tabular.Proofs.Formula.Reading
import Tabular.Proofs.Formula.Recognition
import Tabular.Proofs.Formula.Safety
import Tabular.Proofs.Formula.Sliced
import Tabular.Proofs.Formula.Tiling
import Tabular.Proofs.Header
import Tabular.Proofs.Header.Names
import Tabular.Proofs.Intake
import Tabular.Proofs.Json.Front
import Tabular.Proofs.Json.Intact
import Tabular.Proofs.Json.Stable
import Tabular.Proofs.Layout
import Tabular.Proofs.Merge.Alike
import Tabular.Proofs.Merge.Index
import Tabular.Proofs.Merge.Join
import Tabular.Proofs.Merge.Progress
import Tabular.Proofs.Merge.Repeat
import Tabular.Proofs.Order
import Tabular.Proofs.Profile
import Tabular.Proofs.Refusal
import Tabular.Proofs.Related
import Tabular.Proofs.Reply
import Tabular.Proofs.Row
import Tabular.Proofs.Service.Paths
import Tabular.Proofs.Service.Routed
import Tabular.Proofs.Service.Served
import Tabular.Proofs.Sheet
import Tabular.Proofs.Sheetwise
import Tabular.Proofs.Split
import Tabular.Proofs.Words
import Tabular.Proofs.Workbench.Alike
import Tabular.Proofs.Workbench.Cells
import Tabular.Proofs.Workbench.Commute
import Tabular.Proofs.Workbench.Confined
import Tabular.Proofs.Workbench.Frame
import Tabular.Proofs.Workbench.Fresh
import Tabular.Proofs.Workbench.Listing
import Tabular.Proofs.Workbench.Merge
import Tabular.Proofs.Workbench.Operation
import Tabular.Proofs.Workbench.Reach
import Tabular.Proofs.Workbench.Restore
import Tabular.Proofs.Workbench.Sheets
import Tabular.Proofs.Workbench.Sheetwise
import Tabular.Proofs.Workbench.Sound
import Tabular.Proofs.Workbench.WellFormed
import Tabular.Reply
import Tabular.Service.Request
import Tabular.Service.Routes
import Tabular.Settings
import Tabular.Sheet
import Tabular.Text.Blank
import Tabular.Text.Case
import Tabular.Text.Join
import Tabular.Text.Letter
import Tabular.Text.Pad
import Tabular.Text.Split
import Tabular.Text.Utf8
import Tabular.Workbench
import Tabular.Workbench.Run
