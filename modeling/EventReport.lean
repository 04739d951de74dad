import EventReport.Calendar.Date
import EventReport.Calendar.DayRange
import EventReport.Calendar.Reading
import EventReport.Calendar.Written
import EventReport.Catalog
import EventReport.Cli.Arguments
import EventReport.Cli.Directory
import EventReport.Cli.Host
import EventReport.Cli.Option
import EventReport.Cli.Session
import EventReport.Error
import EventReport.Filter.Basic
import EventReport.Filter.Predicate
import EventReport.Json.Error
import EventReport.Json.Node
import EventReport.Json.Number
import EventReport.Json.Reader
import EventReport.Json.Token
import EventReport.Json.Value
import EventReport.Main
import EventReport.Number.Binary64
import EventReport.Number.Literal
import EventReport.Number.Shortest
import EventReport.Number.Word
import EventReport.Report
import EventReport.Request
import EventReport.Settings
import EventReport.Sql.Column
import EventReport.Sql.Quoting
import EventReport.Sql.Select
import EventReport.Text.Blank
import EventReport.Text.CaseTable
import EventReport.Text.Join
import EventReport.Text.Lowercase
import EventReport.Text.PrintTable
import EventReport.Text.Quoted
import EventReport.Text.Ranges
import EventReport.Toml.Scalar
import EventReport.Toml.Scan
import EventReport.Toml.Statement
import EventReport.Toml.Table
import EventReport.Toml.Text
import EventReport.Wire.FilterTree
import EventReport.Wire.Names
import EventReport.Wire.Record
import EventReport.Wire.Request
import EventReport.Proofs.Outcome
import EventReport.Proofs.Sql.Names
import EventReport.Proofs.Sql.Spelling
import EventReport.Proofs.Sql.Literal
import EventReport.Proofs.Filter.Compiling
import EventReport.Proofs.Filter.Faults
import EventReport.Proofs.Filter.Depth
import EventReport.Proofs.Filter.NormalForm
import EventReport.Proofs.Filter.Tokens
import EventReport.Proofs.Filter.Parameters
import EventReport.Proofs.Sql.Formula
import EventReport.Proofs.Filter.Meaning
import EventReport.Proofs.Report.Tokens
import EventReport.Proofs.Calendar.Suffix
import EventReport.Proofs.Sql.Containment
import EventReport.Proofs.Report.Containment
import EventReport.Proofs.Report.Independence
import EventReport.Proofs.Report.Columns
import EventReport.Proofs.Report.TwoStage
import EventReport.Proofs.Report.Stages
import EventReport.Proofs.Report.Names
import EventReport.Proofs.Report.Validity
import EventReport.Proofs.Report.Agreement
import EventReport.Proofs.Wire.WellFormed
import EventReport.Proofs.Report.Clauses
import EventReport.Proofs.Json.Spelling
import EventReport.Proofs.Json.Datum
import EventReport.Proofs.Json.Written
import EventReport.Proofs.Wire.Document
import EventReport.Proofs.Wire.Range
import EventReport.Proofs.Wire.Rearranged
import EventReport.Proofs.Cli.Compile
import EventReport.Proofs.Calendar.Days
import EventReport.Proofs.Filter.Like
import EventReport.Proofs.Report.LineBreaks
import EventReport.Proofs.Sql.Number
import EventReport.Proofs.Number.Decimal
import EventReport.Proofs.Number.Rounding
import EventReport.Proofs.Calendar.Parsing
import EventReport.Proofs.Calendar.Counting
import EventReport.Proofs.Calendar.Timestamp
import EventReport.Proofs.Wire.Recode
import EventReport.Proofs.Sql.Steps
import EventReport.Proofs.Report.Descriptions
import EventReport.Proofs.Report.Aliases
