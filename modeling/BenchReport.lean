import BenchReport.CommandLine.Arguments
import BenchReport.CommandLine.Footprint
import BenchReport.CommandLine.Outcome
import BenchReport.Event
import BenchReport.Experiment
import BenchReport.Export
import BenchReport.File.Path
import BenchReport.File.Tree
import BenchReport.FileName
import BenchReport.Json.Decoding
import BenchReport.Json.Printer
import BenchReport.Json.Reader
import BenchReport.Json.Tree
import BenchReport.Json.Value
import BenchReport.Main
import BenchReport.Measurement
import BenchReport.Measurement.Json
import BenchReport.NameMap
import BenchReport.Number.Arithmetic
import BenchReport.Number.Binary64
import BenchReport.Number.FixedPoint
import BenchReport.Number.Numeral
import BenchReport.Number.Rounding
import BenchReport.Number.Shortest
import BenchReport.Page.Datum
import BenchReport.Page.Helper
import BenchReport.Page.Layout
import BenchReport.Page.Path
import BenchReport.Page.Render
import BenchReport.Page.Scope
import BenchReport.Page.Syntax
import BenchReport.Page.Tag
import BenchReport.Query.Catalog
import BenchReport.Query.Request
import BenchReport.Query.Resource
import BenchReport.Query.Template
import BenchReport.Query.Vocabulary
import BenchReport.Report.Anchor
import BenchReport.Report.Generate
import BenchReport.Report.Group
import BenchReport.Report.Readme
import BenchReport.Report.Run
import BenchReport.Report.Stats
import BenchReport.Report.View
import BenchReport.Reporter.Basic
import BenchReport.Reporter.Csv
import BenchReport.Reporter.Experiment
import BenchReport.Reporter.Fanout
import BenchReport.Reporter.Settings
import BenchReport.Series
import BenchReport.Series.Json
import BenchReport.Text.Alphanumeric
import BenchReport.Text.Blank
import BenchReport.Text.Boundary
import BenchReport.Text.Printable
import BenchReport.Text.Quoted
import BenchReport.Window
import BenchReport.Window.Json
import BenchReport.Yaml.Cursor
import BenchReport.Yaml.Node
import BenchReport.Yaml.Scalar
import BenchReport.Yaml.Token
import BenchReport.Yaml.Value
import BenchReport.Proofs.Number.Order
import BenchReport.Proofs.Number.Rounding
import BenchReport.Proofs.Number.Shortest
import BenchReport.Proofs.Number.FixedPoint
import BenchReport.Proofs.Json.Number
import BenchReport.Proofs.Json.String
import BenchReport.Proofs.Json.Grammar
import BenchReport.Proofs.Json.Soundness
import BenchReport.Proofs.Json.Lookup
import BenchReport.Proofs.Json.Record
import BenchReport.Proofs.Json.RoundTrip
import BenchReport.Proofs.Experiment.Codec
import BenchReport.Proofs.Experiment.Foreign
import BenchReport.Proofs.File.Path
import BenchReport.Proofs.File.Components
import BenchReport.Proofs.File.CommonParent
import BenchReport.Proofs.File.Tree
import BenchReport.Proofs.File.Rewriting
import BenchReport.Proofs.File.Destination
import BenchReport.Proofs.Text.ByteOrder
import BenchReport.Proofs.Text.ByteCut
import BenchReport.Proofs.FileName
import BenchReport.Proofs.FileName.Normal
import BenchReport.Proofs.FileName.Spaced
import BenchReport.Proofs.NameMap
import BenchReport.Proofs.Reporter.Collection
import BenchReport.Proofs.Reporter.CsvColumn
import BenchReport.Proofs.Reporter.CsvDirectory
import BenchReport.Proofs.Reporter.CsvPass
import BenchReport.Proofs.Reporter.Nesting
import BenchReport.Proofs.Reporter.SuiteRun
import BenchReport.Proofs.Reporter.Separation
import BenchReport.Proofs.Reporter.CsvExport
import BenchReport.Proofs.Reporter.CsvMedium
import BenchReport.Proofs.Reporter.CsvCounts
import BenchReport.Proofs.Export.Run
import BenchReport.Proofs.Export.Replay
import BenchReport.Proofs.Export.Loss
import BenchReport.Proofs.Page.Tag
import BenchReport.Proofs.Page.Spelling
import BenchReport.Proofs.Page.Showing
import BenchReport.Proofs.Report.Stage
import BenchReport.Proofs.Report.Generate
import BenchReport.Proofs.Report.Grouping
import BenchReport.Proofs.Report.Extremes
import BenchReport.Proofs.Report.PrintedExtremes
import BenchReport.Proofs.Report.Home
import BenchReport.Proofs.Report.Layout
import BenchReport.Proofs.Report.Contents
import BenchReport.Proofs.Window.Grammar
import BenchReport.Proofs.Window.Reading
import BenchReport.Proofs.Window.RoundTrip
import BenchReport.Proofs.Window.NormalForm
import BenchReport.Proofs.Query.Decomposition
import BenchReport.Proofs.Query.Verbatim
import BenchReport.Proofs.Query.Catalog
import BenchReport.Proofs.Series.Recording
import BenchReport.Proofs.Series.Samples
import BenchReport.Proofs.Reporter.CatalogExport
import BenchReport.Proofs.Series.Codec
import BenchReport.Proofs.CommandLine.Queries
import BenchReport.Proofs.Reporter.Settings
import BenchReport.Proofs.Export.Settings
import BenchReport.Proofs.Export.Failure
