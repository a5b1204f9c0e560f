import EventBench.Text.Numeral
import EventBench.Text.Blank
import EventBench.Text.Digit
import EventBench.Text.Utf8
import EventBench.Text.LineBreak
import EventBench.Text.Printable
import EventBench.Text.Quoted
import EventBench.Text.Upper
import EventBench.Text.Integer
import EventBench.Text.LooseInteger
import EventBench.Double.Basic
import EventBench.Double.Decimal
import EventBench.Double.Shortest
import EventBench.Field.Value
import EventBench.Field.Basic
import EventBench.Event.Literal
import EventBench.Event.Basic
import EventBench.Event.Entry
import EventBench.Fault
import EventBench.Pass
import EventBench.Parser.Lines
import EventBench.Parser.Elements
import EventBench.Parser.Script
import EventBench.Session
import EventBench.Log
import EventBench.Target.Basic
import EventBench.Target.Catalog
import EventBench.Config
import EventBench.Measurement
import EventBench.Tally
import EventBench.Statistics
import EventBench.Benchmark.Basic
import EventBench.Benchmark.Table
import EventBench.Benchmark.Report
import EventBench.Diff.Edit
import EventBench.Diff.Alignment
import EventBench.Diff.Hunk
import EventBench.Diff.Unified
import EventBench.Golden
import EventBench.Contract
import EventBench.CommandLine.Basic
import EventBench.CommandLine.Token
import EventBench.CommandLine.Reading
import EventBench.Console
import EventBench.Stream
import EventBench.Input
import EventBench.RunParser
import EventBench.MicroBenchmark
import EventBench.Main
import EventBench.Proofs.Event.Literal
import EventBench.Proofs.Text.LineBreak
import EventBench.Proofs.Event.Valid
import EventBench.Proofs.Event.Line
import EventBench.Proofs.Stream
import EventBench.Proofs.Event.Ordered
import EventBench.Proofs.Parser.Lines
import EventBench.Proofs.Parser.Elements
import EventBench.Proofs.Contract
import EventBench.Proofs.Diff.Hunk
import EventBench.Proofs.Parser.Text
import EventBench.Proofs.Diff.Patch
import EventBench.Proofs.Diff.Search
import EventBench.Proofs.Diff.Alignment
import EventBench.Proofs.Golden
import EventBench.Proofs.Benchmark
import EventBench.Proofs.Pass
import EventBench.Proofs.Limit
import EventBench.Proofs.RunParser
import EventBench.Proofs.Parser.Loop
import EventBench.Proofs.Session
import EventBench.Proofs.Event.Assignment
import EventBench.Proofs.Event.Refusal
import EventBench.Proofs.Target
import EventBench.Proofs.Log
import EventBench.Proofs.RunParser.Course
import EventBench.Proofs.RunParser.Level
import EventBench.Proofs.RunParser.Process
import EventBench.Proofs.RunParser.Ending
import EventBench.Proofs.Text.Trim
import EventBench.Proofs.Text.Integer
import EventBench.Proofs.Config
import EventBench.Proofs.Contract.Violations
import EventBench.Proofs.Double
import EventBench.Proofs.Text.Pattern
import EventBench.Proofs.Measurement.Schema
import EventBench.Proofs.RunParser.Summary
import EventBench.Proofs.Event.Grammar
import EventBench.Proofs.Parser.Coverage
import EventBench.Proofs.Statistics
import EventBench.Proofs.Benchmark.Percentile
import EventBench.Proofs.CommandLine
import EventBench.Proofs.RunParser.Mode
import EventBench.Proofs.Console
import EventBench.Proofs.Benchmark.Comparison
import EventBench.Proofs.Benchmark.Report
import EventBench.Proofs.MicroBenchmark
