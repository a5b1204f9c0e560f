import EventBench.Benchmark.Basic

namespace EventBench.Benchmark.Table

structure Row where
  label : String
  mean : Double
  p95 : Double
  perSecond : Double
  events : Int
  deriving DecidableEq, Repr

def Row.ofResult (label : String) (r : Result) : Row :=
  ⟨label, r.timing.mean, r.timing.p95, r.timing.perSecond, r.eventsPerPass⟩

def cell (width : Nat) (cs : List Char) : List Char :=
  cs ++ List.replicate (width - cs.length) ' '

def columns (label mean p95 perSecond events : List Char) : String :=
  String.ofList (cell 25 label ++ ' ' :: cell 12 mean ++ ' ' :: cell 12 p95 ++ ' ' :: cell 15 perSecond
    ++ ' ' :: cell 10 events)

def Row.line (r : Row) : String :=
  columns r.label.toList (r.mean.fixed 4) (r.p95.fixed 4) r.perSecond.rounded
    (Text.Numeral.ofInt r.events)

def rule (c : Char) : String :=
  String.ofList (List.replicate 80 c)

def lines (rows : List Row) : List String :=
  [rule '=', "BENCHMARK RESULTS", rule '=',
    columns "Parser".toList "Mean (ms)".toList "p95 (ms)".toList "Parses/s".toList "Events".toList,
    rule '-'] ++ rows.map Row.line ++ [rule '=']

/-- The table of rows; rows of one label are one row, at the place of the first and with the values
of the last. -/
def render (rows : List Row) : String :=
  "\n".intercalate (lines ((rows.foldl (fun rs r => Results.put r.label r rs) []).map Prod.snd))

def ofResults (results : Results) : String :=
  render (results.map fun (label, r) => Row.ofResult label r)

end EventBench.Benchmark.Table
