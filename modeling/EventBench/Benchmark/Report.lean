import EventBench.Benchmark.Basic

namespace EventBench.Benchmark.Report

def micros (x : Double) : String :=
  String.ofList ((x.mul (Double.ofInt 1000)).fixed 3 ++ " us".toList)

def rule : String :=
  String.ofList (List.replicate 60 '=')

def warning : List String :=
  ["", "  WARNING: event count varied between iterations"]

def lines (r : Result) : List String :=
  ["", rule, "Benchmark: " ++ r.name, rule,
    "  Parser:            " ++ r.label,
    "  Input size:        " ++ String.ofList (Text.Numeral.decimal r.inputSize) ++ " bytes",
    "  Events per parse:  " ++ String.ofList (Text.Numeral.decimal r.eventsPerPass),
    "  Iterations:        " ++ String.ofList (Text.Numeral.ofInt r.iterations),
    "  Total time:        " ++ String.ofList (r.timing.total.fixed 2) ++ " ms",
    "  Parses/second:     " ++ String.ofList r.timing.perSecond.rounded,
    "",
    "  Latency Statistics:",
    "    Mean:            " ++ micros r.timing.mean,
    "    Median (p50):    " ++ micros r.timing.median,
    "    Min:             " ++ micros r.timing.least,
    "    Max:             " ++ micros r.timing.greatest,
    "    p95:             " ++ micros r.timing.p95,
    "    p99:             " ++ micros r.timing.p99,
    "    Std dev:         " ++ micros r.timing.deviation]
    ++ (if r.isSteady then [] else warning)

end EventBench.Benchmark.Report
