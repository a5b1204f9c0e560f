import EventBench.Benchmark.Report
import EventBench.CommandLine.Reading
import EventBench.Config
import EventBench.Console
import EventBench.Target.Catalog

namespace EventBench.MicroBenchmark

def switches : List (CommandLine.Switch Setting) :=
  [.help, ⟨["--iterations", "-i"], .integer .iterations⟩, ⟨["--warmup", "-w"], .integer .warmup⟩,
    ⟨["--parser", "-p"], .text .parser⟩, ⟨["--input"], .text .input⟩]

def usage : String :=
  "usage: benchmark.py [-h] [--iterations ITERATIONS] [--warmup WARMUP]\n"
    ++ "                    [--parser PARSER] [--input INPUT]\n"

def program : CommandLine.Program where
  name := "benchmark.py"
  usage := usage
  help := usage ++ "\nMicro-benchmark the generated parser\n\noptions:\n"
    ++ "  -h, --help            show this help message and exit\n"
    ++ "  --iterations ITERATIONS, -i ITERATIONS\n"
    ++ "                        Number of timed iterations (default: 1000)\n"
    ++ "  --warmup WARMUP, -w WARMUP\n"
    ++ "                        Number of untimed warmup iterations (default: 100)\n"
    ++ "  --parser PARSER, -p PARSER\n"
    ++ "                        Parser target as module:Class (default:\n"
    ++ "                        descent_harness.generated:Parser)\n"
    ++ "  --input INPUT         Input text to parse (default: 'hello world')\n"

/-- What the program is asked to do; a setting may have been left blank. -/
structure Request where
  iterations : Option Int := some 1000
  warmup : Option Int := some 100
  parser : Option String := some Config.defaultParser
  input : Option String := some "hello world"
  deriving DecidableEq, Repr

/-- Sets one setting; of several values for it the last one counts. -/
def Request.set (r : Request) : CommandLine.Given Setting → Request
  | .integer .iterations n => { r with iterations := some n }
  | .integer .warmup n => { r with warmup := some n }
  | .text .parser s => { r with parser := some s }
  | .text .input s => { r with input := some s }
  | .blank .iterations => { r with iterations := none }
  | .blank .warmup => { r with warmup := none }
  | .blank .parser => { r with parser := none }
  | .blank .input => { r with input := none }
  | _ => r

def request (arguments : List String) : Except CommandLine.Stop Request :=
  match CommandLine.read switches arguments with
  | .error stop => .error stop
  | .ok given => .ok (given.foldl Request.set {})

/-- How a run ends: after its report, by leaving with a status, or with a fault. -/
inductive Ending
  | finished
  | exited (status : Nat)
  | failed (f : Fault)
  deriving DecidableEq, Repr

/-- What a run leaves: its ending, the bytes and the text that it wrote, the result it reports, and the
passes it started. -/
structure Outcome where
  ending : Ending
  output : Bytes := []
  errors : String := ""
  result : Option Benchmark.Result := none
  started : Nat := 0
  deriving DecidableEq, Repr

/-- A value that was asked for, or the fault of leaving it blank. -/
def required {α : Type} (setting : Setting) : Option α → Except Fault α
  | some a => .ok a
  | none => .error (.blankSetting setting)

/-- What is checked before anything is timed: the parser and the number of passes. -/
def prepare (catalog : Catalog) (r : Request) : Except Fault (ParserClass × Int) := do
  let target ← required .parser r.parser
  let loaded ← catalog.load target
  let iterations ← required .iterations r.iterations
  if iterations < 1 then throw (.tooFewIterations iterations)
  return (loaded.parser, iterations)

/-- The values that are looked at when the run begins: the text to parse, and the passes before. -/
def provide (r : Request) : Except Fault (Bytes × Int) := do
  let text ← required .input r.input
  let warmup ← required .warmup r.warmup
  return (Text.Utf8.encode text.toList, warmup)

/-- The end of a run without preparation: bad targets and bad values are told. -/
def refuse (f : Fault) : Outcome :=
  if f.kind = .load ∨ f.isValue then
    { ending := .exited 1, errors := "Error: " ++ f.message ++ "\n" }
  else { ending := .failed f }

def closing : List String := ["", "Benchmark complete!"]

/-- Reports a result; a line that the console cannot show ends the report. -/
def report (r : Benchmark.Result) : Console × Option Fault :=
  ({} : Console).writeLines (Benchmark.Report.lines r ++ closing)

def work (catalog : Catalog) (clock : Clock) (r : Request) : Outcome :=
  match prepare catalog r with
  | .error f => refuse f
  | .ok (parser, iterations) =>
    match provide r with
    | .error f => { ending := .failed f }
    | .ok (data, warmup) =>
      let timed := Benchmark.run ⟨iterations, warmup⟩ parser data Benchmark.defaultName clock 0
      match timed.result with
      | .error f => { ending := .failed f, started := timed.started }
      | .ok result =>
        let (console, failure) := report result
        { ending := match failure with | some f => .failed f | none => .finished
          output := console.bytes
          result := some result
          started := timed.started }

def run (catalog : Catalog) (clock : Clock) (arguments : List String) : Outcome :=
  match request arguments with
  | .error stop =>
    { ending := .exited stop.status
      output := Text.Utf8.encode (program.output stop).toList
      errors := program.errors stop }
  | .ok r => work catalog clock r

end EventBench.MicroBenchmark
