import EventBench.Statistics
import EventBench.Tally

namespace EventBench.Benchmark

/-- How many passes a benchmark times, and how many go before. A negative number of passes before
is none. -/
structure Plan where
  iterations : Int := 1000
  warmup : Int := 100
  deriving DecidableEq, Repr

def Plan.fault? (p : Plan) : Option Fault :=
  if p.iterations < 1 then some (.tooFewIterations p.iterations) else none

/-- The statistics of elapsed milliseconds. -/
structure Timing where
  total : Double
  mean : Double
  median : Double
  least : Double
  greatest : Double
  p95 : Double
  p99 : Double
  deviation : Double
  perSecond : Double
  deriving DecidableEq, Repr

/-- The passes of one second; without time there are none. -/
def passesPerSecond (n : Nat) (total : Double) : Double :=
  if Double.zero.lt total then ((Double.ofInt n).div total).mul (Double.ofInt 1000) else Double.zero

def Timing.ofSample (xs : List Double) : Except Fault Timing :=
  match Statistics.deviation xs with
  | .error .notFinite => .error .noDeviation
  | .error .tooLarge => .error .quotientTooLarge
  | .ok deviation =>
    let total := Statistics.total xs
    .ok {
      total := total
      mean := Statistics.mean xs
      median := Statistics.median xs
      least := Statistics.least xs
      greatest := Statistics.greatest xs
      p95 := Statistics.percentile 95 xs
      p99 := Statistics.percentile 99 xs
      deviation := deviation
      perSecond := passesPerSecond xs.length total }

structure Result where
  name : String
  label : String
  inputSize : Nat
  iterations : Int
  counts : List Nat
  timing : Timing
  deriving DecidableEq, Repr

namespace Result

def eventsPerPass (r : Result) : Nat :=
  r.counts.getLast?.getD 0

/-- Whether all timed passes had the same number of events. -/
def isSteady (r : Result) : Bool :=
  match r.counts with
  | [] => true
  | n :: ns => ns.all (· == n)

def record (r : Result) : Log.Record where
  level := .debug
  logger := "descent_harness.benchmark.runner"
  message := String.ofList (r.name.toList ++ '/' :: r.label.toList ++ ": ".toList
    ++ Text.Numeral.ofInt r.iterations ++ " iterations, mean ".toList ++ r.timing.mean.fixed 4
    ++ " ms".toList)

end Result

def defaultInput : Bytes := Text.Utf8.encode "hello world".toList

def defaultName : String := "parse_minimal"

/-- The elapsed milliseconds of `n` passes, each of which takes two readings of the clock. -/
def elapsed (clock : Clock) (n : Nat) : List Double :=
  (List.range n).map fun i =>
    ((clock (2 * i + 1)).sub (clock (2 * i))).mul (Double.ofInt 1000)

/-- Runs a benchmark; `k` passes of the class were started before. -/
def run (plan : Plan) (parser : ParserClass) (data : Bytes) (name : String) (clock : Clock) (k : Nat) :
    Timed Result :=
  match plan.fault? with
  | some f => { result := .error f }
  | none =>
    let warm := Tally.ofPasses parser data k plan.warmup.toNat
    match warm.failure with
    | some f => { result := .error f, started := warm.started }
    | none =>
      let timed := Tally.ofPasses parser data (k + warm.started) plan.iterations.toNat
      let started := warm.started + timed.started
      match timed.failure with
      | some f =>
        { result := .error f, started := started, readings := 2 * timed.counts.length + 1 }
      | none =>
        let readings := 2 * timed.counts.length
        match Timing.ofSample (elapsed clock timed.counts.length) with
        | .error f => { result := .error f, started := started, readings := readings }
        | .ok timing =>
          let result : Result :=
            ⟨name, parser.label, data.length, plan.iterations, timed.counts, timing⟩
          { result := .ok result, started := started, readings := readings, records := [result.record] }

/-- Results by label, in the order in which the labels came. -/
abbrev Results := List (String × Result)

/-- Puts a result under a label; a label that is there keeps its place. -/
def Results.put {α : Type} (label : String) (a : α) : List (String × α) → List (String × α)
  | [] => [(label, a)]
  | (l, b) :: rest => if l = label then (l, a) :: rest else (l, b) :: put label a rest

/-- The passes that each of several classes has started. -/
abbrev Started := Nat → Nat

def Started.add (s : Started) (c n : Nat) : Started := fun d =>
  if d = c then s d + n else s d

/-- What a comparison leaves: its results or the fault that ended it, the runs it began, and the log
records. -/
structure Comparison where
  result : Except Fault Results
  runs : Nat
  records : List Log.Record

/-- Runs the rest of a comparison; a class that comes again goes on where it stopped. -/
def compareFrom (plan : Plan) (classes : Nat → ParserClass) (data : Bytes) (clock : Clock)
    (started : Started) (results : Results) : List Nat → Comparison
  | [] => ⟨.ok results, 0, []⟩
  | c :: rest =>
    let one := run plan (classes c) data defaultName clock (started c)
    match one.result with
    | .error f => ⟨.error f, 1, one.records⟩
    | .ok r =>
      let more := compareFrom plan classes data (clock.after one.readings)
        (started.add c one.started) (Results.put r.label r results) rest
      ⟨more.result, more.runs + 1, one.records ++ more.records⟩

/-- Runs a benchmark for each class of a list, in its order, and keeps the last result of every
label. The same number stands for the same class. -/
def compare (plan : Plan) (classes : Nat → ParserClass) (data : Bytes) (clock : Clock)
    (picks : List Nat) : Comparison :=
  match plan.fault? with
  | some f => ⟨.error f, 0, []⟩
  | none => compareFrom plan classes data clock (fun _ => 0) [] picks

end EventBench.Benchmark
