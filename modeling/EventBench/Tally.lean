import EventBench.Log
import EventBench.Measurement
import EventBench.Pass

namespace EventBench

/-- A clock: its readings in order. -/
abbrev Clock := Nat → Double

namespace Clock

/-- The clock that gives these readings and then the last one for ever; without any it stands at
zero. -/
def ofReadings (readings : Array Double) : Clock := fun i =>
  match readings[i]? with
  | some x => x
  | none => readings.back?.getD Double.zero

/-- The clock after some of its readings were taken. -/
def after (clock : Clock) (n : Nat) : Clock := fun i => clock (n + i)

end Clock

/-- The event counts of the passes that were completed, and the fault of the one after them. -/
structure Tally where
  counts : List Nat
  failure : Option Fault
  deriving DecidableEq, Repr

namespace Tally

/-- Counts `n` passes in a row, of which `k` is the first, up to the first that fails. -/
def ofPasses (parser : ParserClass) (data : Bytes) (k : Nat) : Nat → Tally
  | 0 => ⟨[], none⟩
  | n + 1 =>
    match (parser.pass k data).count with
    | (events, none) =>
      let rest := ofPasses parser data (k + 1) n
      ⟨events :: rest.counts, rest.failure⟩
    | (_, some f) => ⟨[], some f⟩

/-- The passes that were started: those completed, and the one that failed. -/
def started (t : Tally) : Nat :=
  t.counts.length + t.failure.toList.length

end Tally

/-- What a timed run leaves: its result or the fault that ended it, the passes it started, the clock
readings it took, and its log records. -/
structure Timed (α : Type) where
  result : Except Fault α
  started : Nat := 0
  readings : Nat := 0
  records : List Log.Record := []

namespace Throughput

def record (iterations : Int) (size : Nat) (total : Double) : Log.Record where
  level := .debug
  logger := "descent_harness.benchmark.throughput"
  message := String.ofList ("Timed ".toList ++ Text.Numeral.ofInt iterations ++ " passes of ".toList
    ++ Text.Numeral.decimal size ++ " bytes in ".toList ++ total.fixed 6 ++ ['s'])

/-- Times passes over one input, of which `k` is the first. The events are those of the last pass. -/
def measure (parser : ParserClass) (data : Bytes) (iterations : Int) (clock : Clock) (k : Nat) :
    Timed Measurement :=
  if iterations < 1 then { result := .error (.tooFewIterations iterations) }
  else
    let tally := Tally.ofPasses parser data k iterations.toNat
    match tally.failure with
    | some f => { result := .error f, started := tally.started, readings := 1 }
    | none =>
      let total := (clock 1).sub (clock 0)
      { result := Measurement.ofRun data.length (tally.counts.getLast?.getD 0) total iterations
        started := tally.started
        readings := 2
        records := [record iterations data.length total] }

end Throughput

end EventBench
