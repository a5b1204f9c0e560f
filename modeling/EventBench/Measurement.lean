import EventBench.Fault

namespace EventBench

/-- Throughput numbers of one run. -/
structure Measurement where
  size : Double
  events : Int
  perIteration : Double
  throughput : Double
  deriving DecidableEq, Repr

namespace Measurement

/-- Builds a measurement, or tells what is wrong with each field in the order of declaration. -/
def ofFields (fields : Fields) : Except (List Field.Rejection) Measurement :=
  let size := fields.read "size_mb" (.error .missing) Field.Value.toMagnitude
  let events := fields.read "event_count" (.error .missing) Field.Value.toOffset
  let perIteration := fields.read "per_iter_seconds" (.error .missing) Field.Value.toMagnitude
  let throughput := fields.read "throughput_mb_s" (.error .missing) Field.Value.toMagnitude
  match size, events, perIteration, throughput with
  | .ok size, .ok events, .ok perIteration, .ok throughput =>
    .ok ⟨size, events, perIteration, throughput⟩
  | _, _, _, _ =>
    .error (Fields.refusal size ++ Fields.refusal events ++ Fields.refusal perIteration
      ++ Fields.refusal throughput)

def toFields (m : Measurement) : Fields :=
  [("size_mb", .double m.size), ("event_count", .integer m.events),
    ("per_iter_seconds", .double m.perIteration), ("throughput_mb_s", .double m.throughput)]

def mebibyte : Nat := 1024 * 1024

def sizeOf (bytes : Int) : Except Fault Double :=
  let size := Double.ofQuotient (decide (bytes < 0)) bytes.natAbs mebibyte
  if size.isFinite then .ok size else .error .quotientTooLarge

def share (total : Double) (iterations : Int) : Except Fault Double :=
  let n := Double.ofInt iterations
  if n.isFinite then .ok (total.div n) else .error .integerTooLarge

/-- The throughput; without time it is zero. -/
def rate (size perIteration : Double) : Double :=
  if Double.zero.lt perIteration then size.div perIteration else Double.zero

/-- The measurement of a run from its totals. -/
def ofRun (bytes events : Int) (total : Double) (iterations : Int) : Except Fault Measurement := do
  if iterations < 1 then throw (.tooFewIterations iterations)
  let size ← sizeOf bytes
  let perIteration ← share total iterations
  match ofFields (toFields ⟨size, events, perIteration, rate size perIteration⟩) with
  | .ok m => return m
  | .error rejections => throw (.invalid rejections)

def render (m : Measurement) : List Char :=
  m.size.fixed 2 ++ " MB, ".toList ++ Text.Numeral.ofInt m.events ++ " events, ".toList
    ++ m.perIteration.fixed 3 ++ "s/iter, ".toList ++ m.throughput.fixed 1 ++ " MB/s".toList

def line (m : Measurement) : String :=
  String.ofList m.render

end Measurement

end EventBench
