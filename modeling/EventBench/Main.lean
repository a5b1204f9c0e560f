import EventBench.MicroBenchmark
import EventBench.RunParser

namespace EventBench.Main

def now : IO Double := do
  return Double.ofQuotient false (← IO.monoNanosNow) 1000000000

def timed {α : Type} (f : Unit → α) : IO (α × List Double) := do
  let before ← now
  let a ← IO.lazyPure f
  let after ← now
  return (a, [before, after])

/-- Reads a stream to its end, on top of what was read before. -/
partial def readFrom (stream : IO.FS.Stream) (done : ByteArray) : IO ByteArray := do
  let piece ← stream.read 65536
  if piece.isEmpty then return done else readFrom stream (done ++ piece)

def readInput : IO Input := do
  try
    return .ok (← readFrom (← IO.getStdin) ByteArray.empty).toList
  catch e => return .error (.raised .system (toString e))

def readEnvironment : IO Environment := do
  let names := [Config.parserVariable, Config.iterationsVariable, Config.levelVariable]
  let values ← names.mapM fun name => do return (← IO.getEnv name).map fun value => (name, value)
  return fun name => (values.filterMap id).lookup name

/-- The modules that a process can load from. -/
def catalog : Catalog :=
  Catalog.standard (Script.silent.toClass "scripted")

def fail (f : Fault) : IO UInt32 := do
  (← IO.getStderr).putStrLn f.message
  return 1

/-- Runs `run-parser`. A first run without input tells whether the input is wanted, and one with it
is timed; if passes are to be measured, the last run has the readings. -/
def runParser (arguments : List String) : IO UInt32 := do
  let around : RunParser.Surroundings := { catalog := catalog, environment := ← readEnvironment }
  let dry := RunParser.runProcess around arguments
  let outcome ←
    if dry.hasRead then
      let around := { around with input := ← readInput }
      let (_, readings) ← timed fun _ => (RunParser.runProcess around arguments).errors.length
      pure (RunParser.runProcess { around with clock := Clock.ofReadings readings.toArray } arguments)
    else pure dry
  let stdout ← IO.getStdout
  stdout.write ⟨outcome.output.toArray⟩
  stdout.flush
  (← IO.getStderr).putStr outcome.errors
  match outcome.ending with
  | .returned status | .exited status => return UInt32.ofNat status
  | .failed f => fail f

/-- The readings around single passes, of which `k` is the first. -/
def readings (parser : ParserClass) (data : Bytes) (k n : Nat) : IO (List Double) := do
  let pairs ← (List.range n).mapM fun i => timed fun _ => (parser.pass (k + i) data).count.1
  return pairs.flatMap Prod.snd

/-- The clock of a benchmark that was asked for. -/
def benchmarkClock (arguments : List String) : IO Clock := do
  match MicroBenchmark.request arguments with
  | .error _ => return Clock.ofReadings #[]
  | .ok request =>
    match MicroBenchmark.prepare catalog request, MicroBenchmark.provide request with
    | .ok (parser, iterations), .ok (data, warmup) =>
      let _ ← readings parser data 0 warmup.toNat
      return Clock.ofReadings (← readings parser data warmup.toNat iterations.toNat).toArray
    | _, _ => return Clock.ofReadings #[]

def microBenchmark (arguments : List String) : IO UInt32 := do
  let outcome := MicroBenchmark.run catalog (← benchmarkClock arguments) arguments
  let stdout ← IO.getStdout
  stdout.write ⟨outcome.output.toArray⟩
  stdout.flush
  (← IO.getStderr).putStr outcome.errors
  match outcome.ending with
  | .finished => return 0
  | .exited status => return UInt32.ofNat status
  | .failed f => fail f

end EventBench.Main

def main (arguments : List String) : IO UInt32 :=
  EventBench.Main.runParser arguments
