import EventBench.CommandLine.Reading
import EventBench.Config
import EventBench.Input
import EventBench.Stream
import EventBench.Tally
import EventBench.Target.Catalog

namespace EventBench.RunParser

def switches : List (CommandLine.Switch Unit) :=
  [.help, ⟨["--bench"], .flag ()⟩]

def usage : String := "usage: run-parser [-h] [--bench]\n"

def program : CommandLine.Program where
  name := Log.program
  usage := usage
  help := usage ++ "\nRun a generated parser over stdin\n\noptions:\n"
    ++ "  -h, --help  show this help message and exit\n"
    ++ "  --bench     Time repeated parses and report throughput on stderr\n"

/-- What the program is asked to do. -/
inductive Mode
  | stream
  | bench
  deriving DecidableEq, Repr

def mode (arguments : List String) : Except CommandLine.Stop Mode :=
  match CommandLine.read switches arguments with
  | .error stop => .error stop
  | .ok given => .ok (if given.isEmpty then .stream else .bench)

/-- What a run finds around it. -/
structure Surroundings where
  catalog : Catalog
  environment : Environment := fun _ => none
  input : Input := .ok []
  clock : Clock := fun _ => Double.zero

/-- How a run ends: with a status that it hands back, by leaving the process with a status, or with a
fault. -/
inductive Ending
  | returned (status : Nat)
  | exited (status : Nat)
  | failed (f : Fault)
  deriving DecidableEq, Repr

/-- What a run leaves behind its arguments: its ending, the output stream, the text on the error
stream, the passes it started, and whether it read its input. -/
structure Work (σ : Type) where
  ending : Ending
  output : σ
  errors : String := ""
  started : Nat := 0
  hasRead : Bool := false

def inputRecord (parser : ParserClass) (data : Bytes) : Log.Record where
  level := .debug
  logger := "descent_harness.cli"
  message := "Read " ++ String.ofList (Text.Numeral.decimal data.length) ++ " bytes, parser " ++ parser.name

def diagnostic (message : String) : String :=
  Log.program ++ ": " ++ message ++ "\n"

/-- How a run ends that finds no parser or no input: the harness tells its own faults. -/
def refuse (f : Fault) (log : String) : Ending × String :=
  if f.isHarness then (.returned 1, log ++ diagnostic f.message) else (.failed f, log)

def process {σ : Type} (sink : Sink σ) (out : σ) (mode : Mode) (config : Config) (clock : Clock)
    (parser : ParserClass) (data : Bytes) (written : List Log.Record → String)
    (records : List Log.Record) : Work σ :=
  match mode with
  | .stream =>
    let pass := parser.pass 0 data
    let ((out, _), failure) := Stream.run sink.write (sink.prepare out) pass (some Text.Integer.digitLimit)
    { ending := match failure with | some f => .failed f | none => .returned 0
      output := out
      errors := written records
      started := 1
      hasRead := true }
  | .bench =>
    let timed := Throughput.measure parser data config.iterations clock 0
    let log := written (records ++ timed.records)
    match timed.result with
    | .ok m =>
      { ending := .returned 0
        output := out
        errors := log ++ m.line ++ "\n"
        started := timed.started
        hasRead := true }
    | .error f =>
      { ending := .failed f, output := out, errors := log, started := timed.started, hasRead := true }

def configured {σ : Type} (around : Surroundings) (sink : Sink σ) (out : σ) (mode : Mode) (config : Config) :
    Work σ :=
  let setup : Log.Setup := { level := config.level, stream := some "stderr" }
  match around.catalog.load config.parser with
  | .error f =>
    let (ending, errors) := refuse f ""
    { ending := ending, output := out, errors := errors }
  | .ok loaded =>
    match around.input.read with
    | .error f =>
      let (ending, errors) := refuse f (setup.written [loaded.record])
      { ending := ending, output := out, errors := errors, hasRead := true }
    | .ok data =>
      process sink out mode config around.clock loaded.parser data setup.written
        [loaded.record, inputRecord loaded.parser data]

/-- Runs the program in a mode, with a given configuration or else that of the environment. -/
def work {σ : Type} (around : Surroundings) (config : Option Config) (sink : Sink σ) (out : σ) (mode : Mode) :
    Work σ :=
  match config with
  | some config => configured around sink out mode config
  | none =>
    match Config.ofEnvironment around.environment with
    | .ok config => configured around sink out mode config
    | .error problem => { ending := .returned 1, output := out, errors := diagnostic problem.message }

/-- What a run on given streams leaves: besides their texts those on the streams of the process, to
which the arguments alone can lead. -/
structure Outcome where
  ending : Ending
  output : String := ""
  errors : String := ""
  processOutput : String := ""
  processErrors : String := ""
  started : Nat := 0
  hasRead : Bool := false
  deriving DecidableEq, Repr

def run (around : Surroundings) (config : Option Config) (arguments : List String) : Outcome :=
  match mode arguments with
  | .error stop =>
    { ending := .exited stop.status
      processOutput := program.output stop
      processErrors := program.errors stop }
  | .ok mode =>
    let w := work around config Sink.text [] mode
    { ending := w.ending
      output := TextStream.text w.output
      errors := w.errors
      started := w.started
      hasRead := w.hasRead }

/-- What a run as a process of its own leaves: its output is bytes. -/
structure ProcessOutcome where
  ending : Ending
  output : Bytes
  errors : String := ""
  started : Nat := 0
  hasRead : Bool := false
  deriving DecidableEq, Repr

/-- A process leaves with the status that its run hands back. -/
def Ending.leave : Ending → Ending
  | returned status => exited status
  | ending => ending

def runProcess (around : Surroundings) (arguments : List String) : ProcessOutcome :=
  let console : Console := {}
  match mode arguments with
  | .error stop =>
    match console.write (program.output stop) with
    | .ok console =>
      { ending := .exited stop.status, output := console.bytes, errors := program.errors stop }
    | .error f => { ending := .failed f, output := [] }
  | .ok mode =>
    let w := work around none Sink.console console mode
    { ending := w.ending.leave
      output := w.output.bytes
      errors := w.errors
      started := w.started
      hasRead := w.hasRead }

end EventBench.RunParser
