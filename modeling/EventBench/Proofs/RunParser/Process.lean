import EventBench.Proofs.Console
import EventBench.Proofs.RunParser.Course

namespace EventBench

namespace RunParser

/-- A course on the console of the process tells what a course on a stream of text does, and spells its text. -/
structure Course.Spells (c : Course Console) (t : Course TextStream) : Prop where
  ending : c.ending = t.ending
  output : c.output.bytes = Text.Utf8.encode (TextStream.text t.output).toList
  records : c.records = t.records
  told : c.told = t.told
  started : c.started = t.started
  hasRead : c.hasRead = t.hasRead

section

variable (around : Surroundings) (mode : Mode)

/-- Parsing goes in step: in stream mode the console is switched before the first line, in bench mode nothing is
written to it. -/
theorem parsing_spells (iterations : Int) (loaded : Loaded) (data : Bytes) :
    (parsing around Sink.console {} mode iterations loaded data).Spells
      (parsing around Sink.text [] mode iterations loaded data) := by
  cases mode with
  | stream =>
    obtain ⟨hspells, hfailure⟩ := Stream.run_spells (loaded.parser.pass 0 data) (Sink.console.prepare {}) rfl
      (some Text.Integer.digitLimit)
    have hending := congrArg Ending.ofFailure hfailure
    have hbytes := hspells.bytes
    exact ⟨hending, hbytes, rfl, rfl, rfl, rfl⟩
  | bench => exact ⟨rfl, rfl, rfl, rfl, rfl, rfl⟩

theorem course_spells (target : String) (iterations : Int) :
    (course around Sink.console {} mode target iterations).Spells
      (course around Sink.text [] mode target iterations) := by
  unfold course
  cases around.catalog.load target with
  | error f => exact ⟨rfl, rfl, rfl, rfl, rfl, rfl⟩
  | ok loaded =>
    cases around.input.read with
    | error f => exact ⟨rfl, rfl, rfl, rfl, rfl, rfl⟩
    | ok data => exact parsing_spells around mode iterations loaded data

theorem output_course_bench {σ : Type} (sink : Sink σ) (out : σ) (target : String) (iterations : Int) :
    (course around sink out .bench target iterations).output = out := by
  unfold course
  cases around.catalog.load target with
  | error f => rfl
  | ok loaded => cases around.input.read <;> rfl

/-- What a process leaves is what the same run leaves on given streams: its output is spelt, its status handed on. -/
theorem runProcess_eq_run (arguments : List String) (hmode : RunParser.mode arguments = .ok mode) :
    runProcess around arguments =
      { ending := (run around none arguments).ending.leave
        output := Text.Utf8.encode (run around none arguments).output.toList
        errors := (run around none arguments).errors
        started := (run around none arguments).started
        hasRead := (run around none arguments).hasRead } := by
  cases hconfig : effective around none with
  | error problem =>
    rw [effective] at hconfig
    simp only [run, runProcess, hmode, work, hconfig]
    rfl
  | ok config =>
    have hspells := course_spells around mode config.parser config.iterations
    rw [runProcess_eq_course around mode config hconfig arguments hmode,
      run_eq_course around mode none config hconfig arguments hmode]
    simp only [hspells.ending, hspells.output, hspells.records, hspells.told, hspells.started, hspells.hasRead]

theorem output_run_bench (given : Option Config) (arguments : List String)
    (hmode : RunParser.mode arguments = .ok .bench) : (run around given arguments).output = "" := by
  cases hconfig : effective around given with
  | error problem =>
    cases given with
    | some config => cases hconfig
    | none =>
      rw [effective] at hconfig
      simp only [run, hmode, work, hconfig]
      rfl
  | ok config =>
    rw [run_eq_course around .bench given config hconfig arguments hmode]
    simp only [output_course_bench]
    rfl

end

/-- A process does what a run on given streams does, whatever it finds: it leaves with the status that the run hands
back, its output spells the text of the run and is read back as this text, and it tells the same on the error stream.
It fails only with a fault of the run itself, so no text is too much for it, though the console that it begins with
takes none that ASCII cannot spell. In bench mode its output stays empty. -/
theorem process_mirrors_run (around : Surroundings) (arguments : List String) (mode : Mode)
    (hmode : RunParser.mode arguments = .ok mode) :
    let left := run around none arguments
    let process := runProcess around arguments
    (∀ status, left.ending = .returned status → process.ending = .exited status) ∧
    process.output = Text.Utf8.encode left.output.toList ∧
    Text.Utf8.decode process.output = some left.output.toList ∧
    process.errors = left.errors ∧
    process.started = left.started ∧
    process.hasRead = left.hasRead ∧
    (∀ f, process.ending = .failed f ↔ left.ending = .failed f) ∧
    (∀ x ∈ left.output.toList, isAscii x = false → ∃ f, Console.write {} left.output = .error f) ∧
    (mode = .bench → process.output = []) := by
  intro left process
  have hprocess : process = _ := runProcess_eq_run around mode arguments hmode
  refine ⟨?_, ?_, ?_, ?_, ?_, ?_, ?_, ?_, ?_⟩
  · intro status hreturned
    rw [hprocess]
    exact congrArg Ending.leave hreturned
  · rw [hprocess]
  · rw [hprocess]
    exact Text.Utf8.decode_encode left.output.toList
  · rw [hprocess]
  · rw [hprocess]
  · rw [hprocess]
  · intro f
    rw [hprocess]
    change left.ending.leave = .failed f ↔ left.ending = .failed f
    cases left.ending <;> simp [Ending.leave]
  · intro x hx hforeign
    exact Console.write_ascii {} left.output rfl hx hforeign
  · rintro rfl
    have hempty : left.output = "" := output_run_bench around none arguments hmode
    rw [hprocess]
    change Text.Utf8.encode left.output.toList = []
    rw [hempty]
    rfl

/-- Content that is no ASCII and content that is no text, written by a process and to a given stream. -/
theorem process_mirrors_run_foreign :
    let events : List Event := [⟨"Text", some [0xC3, 0xA9, 0xE2, 0x80, 0xA8], 0, 5⟩, ⟨"Text", some [0xFF, 0xE9], 5, 7⟩]
    let parser : ParserClass := ⟨"Foreign", "foreign", "trials", fun _ _ => .ofEvents events⟩
    let around : Surroundings :=
      { catalog := Catalog.standard parser
        environment := fun name => if name = Config.parserVariable then some "scripted" else none }
    let left := run around none []
    let process := runProcess around []
    left.ending = .returned 0 ∧
    left.output = "Text \"\u00E9\\u\x7b2028\x7d\" @ 0..5\nText b\"\\xff\\xe9\" @ 5..7\n" ∧
    process.ending = .exited 0 ∧
    process.output = Text.Utf8.encode left.output.toList ∧
    (∃ f, Console.write {} left.output = .error f) := by
  intro events parser around left process
  have hending : left.ending = .returned 0 := by decide +kernel
  have houtput : left.output = "Text \"\u00E9\\u\x7b2028\x7d\" @ 0..5\nText b\"\\xff\\xe9\" @ 5..7\n" := by
    decide +kernel
  obtain ⟨hstatus, hspelt, -, -, -, -, -, hforeign, -⟩ := process_mirrors_run around [] .stream (by decide +kernel)
  refine ⟨hending, houtput, hstatus 0 hending, hspelt, hforeign '\u00E9' ?_ (by decide)⟩
  change '\u00E9' ∈ left.output.toList
  rw [houtput]
  decide

end RunParser

end EventBench
