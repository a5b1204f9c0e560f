import EventBench.RunParser
import EventBench.Proofs.Benchmark
import EventBench.Proofs.Limit
import EventBench.Proofs.Pass
import EventBench.Proofs.Stream

namespace EventBench.RunParser

/-- What a run finds that gets to parsing: a configuration, given or that of the environment, a class that its
target names, and an input that is read. -/
structure Ready (around : Surroundings) (given : Option Config) (config : Config) (loaded : Loaded) (data : Bytes) :
    Prop where
  configured : given = some config ∨ given = none ∧ Config.ofEnvironment around.environment = .ok config
  loads : around.catalog.load config.parser = .ok loaded
  reads : around.input.read = .ok data

def setup (config : Config) : Log.Setup where
  level := config.level
  stream := some "stderr"

def records (loaded : Loaded) (data : Bytes) : List Log.Record :=
  [loaded.record, inputRecord loaded.parser data]

def benchRecords (clock : Clock) (config : Config) (loaded : Loaded) (data : Bytes) : List Log.Record :=
  records loaded data ++ [Throughput.record config.iterations data.length ((clock 1).sub (clock 0))]

def Ending.ofFailure : Option Fault → Ending
  | some f => .failed f
  | none => .returned 0

section

variable {around : Surroundings} {given : Option Config} {config : Config} {loaded : Loaded} {data : Bytes}

theorem load_scripted (parser : ParserClass) :
    (Catalog.standard parser).load "scripted" = .ok ⟨parser, "scripted"⟩ := by
  rfl

/-- Any parser can be run, under the name of the module that holds a given one. -/
theorem ready_scripted (parser : ParserClass) (hcatalog : around.catalog = Catalog.standard parser)
    (hname : config.parser = "scripted") (hinput : around.input = .ok data) :
    Ready around (some config) config ⟨parser, "scripted"⟩ data where
  configured := .inl rfl
  loads := by rw [hcatalog, hname, load_scripted]
  reads := by rw [hinput]; rfl

theorem work_ready (h : Ready around given config loaded data) {σ : Type} (sink : Sink σ) (out : σ) (mode : Mode) :
    work around given sink out mode
      = process sink out mode config around.clock loaded.parser data (setup config).written (records loaded data) := by
  have hconfigured : configured around sink out mode config
      = process sink out mode config around.clock loaded.parser data (setup config).written (records loaded data) := by
    simp only [configured, h.loads, h.reads]
    rfl
  rcases h.configured with rfl | ⟨rfl, henv⟩
  · exact hconfigured
  · simp only [work, henv]
    exact hconfigured

/-- The text that stream mode writes: the lines of the events up to the first that is too long for one. -/
def streamText (events : List Event) : String :=
  String.join ((events.takeWhile (·.fits Text.Integer.digitLimit)).map fun e => e.line ++ "\n")

/-- The ending of stream mode: a numeral that is too long, or else the end of the pass. -/
def Ending.ofStream (events : List Event) (failure : Option Fault) : Ending :=
  .ofFailure (Pass.within Text.Integer.digitLimit events failure).failure

theorem streamText_of_fits {events : List Event} (h : ∀ e ∈ events, e.fits Text.Integer.digitLimit = true) :
    streamText events = String.join (events.map fun e => e.line ++ "\n") := by
  rw [streamText, List.takeWhile_eq_self_iff.mpr h]

theorem ofStream_of_fits {events : List Event} (h : ∀ e ∈ events, e.fits Text.Integer.digitLimit = true)
    (failure : Option Fault) : Ending.ofStream events failure = .ofFailure failure := by
  rw [Ending.ofStream, Pass.within_eq_of_fits _ events failure h]
  rfl

theorem ofStream_of_not_fits {events : List Event} {e : Event} (he : e ∈ events)
    (h : ¬ e.fits Text.Integer.digitLimit = true) (failure : Option Fault) :
    Ending.ofStream events failure = .failed (.overlongNumeral Text.Integer.digitLimit) := by
  rw [Ending.ofStream, Pass.within_of_not_fits _ events failure e he h]
  rfl

/-- Stream mode writes the events of the pass, and ends as the pass does, as long as they can be written. -/
theorem run_stream (h : Ready around given config loaded data) (arguments : List String)
    (hmode : mode arguments = .ok .stream) (events : List Event) (failure : Option Fault)
    (hpass : loaded.parser.pass 0 data = .ofEvents events failure) :
    run around given arguments =
      { ending := .ofStream events failure
        output := streamText events
        errors := (setup config).written (records loaded data)
        started := 1
        hasRead := true } := by
  have hstream : Stream.run Sink.text.write (Sink.text.prepare []) (.ofEvents events failure)
      (some Text.Integer.digitLimit) = _ := Stream.run_text_within Text.Integer.digitLimit events failure
  simp only [run, hmode, work_ready h, process, hpass, hstream, TextStream.text, List.reverse_reverse, Ending.ofStream]
  cases (Pass.within Text.Integer.digitLimit events failure).failure <;> rfl

theorem runProcess_stream (h : Ready around none config loaded data) (arguments : List String)
    (hmode : mode arguments = .ok .stream) (events : List Event) (failure : Option Fault)
    (hpass : loaded.parser.pass 0 data = .ofEvents events failure) :
    runProcess around arguments =
      { ending := (Ending.ofStream events failure).leave
        output := Text.Utf8.encode (streamText events).toList
        errors := (setup config).written (records loaded data)
        started := 1
        hasRead := true } := by
  obtain ⟨console, hconsole, hbytes⟩ :=
    Stream.run_console Text.Integer.digitLimit events failure ({ encoding := .utf8 }) rfl
  have hstream : Stream.run Sink.console.write (Sink.console.prepare {}) (.ofEvents events failure)
      (some Text.Integer.digitLimit) = _ := hconsole
  simp only [runProcess, hmode, work_ready h, process, hpass, hstream, hbytes, Ending.ofStream]
  cases (Pass.within Text.Integer.digitLimit events failure).failure <;> rfl

theorem leave_ofStream (events : List Event) (f : Fault) :
    (Ending.ofStream events (some f)).leave = Ending.ofStream events (some f) := by
  by_cases hfits : ∀ e ∈ events, e.fits Text.Integer.digitLimit = true
  · rw [ofStream_of_fits hfits]
    rfl
  · rw [not_forall₂] at hfits
    obtain ⟨e, he, hlong⟩ := hfits
    rw [ofStream_of_not_fits he hlong]
    rfl

/-- What brings bench mode to its end: all its passes are completed and there is a measurement of them. -/
structure Completes (around : Surroundings) (config : Config) (loaded : Loaded) (data : Bytes) (m : Measurement) :
    Prop where
  positive : 1 ≤ config.iterations
  passes : ∀ i < config.iterations.toNat, (loaded.parser.pass i data).failure = none
  measured : Measurement.ofRun data.length (loaded.parser.pass (config.iterations.toNat - 1) data).entries.length
    ((around.clock 1).sub (around.clock 0)) config.iterations = .ok m

/-- What breaks bench mode off: a pass of it is the first that fails. -/
structure BreaksOff (config : Config) (loaded : Loaded) (data : Bytes) (j : Nat) (f : Fault) : Prop where
  started : j < config.iterations.toNat
  before : ∀ i < j, (loaded.parser.pass i data).failure = none
  fails : (loaded.parser.pass j data).failure = some f

/-- Bench mode writes one line behind the records if it comes to its end. -/
theorem work_bench_completed (h : Ready around given config loaded data) {σ : Type} (sink : Sink σ) (out : σ)
    {m : Measurement} (hm : Completes around config loaded data m) :
    work around given sink out .bench =
      { ending := .returned 0
        output := out
        errors := (setup config).written (benchRecords around.clock config loaded data) ++ m.line ++ "\n"
        started := config.iterations.toNat
        hasRead := true } := by
  have hmeasured := Throughput.measure_completed loaded.parser data config.iterations around.clock 0 hm.positive
    fun i hi => by rw [Nat.zero_add]; exact hm.passes i hi
  rw [Nat.zero_add, hm.measured] at hmeasured
  simp only [work_ready h, process, hmeasured]
  rfl

theorem run_bench_completed (h : Ready around given config loaded data) (arguments : List String)
    (hmode : mode arguments = .ok .bench) {m : Measurement} (hm : Completes around config loaded data m) :
    run around given arguments =
      { ending := .returned 0
        errors := (setup config).written (benchRecords around.clock config loaded data) ++ m.line ++ "\n"
        started := config.iterations.toNat
        hasRead := true } := by
  simp only [run, hmode, work_bench_completed h Sink.text [] hm]
  rfl

theorem runProcess_bench_completed (h : Ready around none config loaded data) (arguments : List String)
    (hmode : mode arguments = .ok .bench) {m : Measurement} (hm : Completes around config loaded data m) :
    runProcess around arguments =
      { ending := .exited 0
        output := []
        errors := (setup config).written (benchRecords around.clock config loaded data) ++ m.line ++ "\n"
        started := config.iterations.toNat
        hasRead := true } := by
  simp only [runProcess, hmode, work_bench_completed h Sink.console {} hm]
  rfl

/-- Bench mode writes nothing but the records if a pass fails, and ends with the fault of that pass. -/
theorem work_bench_failed (h : Ready around given config loaded data) {σ : Type} (sink : Sink σ) (out : σ) {j : Nat}
    {f : Fault} (hf : BreaksOff config loaded data j f) :
    work around given sink out .bench =
      { ending := .failed f
        output := out
        errors := (setup config).written (records loaded data)
        started := j + 1
        hasRead := true } := by
  have hmeasured := Throughput.measure_failed loaded.parser data config.iterations around.clock 0 j f hf.started
    (fun i hi => by rw [Nat.zero_add]; exact hf.before i hi) (by rw [Nat.zero_add]; exact hf.fails)
  simp only [work_ready h, process, hmeasured, List.append_nil]

theorem run_bench_failed (h : Ready around given config loaded data) (arguments : List String)
    (hmode : mode arguments = .ok .bench) {j : Nat} {f : Fault} (hf : BreaksOff config loaded data j f) :
    run around given arguments =
      { ending := .failed f
        errors := (setup config).written (records loaded data)
        started := j + 1
        hasRead := true } := by
  simp only [run, hmode, work_bench_failed h Sink.text [] hf]
  rfl

theorem runProcess_bench_failed (h : Ready around none config loaded data) (arguments : List String)
    (hmode : mode arguments = .ok .bench) {j : Nat} {f : Fault} (hf : BreaksOff config loaded data j f) :
    runProcess around arguments =
      { ending := .failed f
        output := []
        errors := (setup config).written (records loaded data)
        started := j + 1
        hasRead := true } := by
  simp only [runProcess, hmode, work_bench_failed h Sink.console {} hf]
  rfl

/-- The records of a run are meant for finding mistakes, so most levels leave them out. -/
theorem written_of_debug (rs : List Log.Record) (hdebug : ∀ r ∈ rs, r.level = .debug)
    (hlevel : Log.Level.debug.severity < (setup config).threshold) : (setup config).written rs = "" := by
  have hrefused : ∀ r ∈ rs, ¬ (setup config).accepts r = true := by
    intro r hr
    simp only [Log.Setup.accepts, hdebug r hr, Bool.and_eq_true, decide_eq_true_eq, not_and, Nat.not_le]
    exact fun _ => hlevel
  rw [Log.Setup.written, List.filter_eq_nil_iff.mpr hrefused]
  rfl

theorem level_of_mem_records : ∀ r ∈ records loaded data, r.level = .debug := by
  simp [records, Loaded.record, inputRecord]

theorem level_of_mem_benchRecords (clock : Clock) : ∀ r ∈ benchRecords clock config loaded data, r.level = .debug := by
  simp [benchRecords, records, Loaded.record, inputRecord, Throughput.record]

/-- A fault of a pass is never swallowed. A consumer that takes every event is called on those in front of the
fault, and gets the fault itself. In stream mode their lines are the output, in bench mode there is none; in both
the fault leaves the program, which says nothing about it. Only a numeral that is too long for a line ends stream mode
before, behind the lines of the events in front of it. A fault of the consumer comes out as well, and no step of the
pass is taken behind the event that it failed on. -/
theorem faults_propagate (h : Ready around given config loaded data) (arguments : List String)
    (events : List Event) (hvalid : ∀ e ∈ events, e.Valid) (f : Fault) :
    (∀ later, Pass.ofSteps (Pass.building events ++ .error f :: later) = .ofEvents events (some f)) ∧
    (∀ (σ : Type) (visit : σ → Entry → σ × Option Fault) (s t : σ), Pass.Takes visit s (events.map .ofEvent) t →
      ∀ later, let steps := Pass.building events ++ .error f :: later
        (Pass.ofSteps steps).run (Pass.recorded visit) ([], s) = (((events.map .ofEvent).reverse, t), some f) ∧
        (Pass.drive (Pass.recorded visit) ([], s) steps).2 = later) ∧
    (mode arguments = .ok .stream → loaded.parser.pass 0 data = .ofEvents events (some f) →
      let left := run around given arguments
      ((∀ e ∈ events, e.fits Text.Integer.digitLimit = true) →
        left.ending = .failed f ∧
        left.output = String.join (events.map fun e => e.line ++ "\n") ∧
        Text.lines left.output.toList = events.map Event.render) ∧
      ((∃ e ∈ events, ¬ e.fits Text.Integer.digitLimit = true) →
        left.ending = .failed (.overlongNumeral Text.Integer.digitLimit) ∧
        left.output = String.join ((events.takeWhile (·.fits Text.Integer.digitLimit)).map fun e => e.line ++ "\n")) ∧
      left.errors = (setup config).written (records loaded data) ∧
      (given = none →
        (runProcess around arguments).ending = left.ending ∧
        (runProcess around arguments).output = Text.Utf8.encode left.output.toList ∧
        (runProcess around arguments).errors = left.errors)) ∧
    (mode arguments = .ok .bench → ∀ j < config.iterations.toNat,
      (∀ i < j, (loaded.parser.pass i data).failure = none) →
      loaded.parser.pass j data = .ofEvents events (some f) →
      let left := run around given arguments
      left.ending = .failed f ∧
      left.output = "" ∧
      left.errors = (setup config).written (records loaded data) ∧
      (given = none →
        (runProcess around arguments).ending = .failed f ∧
        (runProcess around arguments).output = [] ∧
        (runProcess around arguments).errors = left.errors)) ∧
    (Log.Level.debug.severity < (setup config).threshold → (setup config).written (records loaded data) = "") ∧
    (∀ (σ : Type) (visit : σ → Entry → σ × Option Fault) (s t u : σ) (e : Event) (g : Fault), e.Valid →
      Pass.Takes visit s (events.map .ofEvent) t → visit t (.ofEvent e) = (u, some g) →
      ∀ later, let steps := Pass.building (events ++ [e]) ++ later
        (Pass.ofSteps steps).run (Pass.recorded visit) ([], s)
          = ((.ofEvent e :: (events.map .ofEvent).reverse, u), some g) ∧
        (Pass.drive (Pass.recorded visit) ([], s) steps).2 = later) := by
  refine ⟨Pass.ofSteps_fault events hvalid f, ?_, ?_, ?_, written_of_debug _ level_of_mem_records, ?_⟩
  · intro σ visit s t htakes later steps
    exact Pass.recorded_fault events hvalid f htakes later
  · intro hmode hpass left
    have hleft := run_stream h arguments hmode events (some f) hpass
    simp only [left, hleft]
    refine ⟨?_, ?_, trivial, ?_⟩
    · intro hfits
      rw [ofStream_of_fits hfits, streamText_of_fits hfits]
      have hlines := Stream.lines_text events (some f) hvalid
      rw [Stream.ofPass_ofEvents] at hlines
      exact ⟨rfl, rfl, hlines⟩
    · rintro ⟨e, he, hlong⟩
      exact ⟨ofStream_of_not_fits he hlong (some f), rfl⟩
    · rintro rfl
      rw [runProcess_stream h arguments hmode events (some f) hpass]
      exact ⟨leave_ofStream events f, rfl, rfl⟩
  · intro hmode j hj hbefore hpass left
    have hbreaks : BreaksOff config loaded data j f := ⟨hj, hbefore, congrArg Pass.failure hpass⟩
    simp only [left, run_bench_failed h arguments hmode hbreaks, true_and]
    rintro rfl
    rw [runProcess_bench_failed h arguments hmode hbreaks]
    exact ⟨rfl, rfl, rfl⟩
  · intro σ visit s t u e g he htakes hrefuse later steps
    have hall : ∀ d ∈ events ++ [e], d.Valid := by
      intro d hd
      rcases List.mem_append.mp hd with hd | hd
      · exact hvalid d hd
      · rwa [List.mem_singleton.mp hd]
    exact Pass.recorded_refusal events e hall g htakes hrefuse later

/-- A fault that would end the program with a word and a status if the input raised it. -/
theorem faults_propagate_late :
    let f : Fault := .raised .inputRead "late"
    let events : List Event := [⟨"A", none, 0, 0⟩, ⟨"Text", some [0x0A], 0, 1⟩]
    let parser : ParserClass := ⟨"Failing", "failing", "trials", fun _ _ => .ofEvents events (some f)⟩
    let around : Surroundings := { catalog := Catalog.standard parser }
    let config : Config := ⟨"scripted", 3, .warning⟩
    let streamed := run around (some config) []
    let benched := run around (some config) ["--bench"]
    streamed.ending = .failed f ∧ streamed.output = "A @ 0..0\nText \"\\n\" @ 0..1\n" ∧ streamed.errors = "" ∧
    benched.ending = .failed f ∧ benched.output = "" ∧ benched.errors = "" := by
  intro f events parser around config streamed benched
  have hready : Ready around (some config) config ⟨parser, "scripted"⟩ [] := ready_scripted parser rfl rfl rfl
  have hvalid : ∀ e ∈ events, e.Valid := by decide
  obtain ⟨-, -, hstream, -, hquiet, -⟩ := faults_propagate hready [] events hvalid f
  obtain ⟨-, -, -, hbench, -, -⟩ := faults_propagate hready ["--bench"] events hvalid f
  obtain ⟨hwritten, -, herrors, -⟩ := hstream (by decide +kernel) rfl
  obtain ⟨hfailed, houtput, -⟩ := hwritten (by decide +kernel)
  obtain ⟨hfailed', houtput', herrors', -⟩ := hbench (by decide +kernel) 0 (by decide) (by simp) rfl
  have hlog := hquiet (by decide)
  have htext : String.join (events.map fun e => e.line ++ "\n") = "A @ 0..0\nText \"\\n\" @ 0..1\n" := by decide +kernel
  exact ⟨hfailed, houtput.trans htext, herrors.trans hlog, hfailed', houtput', herrors'.trans hlog⟩

/-- There are runs that get to parsing and whose one event cannot be written. -/
theorem exists_ready_not_fits (failure : Option Fault) :
    ∃ (around : Surroundings) (config : Config) (loaded : Loaded) (e : Event),
      Ready around (some config) config loaded [] ∧ around.clock = (fun _ => Double.zero) ∧ config.iterations = 3 ∧
      (∀ k data, loaded.parser.pass k data = .ofEvents [e] failure) ∧ e.Valid ∧
      ¬ e.fits Text.Integer.digitLimit = true := by
  obtain ⟨e, hvalid, hlong⟩ := Event.exists_not_fits Text.Integer.digitLimit (by decide)
  let parser : ParserClass := ⟨"Steady", "steady", "trials", fun _ _ => .ofEvents [e] failure⟩
  exact ⟨{ catalog := Catalog.standard parser }, ⟨"scripted", 3, .warning⟩, ⟨parser, "scripted"⟩, e,
    ready_scripted parser rfl rfl rfl, rfl, rfl, fun _ _ => rfl, hvalid, hlong⟩

/-- A fault behind an event that is too long for a line does not come out: writing the event fails before. -/
theorem fault_behind_overlong_numeral :
    ¬ ∀ (around : Surroundings) (given : Option Config) (config : Config) (loaded : Loaded) (data : Bytes)
      (arguments : List String) (events : List Event) (f : Fault), Ready around given config loaded data →
      mode arguments = .ok .stream → (∀ e ∈ events, e.Valid) → loaded.parser.pass 0 data = .ofEvents events (some f) →
      (run around given arguments).ending = .failed f ∧
        (run around given arguments).output = String.join (events.map fun e => e.line ++ "\n") := by
  intro h
  obtain ⟨around, config, loaded, e, hready, -, -, hpass, hvalid, hlong⟩ :=
    exists_ready_not_fits (some (.raised .value "late"))
  have hmode : mode [] = .ok .stream := by decide +kernel
  obtain ⟨hlate, -⟩ := h around _ config loaded [] [] [e] _ hready hmode (List.forall_mem_singleton.mpr hvalid)
    (hpass 0 [])
  rw [run_stream hready [] hmode [e] _ (hpass 0 [])] at hlate
  have hended := ofStream_of_not_fits (List.mem_singleton_self e) hlong (some (.raised .value "late"))
  cases hended.symm.trans hlate

/-- All ways of counting agree. If the passes of a parser all report the same events, their number is the one told by
the line that bench mode leaves, that of the count of any pass, and that of every pass of a benchmark, which calls them
steady. As long as each event can be written, it is that of the lines on the output in stream mode and of the lines of
any pass as well; an event that holds a numeral that is too long ends both. -/
theorem counts_agree (h : Ready around given config loaded data) (events : List Event) (hvalid : ∀ e ∈ events, e.Valid)
    (hpasses : ∀ k, loaded.parser.pass k data = .ofEvents events) (streaming benching : List String)
    (hstreaming : mode streaming = .ok .stream) (hbenching : mode benching = .ok .bench) (hn : 1 ≤ config.iterations)
    (hmeasured : (Measurement.ofRun data.length events.length ((around.clock 1).sub (around.clock 0))
      config.iterations).isOk = true)
    (plan : Benchmark.Plan) (hplan : 1 ≤ plan.iterations) (timer : Clock)
    (htimed : (Benchmark.Timing.ofSample (Benchmark.elapsed timer plan.iterations.toNat)).isOk = true) (name : String) :
    let streamed := run around given streaming
    let benched := run around given benching
    ((∀ e ∈ events, e.fits Text.Integer.digitLimit = true) →
      streamed.ending = .returned 0 ∧ (Text.lines streamed.output.toList).length = events.length ∧
      ∀ k, ((loaded.parser.pass k data).lines (some Text.Integer.digitLimit)).1.length = events.length ∧
        ((loaded.parser.pass k data).lines (some Text.Integer.digitLimit)).2 = none) ∧
    ((∃ e ∈ events, ¬ e.fits Text.Integer.digitLimit = true) →
      streamed.ending = .failed (.overlongNumeral Text.Integer.digitLimit) ∧
      ∀ k, ((loaded.parser.pass k data).lines (some Text.Integer.digitLimit)).2
        = some (.overlongNumeral Text.Integer.digitLimit)) ∧
    (benched.ending = .returned 0 ∧ benched.output = "" ∧
      ∃ summary : List Char, Measurement.readEvents? summary = some events.length ∧
        Text.lines (summary ++ ['\n']) = [summary] ∧
        benched.errors.toList = ((setup config).written (benchRecords around.clock config loaded data)).toList
          ++ (summary ++ ['\n']) ∧
        (Log.Level.debug.severity < (setup config).threshold → Text.lines benched.errors.toList = [summary])) ∧
    (given = none →
      (runProcess around streaming).output = Text.Utf8.encode streamed.output.toList ∧
      (runProcess around benching).output = [] ∧ (runProcess around benching).errors = benched.errors) ∧
    (∀ k, (loaded.parser.pass k data).count = (events.length, none)) ∧
    ∃ r, (Benchmark.run plan loaded.parser data name timer 0).result = .ok r ∧
      r.eventsPerPass = events.length ∧ r.counts = List.replicate plan.iterations.toNat events.length ∧
      r.isSteady = true := by
  have hcompleted (i : Nat) : (loaded.parser.pass i data).failure = none := congrArg Pass.failure (hpasses i)
  have hsize (i : Nat) : (loaded.parser.pass i data).entries.length = events.length := by
    rw [hpasses, Pass.ofEvents, List.length_map]
  intro streamed benched
  obtain ⟨m, hm⟩ := exists_ok_of_isOk hmeasured
  have hevents := Measurement.events_of_ofRun _ _ _ _ m hm
  have hnonneg : 0 ≤ m.events := by omega
  have hcompletes : Completes around config loaded data m := ⟨hn, fun i _ => hcompleted i, by rw [hsize, hm]⟩
  have hstream : streamed = _ := run_stream h streaming hstreaming events none (hpasses 0)
  have hbench : benched = _ := run_bench_completed h benching hbenching hcompletes
  have herrors : benched.errors.toList
      = ((setup config).written (benchRecords around.clock config loaded data)).toList ++ (m.render ++ ['\n']) := by
    rw [hbench, String.toList_append, String.toList_append, Measurement.line, String.toList_ofList, List.append_assoc]
    rfl
  refine ⟨?_, ?_, ⟨by rw [hbench], by rw [hbench], m.render, ?_, Measurement.lines_render m hnonneg, herrors, ?_⟩,
    ?_, ?_, Benchmark.run_uniform plan loaded.parser data name timer 0 events.length hplan hcompleted hsize htimed⟩
  · intro hfits
    have hlines := Stream.lines_text events none hvalid
    rw [Stream.ofPass_ofEvents] at hlines
    rw [hstream, ofStream_of_fits hfits, streamText_of_fits hfits, hlines, List.length_map]
    refine ⟨rfl, rfl, ?_⟩
    intro k
    rw [hpasses, Pass.lines_within, Pass.within_eq_of_fits _ _ _ hfits, Pass.lines_ofEvents]
    exact ⟨List.length_map .., rfl⟩
  · rintro ⟨e, he, hlong⟩
    rw [hstream, ofStream_of_not_fits he hlong]
    refine ⟨rfl, ?_⟩
    intro k
    rw [hpasses, Pass.lines_within, Pass.within_of_not_fits _ _ _ e he hlong, Pass.lines_ofEvents]
  · rw [Measurement.readEvents?_render m hnonneg, hevents, Int.toNat_natCast]
  · intro hlevel
    rw [herrors, written_of_debug _ (level_of_mem_benchRecords around.clock) hlevel]
    exact Measurement.lines_render m hnonneg
  · rintro rfl
    rw [runProcess_stream h streaming hstreaming events none (hpasses 0),
      runProcess_bench_completed h benching hbenching hcompletes, hstream, hbench]
    exact ⟨rfl, rfl, rfl⟩
  · intro k
    rw [Pass.count_eq, hcompleted, hsize]

/-- Two events in an input of three bytes, by a clock that goes on by one second between readings. -/
theorem counts_agree_ticking :
    let events : List Event := [⟨"A", none, 0, 0⟩, ⟨"Text", some [0x0A, 0x22, 0x2C], 0, 3⟩]
    let parser : ParserClass := ⟨"Steady", "steady", "trials", fun _ _ => .ofEvents events⟩
    let around : Surroundings :=
      { catalog := Catalog.standard parser, input := .ok [0x0A, 0x22, 0x2C], clock := fun i => Double.ofInt i }
    let config : Config := ⟨"scripted", 3, .warning⟩
    let streamed := run around (some config) []
    let benched := run around (some config) ["--bench"]
    (Text.lines streamed.output.toList).length = 2 ∧
    (∃ summary, Text.lines benched.errors.toList = [summary] ∧ Measurement.readEvents? summary = some 2) ∧
    benched.output = "" ∧
    ∃ r, (Benchmark.run ⟨2, -1⟩ parser [0x0A, 0x22, 0x2C] "steady" around.clock 0).result = .ok r ∧
      r.counts = [2, 2] ∧ r.isSteady = true := by
  intro events parser around config streamed benched
  have hready : Ready around (some config) config ⟨parser, "scripted"⟩ [0x0A, 0x22, 0x2C] :=
    ready_scripted parser rfl rfl rfl
  obtain ⟨hstream, -, ⟨-, houtput, summary, hread, -, -, hsummary⟩, -, -, r, hr, -, hcounts, hsteady⟩ :=
    counts_agree hready events (by decide) (fun _ => rfl) [] ["--bench"] (by decide +kernel) (by decide +kernel)
      (by decide) (by decide +kernel) ⟨2, -1⟩ (by decide) around.clock (by decide +kernel) "steady"
  obtain ⟨-, hlines, -⟩ := hstream (by decide +kernel)
  exact ⟨hlines, ⟨summary, hsummary (by decide), hread⟩, houtput, r, hr, hcounts, hsteady⟩

/-- An event that is too long for a line is counted by bench mode and has no line in stream mode. -/
theorem overlong_event_not_written :
    ¬ ∀ (around : Surroundings) (given : Option Config) (config : Config) (loaded : Loaded) (data : Bytes)
      (streaming : List String) (events : List Event), Ready around given config loaded data →
      mode streaming = .ok .stream → 1 ≤ config.iterations → (∀ e ∈ events, e.Valid) →
      (∀ k, loaded.parser.pass k data = .ofEvents events) →
      (Measurement.ofRun data.length events.length ((around.clock 1).sub (around.clock 0)) config.iterations).isOk
        = true →
      (Text.lines (run around given streaming).output.toList).length = events.length := by
  intro h
  obtain ⟨around, config, loaded, e, hready, hclock, hn, hpass, hvalid, hlong⟩ := exists_ready_not_fits none
  have hmode : mode [] = .ok .stream := by decide +kernel
  have hmeasured : (Measurement.ofRun ([] : Bytes).length [e].length ((around.clock 1).sub (around.clock 0))
      config.iterations).isOk = true := by
    rw [hclock, hn]
    exact (by decide +kernel : (Measurement.ofRun 0 1 (Double.zero.sub Double.zero) 3).isOk = true)
  have hlines := h around _ config loaded [] [] [e] hready hmode (by rw [hn]; decide)
    (List.forall_mem_singleton.mpr hvalid) (fun k => hpass k []) hmeasured
  have hempty : streamText [e] = "" := by
    rw [streamText, List.takeWhile_cons_of_neg hlong]
    rfl
  rw [run_stream hready [] hmode [e] none (hpass 0 []), hempty] at hlines
  cases hlines

end

end EventBench.RunParser
