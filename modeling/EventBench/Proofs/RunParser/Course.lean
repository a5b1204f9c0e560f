import EventBench.Proofs.RunParser

namespace EventBench.RunParser

/-- What a run does at any level: its records stand beside what else it tells. -/
structure Course (σ : Type) where
  ending : Ending
  output : σ
  records : List Log.Record := []
  told : String := ""
  started : Nat := 0
  hasRead : Bool := false

def Course.work {σ : Type} (c : Course σ) (s : Log.Setup) : Work σ where
  ending := c.ending
  output := c.output
  errors := s.written c.records ++ c.told
  started := c.started
  hasRead := c.hasRead

/-- The configuration of a run, given or that of the environment. -/
def effective (around : Surroundings) : Option Config → Except Config.Problem Config
  | some config => .ok config
  | none => Config.ofEnvironment around.environment

section

variable {σ : Type} (around : Surroundings) (sink : Sink σ) (out : σ) (mode : Mode)

def parsing (iterations : Int) (loaded : Loaded) (data : Bytes) : Course σ :=
  match mode with
  | .stream =>
    let streamed := Stream.run sink.write (sink.prepare out) (loaded.parser.pass 0 data)
      (some Text.Integer.digitLimit)
    { ending := .ofFailure streamed.2
      output := streamed.1.1
      records := records loaded data
      started := 1
      hasRead := true }
  | .bench =>
    let timed := Throughput.measure loaded.parser data iterations around.clock 0
    { ending := match timed.result with | .ok _ => .returned 0 | .error f => .failed f
      output := out
      records := records loaded data ++ timed.records
      told := match timed.result with | .ok m => m.line ++ "\n" | .error _ => ""
      started := timed.started
      hasRead := true }

/-- The course of a run with a target and a number of passes. -/
def course (target : String) (iterations : Int) : Course σ :=
  match around.catalog.load target with
  | .error f => { ending := (refuse f "").1, output := out, told := (refuse f "").2 }
  | .ok loaded =>
    match around.input.read with
    | .error f =>
      { ending := (refuse f "").1, output := out, records := [loaded.record], told := (refuse f "").2, hasRead := true }
    | .ok data => parsing around sink out mode iterations loaded data

theorem refuse_eq (f : Fault) (log : String) : refuse f log = ((refuse f "").1, log ++ (refuse f "").2) := by
  unfold refuse
  split
  · rw [String.empty_append]
  · rw [String.append_empty]

theorem process_eq_work (config : Config) (loaded : Loaded) (data : Bytes) :
    process sink out mode config around.clock loaded.parser data (setup config).written (records loaded data)
      = (parsing around sink out mode config.iterations loaded data).work (setup config) := by
  cases mode with
  | stream =>
    simp only [process, parsing, Course.work, String.append_empty]
    cases (Stream.run sink.write (sink.prepare out) (loaded.parser.pass 0 data) (some Text.Integer.digitLimit)).2 <;>
      rfl
  | bench =>
    simp only [process, parsing, Course.work]
    cases hresult : (Throughput.measure loaded.parser data config.iterations around.clock 0).result with
    | ok m => simp only [String.append_assoc]
    | error f => simp only [String.append_empty]

/-- A run is its course, with the records that its level lets through. -/
theorem configured_eq_work (config : Config) :
    configured around sink out mode config
      = (course around sink out mode config.parser config.iterations).work (setup config) := by
  have hnothing : (setup config).written [] = "" := rfl
  unfold configured course
  cases around.catalog.load config.parser with
  | error f => simp only [Course.work, hnothing, String.empty_append]
  | ok loaded =>
    dsimp only
    cases around.input.read with
    | error f =>
      dsimp only
      rw [refuse_eq]
      rfl
    | ok data => exact process_eq_work around sink out mode config loaded data

theorem work_eq_work (given : Option Config) (config : Config) (h : effective around given = .ok config) :
    work around given sink out mode
      = (course around sink out mode config.parser config.iterations).work (setup config) := by
  rw [← configured_eq_work]
  cases given with
  | some c =>
    obtain rfl := Except.ok.inj h
    rfl
  | none =>
    rw [effective] at h
    rw [work, h]

/-- A run on given streams, told by its course. -/
theorem run_eq_course (given : Option Config) (config : Config) (h : effective around given = .ok config)
    (arguments : List String) (hmode : RunParser.mode arguments = .ok mode) :
    let c := course around Sink.text [] mode config.parser config.iterations
    run around given arguments =
      { ending := c.ending
        output := TextStream.text c.output
        errors := (setup config).written c.records ++ c.told
        started := c.started
        hasRead := c.hasRead } := by
  simp only [run, hmode, work_eq_work around Sink.text [] mode given config h, Course.work]

theorem runProcess_eq_course (config : Config) (h : effective around none = .ok config) (arguments : List String)
    (hmode : RunParser.mode arguments = .ok mode) :
    let c := course around Sink.console {} mode config.parser config.iterations
    runProcess around arguments =
      { ending := c.ending.leave
        output := c.output.bytes
        errors := (setup config).written c.records ++ c.told
        started := c.started
        hasRead := c.hasRead } := by
  simp only [runProcess, hmode, work_eq_work around Sink.console {} mode none config h, Course.work]

/-- A course looks at the modules, the input and the clock, and only bench mode at the number of passes. -/
theorem course_congr (around' : Surroundings) (hcatalog : around'.catalog = around.catalog)
    (hinput : around'.input = around.input) (hclock : around'.clock = around.clock) (target : String)
    (iterations iterations' : Int) (h : mode = .stream ∨ iterations' = iterations) :
    course around' sink out mode target iterations' = course around sink out mode target iterations := by
  rcases h with rfl | rfl
  · simp only [course, parsing, hcatalog, hinput]
  · simp only [course, parsing, hcatalog, hinput, hclock]

end

end EventBench.RunParser
