import EventBench.Proofs.Log
import EventBench.Proofs.RunParser.Course

namespace EventBench.RunParser

theorem lineFeed_not_mem_ofInt (n : Int) : '\n' ∉ Text.Numeral.ofInt n := by
  have hdecimal (m : Nat) : '\n' ∉ Text.Numeral.decimal m := fun h =>
    absurd (Text.Numeral.isDigit_of_mem_decimal h) (by decide)
  cases n with
  | ofNat m => exact hdecimal m
  | negSucc m =>
    rw [Text.Numeral.ofInt, List.mem_cons, not_or]
    exact ⟨by decide, hdecimal _⟩

theorem isDebugLine_record (iterations : Int) (size : Nat) (total : Double) :
    (Throughput.record iterations size total).IsDebugLine := by
  have hsize : '\n' ∉ Text.Numeral.decimal size := lineFeed_not_mem_ofInt size
  have htotal : '\n' ∉ total.fixed 6 := fun h => absurd (Measurement.isFixedDigit_of_mem_fixed 6 total _ h) (by decide)
  refine ⟨rfl, (by decide : '\n' ∉ "descent_harness.benchmark.throughput".toList), ?_⟩
  rw [Throughput.record, String.toList_ofList]
  simp only [List.mem_append, not_or]
  exact ⟨⟨⟨⟨⟨⟨by decide, lineFeed_not_mem_ofInt iterations⟩, by decide⟩, hsize⟩, by decide⟩, htotal⟩, by decide⟩

theorem isDebugLine_of_mem_measure (parser : ParserClass) (data : Bytes) (iterations : Int) (clock : Clock) (k : Nat) :
    ∀ r ∈ (Throughput.measure parser data iterations clock k).records, r.IsDebugLine := by
  intro r hr
  unfold Throughput.measure at hr
  split at hr
  · cases hr
  · dsimp only at hr
    split at hr
    · cases hr
    · rw [List.mem_singleton.mp hr]
      exact isDebugLine_record _ _ _

theorem isDebugLine_of_mem_records (loaded : Loaded) (data : Bytes) (hname : '\n' ∉ loaded.parser.name.toList)
    (hsource : '\n' ∉ loaded.source.toList) : ∀ r ∈ records loaded data, r.IsDebugLine := by
  have hsize : '\n' ∉ Text.Numeral.decimal data.length := lineFeed_not_mem_ofInt data.length
  intro r hr
  rcases List.mem_cons.mp hr with rfl | hr
  · refine ⟨rfl, (by decide : '\n' ∉ "descent_harness.parsers.loader".toList), ?_⟩
    simp only [Loaded.record, String.toList_append, List.mem_append, not_or]
    exact ⟨⟨⟨by decide, hname⟩, by decide⟩, hsource⟩
  · rw [List.mem_singleton.mp hr]
    refine ⟨rfl, (by decide : '\n' ∉ "descent_harness.cli".toList), ?_⟩
    simp only [inputRecord, String.toList_append, String.toList_ofList, List.mem_append, not_or]
    exact ⟨⟨⟨by decide, hsize⟩, by decide⟩, hname⟩

section

variable {σ : Type} (around : Surroundings) (sink : Sink σ) (out : σ) (mode : Mode)

theorem isDebugLine_of_mem_course (target : String) (iterations : Int)
    (hnames : ∀ loaded, around.catalog.load target = .ok loaded →
      '\n' ∉ loaded.parser.name.toList ∧ '\n' ∉ loaded.source.toList) :
    ∀ r ∈ (course around sink out mode target iterations).records, r.IsDebugLine := by
  unfold course
  cases hload : around.catalog.load target with
  | error f => exact fun r hr => absurd hr List.not_mem_nil
  | ok loaded =>
    obtain ⟨hname, hsource⟩ := hnames loaded hload
    have hrecords (data : Bytes) := isDebugLine_of_mem_records loaded data hname hsource
    dsimp only
    cases around.input.read with
    | error f =>
      intro r hr
      rw [List.mem_singleton.mp hr]
      exact hrecords [] loaded.record List.mem_cons_self
    | ok data =>
      cases mode with
      | stream => exact hrecords data
      | bench =>
        intro r hr
        rcases List.mem_append.mp hr with hr | hr
        · exact hrecords data r hr
        · exact isDebugLine_of_mem_measure loaded.parser data iterations around.clock 0 r hr

theorem withoutDebug_course (target : String) (iterations : Int)
    (hnames : ∀ loaded, around.catalog.load target = .ok loaded →
      '\n' ∉ loaded.parser.name.toList ∧ '\n' ∉ loaded.source.toList) (s : Log.Setup) :
    let c := course around sink out mode target iterations
    Log.withoutDebug (s.written c.records ++ c.told) = Log.withoutDebug c.told :=
  Log.withoutDebug_written_append s _ (isDebugLine_of_mem_course around sink out mode target iterations hnames) _

end

/-- The log level shows nowhere but in the records. Two runs on the same parsers, input and clock whose
configurations differ in the level alone have the same ending, the same output and the same passes; on the error
stream each writes those of the same records that its level lets through and then the same text, so without the lines
of records for finding mistakes both are the same. Streaming may be told another number of passes as well. -/
theorem level_never_shows (around around' : Surroundings) (given given' : Option Config) (config config' : Config)
    (hconfig : effective around given = .ok config) (hconfig' : effective around' given' = .ok config')
    (hcatalog : around'.catalog = around.catalog) (hinput : around'.input = around.input)
    (hclock : around'.clock = around.clock) (hparser : config'.parser = config.parser) (arguments : List String)
    (hiterations : mode arguments = .ok .stream ∨ config'.iterations = config.iterations)
    (hnames : ∀ loaded, around.catalog.load config.parser = .ok loaded →
      '\n' ∉ loaded.parser.name.toList ∧ '\n' ∉ loaded.source.toList) :
    let left := run around given arguments
    let right := run around' given' arguments
    (∃ told, right = { left with errors := told } ∧ Log.withoutDebug told = Log.withoutDebug left.errors) ∧
    (∃ records told, (∀ r ∈ records, r.level = .debug) ∧ left.errors = (setup config).written records ++ told ∧
      right.errors = (setup config').written records ++ told) ∧
    (given = none → given' = none →
      ∃ told, runProcess around' arguments = { runProcess around arguments with errors := told } ∧
        Log.withoutDebug told = Log.withoutDebug (runProcess around arguments).errors) := by
  intro left right
  cases hmode : mode arguments with
  | error stop =>
    have hright : right = left := by simp only [left, right, run, hmode]
    have hnothing : left.errors = "" := by simp only [left, run, hmode]
    have hprocess : runProcess around' arguments = runProcess around arguments := by simp only [runProcess, hmode]
    refine ⟨⟨left.errors, hright, rfl⟩, ⟨[], "", ?_, hnothing, hright ▸ hnothing⟩, ?_⟩
    · exact fun r hr => absurd hr List.not_mem_nil
    · intro _ _
      exact ⟨_, hprocess, rfl⟩
  | ok m =>
    have hsame : m = .stream ∨ config'.iterations = config.iterations := by
      rw [hmode] at hiterations
      exact hiterations.imp_left Except.ok.inj
    have hcourse {σ : Type} (sink : Sink σ) (out : σ) :
        course around' sink out m config'.parser config'.iterations
          = course around sink out m config.parser config.iterations := by
      rw [hparser]
      exact course_congr around sink out m around' hcatalog hinput hclock config.parser _ _ hsame
    have htold {σ : Type} (sink : Sink σ) (out : σ) (s : Log.Setup) :=
      withoutDebug_course around sink out m config.parser config.iterations hnames s
    have hleft := run_eq_course around m given config hconfig arguments hmode
    have hright := run_eq_course around' m given' config' hconfig' arguments hmode
    rw [hcourse] at hright
    have hrecords := isDebugLine_of_mem_course around Sink.text [] m config.parser config.iterations hnames
    generalize hc : course around Sink.text [] m config.parser config.iterations = c at hleft hright hrecords
    refine ⟨⟨right.errors, ?_, ?_⟩, ⟨c.records, c.told, fun r hr => (hrecords r hr).level, ?_, ?_⟩, ?_⟩
    · simp only [left, right, hleft, hright]
    · simp only [left, right, hleft, hright, ← hc]
      rw [htold, htold]
    · simp only [left, hleft]
    · simp only [right, hright]
    · rintro rfl rfl
      have hown := runProcess_eq_course around m config hconfig arguments hmode
      have hother := runProcess_eq_course around' m config' hconfig' arguments hmode
      rw [hcourse] at hother
      refine ⟨(runProcess around' arguments).errors, ?_, ?_⟩
      · simp only [hown, hother]
      · simp only [hown, hother]
        rw [htold, htold]

/-- One run that streams without a word, and one that tells its records and would time other passes. -/
theorem level_never_shows_streaming :
    let parser : ParserClass := ⟨"Steady", "steady", "trials", fun _ _ => .ofEvents [⟨"A", none, 0, 0⟩]⟩
    let around : Surroundings := { catalog := Catalog.standard parser, input := .ok [0x0A] }
    let quiet := run around (some ⟨"scripted", 3, .warning⟩) []
    let loud := run around (some ⟨"scripted", 5, .debug⟩) []
    quiet.errors = "" ∧
    loud.errors = "run-parser: DEBUG: descent_harness.parsers.loader: Loaded parser Steady from scripted\n"
      ++ "run-parser: DEBUG: descent_harness.cli: Read 1 bytes, parser Steady\n" ∧
    loud.ending = quiet.ending ∧ loud.output = quiet.output ∧
    Log.withoutDebug loud.errors = Log.withoutDebug quiet.errors := by
  intro parser around quiet loud
  have hnames : ∀ loaded, around.catalog.load "scripted" = .ok loaded →
      '\n' ∉ loaded.parser.name.toList ∧ '\n' ∉ loaded.source.toList := by
    intro loaded hload
    obtain rfl := Except.ok.inj ((load_scripted parser).symm.trans hload)
    exact ⟨(by decide : '\n' ∉ "Steady".toList), (by decide : '\n' ∉ "scripted".toList)⟩
  obtain ⟨⟨told, hloud, hsilent⟩, -, -⟩ := level_never_shows around around (some ⟨"scripted", 3, .warning⟩)
    (some ⟨"scripted", 5, .debug⟩) ⟨"scripted", 3, .warning⟩ ⟨"scripted", 5, .debug⟩ rfl rfl rfl rfl rfl rfl []
    (.inl (by decide +kernel)) hnames
  refine ⟨by decide +kernel, by decide +kernel, ?_, ?_, ?_⟩
  · simp only [loud, quiet, hloud]
  · simp only [loud, quiet, hloud]
  · simp only [loud, quiet, hloud, hsilent]

end EventBench.RunParser
