import EventBench.Proofs.RunParser.Course
import EventBench.Proofs.Target

namespace EventBench.RunParser

/-- What a refused run leaves: the message, the log in front of it, and whether the input was read. -/
structure Refusal where
  message : String
  log : String := ""
  hasRead : Bool := false

/-- Why a run is refused. -/
inductive Refuses (around : Surroundings) : Option Config → Refusal → Prop
  | configuration (problem : Config.Problem) (fails : Config.ofEnvironment around.environment = .error problem) :
    Refuses around none { message := problem.message }
  | target (given : Option Config) (config : Config) (f : Fault) (configured : effective around given = .ok config)
    (fails : around.catalog.load config.parser = .error f) (own : f.isHarness = true) :
    Refuses around given { message := f.message }
  | unreadable (given : Option Config) (config : Config) (loaded : Loaded) (f : Fault)
    (configured : effective around given = .ok config) (loads : around.catalog.load config.parser = .ok loaded)
    (fails : around.input = .error f) (system : f.kind = .system) :
    Refuses around given
      { message := "failed to read stdin: " ++ f.message
        log := (setup config).written [loaded.record]
        hasRead := true }
  | input (given : Option Config) (config : Config) (loaded : Loaded) (f : Fault)
    (configured : effective around given = .ok config) (loads : around.catalog.load config.parser = .ok loaded)
    (fails : around.input = .error f) (own : f.isHarness = true) :
    Refuses around given
      { message := f.message
        log := (setup config).written [loaded.record]
        hasRead := true }

/-- What completes a run that gets to parsing: its one pass, whose events can all be written, or all of its passes and
a measurement. -/
def Succeeds (around : Surroundings) (config : Config) (loaded : Loaded) (data : Bytes) : Mode → Prop
  | .stream => ∃ events, loaded.parser.pass 0 data = .ofEvents events ∧
    ∀ e ∈ events, e.fits Text.Integer.digitLimit = true
  | .bench => ∃ m, Completes around config loaded data m

/-- Which fault escapes from a run: one of a module, of the input, of the first pass that fails, of measuring, or that
of an event that cannot be written. -/
inductive Escapes (around : Surroundings) (given : Option Config) : Mode → Fault → Prop
  | target (mode : Mode) (config : Config) (f : Fault) (configured : effective around given = .ok config)
    (fails : around.catalog.load config.parser = .error f) (foreign : f.isHarness = false) :
    Escapes around given mode f
  | input (mode : Mode) (config : Config) (loaded : Loaded) (f : Fault)
    (configured : effective around given = .ok config) (loads : around.catalog.load config.parser = .ok loaded)
    (fails : around.input = .error f) (foreign : f.kind ≠ .system ∧ f.isHarness = false) :
    Escapes around given mode f
  | stream (config : Config) (loaded : Loaded) (data : Bytes) (events : List Event) (f : Fault)
    (ready : Ready around given config loaded data) (fails : loaded.parser.pass 0 data = .ofEvents events (some f))
    (fits : ∀ e ∈ events, e.fits Text.Integer.digitLimit = true) : Escapes around given .stream f
  | writing (config : Config) (loaded : Loaded) (data : Bytes) (events : List Event) (failure : Option Fault)
    (e : Event) (ready : Ready around given config loaded data)
    (reports : loaded.parser.pass 0 data = .ofEvents events failure) (member : e ∈ events)
    (overlong : ¬ e.fits Text.Integer.digitLimit = true) :
    Escapes around given .stream (.overlongNumeral Text.Integer.digitLimit)
  | bench (config : Config) (loaded : Loaded) (data : Bytes) (j : Nat) (f : Fault)
    (ready : Ready around given config loaded data) (fails : BreaksOff config loaded data j f) :
    Escapes around given .bench f
  | measuring (config : Config) (loaded : Loaded) (data : Bytes) (f : Fault)
    (ready : Ready around given config loaded data)
    (passes : ∀ i < config.iterations.toNat, (loaded.parser.pass i data).failure = none)
    (fails : Measurement.ofRun data.length (loaded.parser.pass (config.iterations.toNat - 1) data).entries.length
      ((around.clock 1).sub (around.clock 0)) config.iterations = .error f) :
    Escapes around given .bench f

section

variable {around : Surroundings} {given : Option Config}

theorem Ready.effective_eq {config : Config} {loaded : Loaded} {data : Bytes}
    (h : Ready around given config loaded data) : effective around given = .ok config := by
  rcases h.configured with rfl | ⟨rfl, henv⟩
  · rfl
  · exact henv

theorem ready_of_effective {config : Config} {loaded : Loaded} {data : Bytes}
    (hconfig : effective around given = .ok config) (hload : around.catalog.load config.parser = .ok loaded)
    (hread : around.input = .ok data) : Ready around given config loaded data where
  configured := by
    cases given with
    | some c => exact .inl (congrArg some (Except.ok.inj hconfig))
    | none => exact .inr ⟨rfl, hconfig⟩
  loads := hload
  reads := by rw [hread]; rfl

theorem diagnostic_eq (message : String) : diagnostic message = "run-parser: " ++ message ++ "\n" := by
  have hprogram : Log.program ++ ": " = "run-parser: " := by decide
  rw [diagnostic, hprogram]

theorem refuse_own (f : Fault) (log : String) (h : f.isHarness = true) :
    refuse f log = (.returned 1, log ++ "run-parser: " ++ f.message ++ "\n") := by
  rw [refuse, if_pos h, diagnostic_eq, ← String.append_assoc, ← String.append_assoc]

theorem refuse_foreign (f : Fault) (log : String) (h : f.isHarness = false) : refuse f log = (.failed f, log) := by
  rw [refuse, h]
  rfl

theorem run_of_refuses {r : Refusal} (h : Refuses around given r) (arguments : List String) {mode : Mode}
    (hmode : RunParser.mode arguments = .ok mode) :
    run around given arguments =
      { ending := .returned 1
        errors := r.log ++ "run-parser: " ++ r.message ++ "\n"
        hasRead := r.hasRead } := by
  cases h with
  | configuration problem fails =>
    simp only [run, hmode, work, fails, diagnostic_eq]
    rfl
  | target _ config f configured fails own =>
    simp only [run_eq_course around mode given config configured arguments hmode, course, fails, refuse_own f "" own]
    rfl
  | unreadable _ config loaded f configured loads fails system =>
    have hread : around.input.read = .error (.unreadableInput f.message) := by rw [fails, Input.read, if_pos system]
    have hmessage : (Fault.unreadableInput f.message).message = "failed to read stdin: " ++ f.message := rfl
    simp only [run_eq_course around mode given config configured arguments hmode, course, loads, hread,
      refuse_own (.unreadableInput f.message) "" rfl, hmessage, String.empty_append, String.append_assoc]
    rfl
  | input _ config loaded f configured loads fails own =>
    have hsystem : f.kind ≠ .system := by
      intro hkind
      rw [Fault.isHarness, hkind] at own
      cases own
    have hread : around.input.read = .error f := by rw [fails, Input.read, if_neg hsystem]
    simp only [run_eq_course around mode given config configured arguments hmode, course, loads, hread,
      refuse_own f "" own, String.empty_append, String.append_assoc]
    rfl

/-- A parser reports events in all its passes over the input of a run. -/
def ReportsEvents (around : Surroundings) (given : Option Config) : Prop :=
  ∀ config loaded data, Ready around given config loaded data →
    ∀ k, ∃ events failure, loaded.parser.pass k data = .ofEvents events failure

theorem ending_of_succeeds {config : Config} {loaded : Loaded} {data : Bytes}
    (h : Ready around given config loaded data) (arguments : List String) {mode : Mode}
    (hmode : RunParser.mode arguments = .ok mode) (hsucceeds : Succeeds around config loaded data mode) :
    (run around given arguments).ending = .returned 0 := by
  cases mode with
  | stream =>
    obtain ⟨events, hpass, hfits⟩ := hsucceeds
    rw [run_stream h arguments hmode events none hpass]
    exact ofStream_of_fits hfits none
  | bench =>
    obtain ⟨m, hm⟩ := hsucceeds
    rw [run_bench_completed h arguments hmode hm]

theorem ending_of_escapes {mode : Mode} {f : Fault} (h : Escapes around given mode f) (arguments : List String)
    (hmode : RunParser.mode arguments = .ok mode) :
    (run around given arguments).ending = .failed f := by
  cases h with
  | target _ config _ configured fails foreign =>
    simp only [run_eq_course around mode given config configured arguments hmode, course, fails,
      refuse_foreign f "" foreign]
  | input _ config loaded _ configured loads fails foreign =>
    have hread : around.input.read = .error f := by rw [fails, Input.read, if_neg foreign.1]
    simp only [run_eq_course around mode given config configured arguments hmode, course, loads, hread,
      refuse_foreign f "" foreign.2]
  | stream config loaded data events _ ready fails fits =>
    rw [run_stream ready arguments hmode events (some f) fails]
    exact ofStream_of_fits fits (some f)
  | writing config loaded data events failure e ready reports member overlong =>
    rw [run_stream ready arguments hmode events failure reports]
    exact ofStream_of_not_fits member overlong failure
  | bench config loaded data j _ ready fails => rw [run_bench_failed ready arguments hmode fails]
  | measuring config loaded data _ ready passes fails =>
    have hmeasured : (Throughput.measure loaded.parser data config.iterations around.clock 0).result = .error f := by
      by_cases hn : config.iterations < 1
      · rw [Measurement.ofRun, if_pos hn] at fails
        obtain rfl := Except.error.inj fails
        rw [Throughput.measure, if_pos hn]
      · have hcompleted := Throughput.measure_completed loaded.parser data config.iterations around.clock 0
          (Int.not_lt.mp hn) fun i hi => by rw [Nat.zero_add]; exact passes i hi
        rw [Nat.zero_add, fails] at hcompleted
        rw [hcompleted]
    simp only [run_eq_course around .bench given config ready.effective_eq arguments hmode, course, ready.loads,
      ready.reads, parsing, hmeasured]

theorem completes_of_measured {config : Config} {loaded : Loaded} {data : Bytes} {m : Measurement}
    (hpasses : ∀ i < config.iterations.toNat, (loaded.parser.pass i data).failure = none)
    (hmeasured : Measurement.ofRun data.length (loaded.parser.pass (config.iterations.toNat - 1) data).entries.length
      ((around.clock 1).sub (around.clock 0)) config.iterations = .ok m) :
    Completes around config loaded data m := by
  refine ⟨?_, hpasses, hmeasured⟩
  by_contra hn
  rw [Measurement.ofRun, if_pos (Int.not_le.mp hn)] at hmeasured
  cases hmeasured

theorem succeeds_or_escapes {config : Config} {loaded : Loaded} {data : Bytes}
    (h : Ready around given config loaded data) (hevents : ReportsEvents around given) (mode : Mode) :
    Succeeds around config loaded data mode ∨ ∃ f, Escapes around given mode f := by
  cases mode with
  | stream =>
    obtain ⟨events, failure, hpass⟩ := hevents config loaded data h 0
    by_cases hfits : ∀ e ∈ events, e.fits Text.Integer.digitLimit = true
    · cases failure with
      | none => exact .inl ⟨events, hpass, hfits⟩
      | some f => exact .inr ⟨f, .stream config loaded data events f h hpass hfits⟩
    · rw [not_forall₂] at hfits
      obtain ⟨e, he, hlong⟩ := hfits
      exact .inr ⟨_, .writing config loaded data events failure e h hpass he hlong⟩
  | bench =>
    rcases completed_or_first_failure (loaded.parser.pass · data) config.iterations.toNat with
      hall | ⟨j, hj, hbefore, f, hfail⟩
    · cases hmeasured : Measurement.ofRun data.length
          (loaded.parser.pass (config.iterations.toNat - 1) data).entries.length
          ((around.clock 1).sub (around.clock 0)) config.iterations with
      | ok m => exact .inl ⟨m, completes_of_measured hall hmeasured⟩
      | error f => exact .inr ⟨f, .measuring config loaded data f h hall hmeasured⟩
    · exact .inr ⟨f, .bench config loaded data j f h ⟨hj, hbefore, hfail⟩⟩

theorem exists_refuses_iff :
    (∃ r, Refuses around given r) ↔
      (∃ problem, given = none ∧ Config.ofEnvironment around.environment = .error problem) ∨
      (∃ config f, effective around given = .ok config ∧ around.catalog.load config.parser = .error f ∧
        f.isHarness = true) ∨
      ∃ config loaded f, effective around given = .ok config ∧ around.catalog.load config.parser = .ok loaded ∧
        around.input = .error f ∧ (f.kind = .system ∨ f.isHarness = true) := by
  constructor
  · rintro ⟨r, hr⟩
    cases hr with
    | configuration problem fails => exact .inl ⟨problem, rfl, fails⟩
    | target _ config f configured fails own => exact .inr (.inl ⟨config, f, configured, fails, own⟩)
    | unreadable _ config loaded f configured loads fails system =>
      exact .inr (.inr ⟨config, loaded, f, configured, loads, fails, .inl system⟩)
    | input _ config loaded f configured loads fails own =>
      exact .inr (.inr ⟨config, loaded, f, configured, loads, fails, .inr own⟩)
  · rintro (⟨problem, rfl, hfails⟩ | ⟨config, f, hconfig, hload, hown⟩ |
      ⟨config, loaded, f, hconfig, hload, hinput, hsystem | hown⟩)
    · exact ⟨_, .configuration problem hfails⟩
    · exact ⟨_, .target given config f hconfig hload hown⟩
    · exact ⟨_, .unreadable given config loaded f hconfig hload hinput hsystem⟩
    · exact ⟨_, .input given config loaded f hconfig hload hinput hown⟩

theorem refuses_or_succeeds_or_escapes (hevents : ReportsEvents around given) (mode : Mode) :
    (∃ r, Refuses around given r) ∨
    (∃ config loaded data, Ready around given config loaded data ∧ Succeeds around config loaded data mode) ∨
    ∃ f, Escapes around given mode f := by
  cases hconfig : effective around given with
  | error problem =>
    cases given with
    | some config => cases hconfig
    | none => exact .inl ⟨_, .configuration problem hconfig⟩
  | ok config =>
    cases hload : around.catalog.load config.parser with
    | error f =>
      cases hown : f.isHarness with
      | true => exact .inl ⟨_, .target given config f hconfig hload hown⟩
      | false => exact .inr (.inr ⟨f, .target mode config f hconfig hload hown⟩)
    | ok loaded =>
      cases hinput : around.input with
      | error f =>
        by_cases hsystem : f.kind = .system
        · exact .inl ⟨_, .unreadable given config loaded f hconfig hload hinput hsystem⟩
        · cases hown : f.isHarness with
          | true => exact .inl ⟨_, .input given config loaded f hconfig hload hinput hown⟩
          | false => exact .inr (.inr ⟨f, .input mode config loaded f hconfig hload hinput ⟨hsystem, hown⟩⟩)
      | ok data =>
        have hready := ready_of_effective hconfig hload hinput
        rcases succeeds_or_escapes hready hevents mode with hsucceeds | hescapes
        · exact .inr (.inl ⟨config, loaded, data, hready, hsucceeds⟩)
        · exact .inr (.inr hescapes)

theorem run_ends (hevents : ReportsEvents around given) (arguments : List String) {mode : Mode}
    (hmode : RunParser.mode arguments = .ok mode) :
    let ending := (run around given arguments).ending
    (ending = .returned 1 ∧ ∃ r, Refuses around given r) ∨
    (ending = .returned 0 ∧ ∃ config loaded data, Ready around given config loaded data ∧
      Succeeds around config loaded data mode) ∨
    ∃ f, ending = .failed f ∧ Escapes around given mode f := by
  intro ending
  rcases refuses_or_succeeds_or_escapes hevents mode with ⟨r, hr⟩ | ⟨config, loaded, data, hready, hs⟩ | ⟨f, hf⟩
  · have hending : ending = .returned 1 := congrArg Outcome.ending (run_of_refuses hr arguments hmode)
    exact .inl ⟨hending, r, hr⟩
  · have hending := ending_of_succeeds hready arguments hmode hs
    exact .inr (.inl ⟨hending, config, loaded, data, hready, hs⟩)
  · have hending := ending_of_escapes hf arguments hmode
    exact .inr (.inr ⟨f, hending, hf⟩)

end

/-- A run ends with status 1 exactly if its configuration, its target or its input is refused, in this order; then it
leaves the log so far and one line with the cause, no output and no pass, and an input behind a refused target is not
read. A target is refused if it is unloadable, and if a module raises a fault of the harness. A run ends with status 0
exactly if nothing is refused, its passes are completed, the events of a stream can be written, and there is a
measurement where one is asked for. Every other fault comes out as it is. -/
theorem failure_exits_clean (around : Surroundings) (given : Option Config) (arguments : List String) (mode : Mode)
    (hmode : RunParser.mode arguments = .ok mode) (hevents : ReportsEvents around given) :
    let left := run around given arguments
    (left.ending = .returned 1 ↔ ∃ r, Refuses around given r) ∧
    (left.ending = .returned 1 ↔
      (∃ problem, given = none ∧ Config.ofEnvironment around.environment = .error problem) ∨
      (∃ config f, effective around given = .ok config ∧ around.catalog.load config.parser = .error f ∧
        f.isHarness = true) ∨
      ∃ config loaded f, effective around given = .ok config ∧ around.catalog.load config.parser = .ok loaded ∧
        around.input = .error f ∧ (f.kind = .system ∨ f.isHarness = true)) ∧
    (∀ r, Refuses around given r → left =
      { ending := .returned 1
        output := ""
        errors := r.log ++ "run-parser: " ++ r.message ++ "\n"
        started := 0
        hasRead := r.hasRead }) ∧
    (left.ending = .returned 0 ↔ ∃ config loaded data, Ready around given config loaded data ∧
      Succeeds around config loaded data mode) ∧
    ∀ f, left.ending = .failed f ↔ Escapes around given mode f := by
  intro left
  have hends := run_ends hevents arguments hmode
  have hrefuses (r : Refusal) (hr : Refuses around given r) := run_of_refuses hr arguments hmode
  have hone : left.ending = .returned 1 ↔ ∃ r, Refuses around given r := by
    constructor
    · intro hending
      rcases hends with ⟨-, hr⟩ | ⟨hother, -⟩ | ⟨f, hother, -⟩
      · exact hr
      · cases hending.symm.trans hother
      · cases hending.symm.trans hother
    · rintro ⟨r, hr⟩
      exact congrArg Outcome.ending (hrefuses r hr)
  refine ⟨hone, hone.trans exists_refuses_iff, hrefuses, ?_, ?_⟩
  · constructor
    · intro hending
      rcases hends with ⟨hother, -⟩ | ⟨-, hs⟩ | ⟨f, hother, -⟩
      · cases hending.symm.trans hother
      · exact hs
      · cases hending.symm.trans hother
    · rintro ⟨config, loaded, data, hready, hs⟩
      exact ending_of_succeeds hready arguments hmode hs
  · intro f
    constructor
    · intro hending
      rcases hends with ⟨hother, -⟩ | ⟨hother, -⟩ | ⟨g, hother, hg⟩
      · cases hending.symm.trans hother
      · cases hending.symm.trans hother
      · cases hending.symm.trans hother
        exact hg
    · intro hf
      exact ending_of_escapes hf arguments hmode

/-- One input that cannot be read behind a target that is loaded, and one that is read and measured. -/
theorem failure_exits_clean_unreadable :
    let parser : ParserClass := ⟨"Steady", "steady", "trials", fun _ _ => .ofEvents [⟨"A", none, 0, 0⟩]⟩
    let unread : Surroundings :=
      { catalog := Catalog.standard parser, input := .error (.raised .system "[Errno 5] text") }
    let refused := run unread (some ⟨"scripted", 2, .debug⟩) ["--bench"]
    let streamed := run { unread with input := .ok [0x0A] } (some ⟨"scripted", 2, .debug⟩) []
    refused.ending = .returned 1 ∧ refused.output = "" ∧ refused.started = 0 ∧
    refused.errors = "run-parser: DEBUG: descent_harness.parsers.loader: Loaded parser Steady from scripted\n"
      ++ "run-parser: failed to read stdin: [Errno 5] text\n" ∧
    streamed.ending = .returned 0 := by
  intro parser unread refused streamed
  have hevents (input : Input) :
      ReportsEvents { unread with input := input } (some ⟨"scripted", 2, .debug⟩) := by
    intro config loaded data hready k
    obtain rfl := Except.ok.inj hready.effective_eq
    obtain rfl := Except.ok.inj ((load_scripted parser).symm.trans hready.loads)
    exact ⟨_, _, rfl⟩
  obtain ⟨-, hlisted, hclean, -, -⟩ := failure_exits_clean unread (some ⟨"scripted", 2, .debug⟩) ["--bench"] .bench
    (by decide +kernel) (hevents _)
  obtain ⟨-, -, -, hzero, -⟩ := failure_exits_clean { unread with input := .ok [0x0A] }
    (some ⟨"scripted", 2, .debug⟩) [] .stream (by decide +kernel) (hevents _)
  have hrefused := hclean _ (.unreadable _ _ _ _ rfl (load_scripted parser) rfl rfl)
  refine ⟨hlisted.mpr (.inr (.inr ⟨_, _, _, rfl, load_scripted parser, rfl, .inl rfl⟩)), ?_, ?_, ?_, ?_⟩
  · exact congrArg Outcome.output hrefused
  · exact congrArg Outcome.started hrefused
  · decide +kernel
  · exact hzero.mpr ⟨_, _, _, ready_scripted parser rfl rfl rfl, _, rfl, by decide +kernel⟩

/-- A module that raises a fault of the harness refuses its target, which is not unloadable. An event that is too long
for a line keeps a run from its status, though its pass is completed. -/
theorem module_fault_exits_and_overlong_escapes :
    (¬ ∀ (around : Surroundings) (given : Option Config) (arguments : List String) (mode : Mode),
      RunParser.mode arguments = .ok mode → ReportsEvents around given →
      ((run around given arguments).ending = .returned 1 ↔
        (∃ problem, given = none ∧ Config.ofEnvironment around.environment = .error problem) ∨
        (∃ config reason, effective around given = .ok config ∧
          around.catalog.load config.parser = .error (.unloadable config.parser reason)) ∨
        ∃ config loaded f, effective around given = .ok config ∧ around.catalog.load config.parser = .ok loaded ∧
          around.input = .error f ∧ (f.kind = .system ∨ f.isHarness = true))) ∧
    ¬ ∀ (around : Surroundings) (given : Option Config) (arguments : List String) (config : Config) (loaded : Loaded)
      (data : Bytes), RunParser.mode arguments = .ok .stream → ReportsEvents around given →
      Ready around given config loaded data → (loaded.parser.pass 0 data).failure = none →
      (run around given arguments).ending = .returned 0 := by
  have hmode : RunParser.mode [] = .ok .stream := by decide +kernel
  constructor
  · intro h
    obtain ⟨around, hload⟩ : ∃ around : Surroundings,
        around.catalog.load "broken" = .error (.raised .harness "text") :=
      ⟨{ catalog := { modules := [{ name := "broken", body := .broken .harness "text" }] } }, rfl⟩
    have hevents : ReportsEvents around (some ⟨"broken", 1, .warning⟩) := by
      intro config loaded data hready
      obtain rfl := Except.ok.inj hready.effective_eq
      cases hload.symm.trans hready.loads
    have hrefuses : Refuses around (some ⟨"broken", 1, .warning⟩) { message := "text" } :=
      .target _ ⟨"broken", 1, .warning⟩ _ rfl hload rfl
    have hended := congrArg Outcome.ending (run_of_refuses hrefuses [] hmode)
    rcases (h around _ [] .stream hmode hevents).mp hended with ⟨_, hnone, -⟩ | ⟨config, reason, hconfig, hreason⟩ |
      ⟨config, loaded, f, hconfig, hloaded, -⟩
    · cases hnone
    · obtain rfl := Except.ok.inj hconfig
      cases hload.symm.trans hreason
    · obtain rfl := Except.ok.inj hconfig
      cases hload.symm.trans hloaded
  · intro h
    obtain ⟨around, config, loaded, e, hready, -, -, hpass, -, hlong⟩ := exists_ready_not_fits none
    have hevents : ReportsEvents around (some config) := by
      intro config' loaded' data hready' k
      obtain rfl := Except.ok.inj (hready.effective_eq.symm.trans hready'.effective_eq)
      obtain rfl := Except.ok.inj (hready.loads.symm.trans hready'.loads)
      exact ⟨_, _, hpass k data⟩
    have hended := h around _ [] config loaded [] hmode hevents hready (congrArg Pass.failure (hpass 0 []))
    have hescapes := ending_of_escapes
      (.writing config loaded [] [e] none e hready (hpass 0 []) (List.mem_singleton_self e) hlong) [] hmode
    cases hescapes.symm.trans hended

end EventBench.RunParser
