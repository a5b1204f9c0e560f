import EventBench.MicroBenchmark
import EventBench.Proofs.Benchmark
import EventBench.Proofs.Benchmark.Report

namespace EventBench.MicroBenchmark

open Benchmark (Timing elapsed)
open Console (Plain spelt)

/-- The class that a request asks for. -/
def Loads (catalog : Catalog) (r : Request) (parser : ParserClass) : Prop :=
  ∃ target loaded, r.parser = some target ∧ catalog.load target = .ok loaded ∧ loaded.parser = parser

/-- Why nothing is timed, where the cause is told: a bad target, or else too few passes. -/
inductive Refuses (catalog : Catalog) (r : Request) : Fault → Prop
  | target (target : String) (f : Fault) (given : r.parser = some target) (fails : catalog.load target = .error f)
    (told : f.kind = .load ∨ f.isValue = true) : Refuses catalog r f
  | iterations (parser : ParserClass) (n : Int) (loads : Loads catalog r parser) (given : r.iterations = some n)
    (few : n < 1) : Refuses catalog r (.tooFewIterations n)

/-- What escapes before anything is timed: a fault of the target that nothing is told about, or the fault of the
first setting that was left blank. -/
inductive Escapes (catalog : Catalog) (r : Request) : Fault → Prop
  | blankParser (blank : r.parser = none) : Escapes catalog r (.blankSetting .parser)
  | target (target : String) (f : Fault) (given : r.parser = some target) (fails : catalog.load target = .error f)
    (untold : ¬ (f.kind = .load ∨ f.isValue = true)) : Escapes catalog r f
  | blankIterations (parser : ParserClass) (loads : Loads catalog r parser) (blank : r.iterations = none) :
    Escapes catalog r (.blankSetting .iterations)
  | blankInput (parser : ParserClass) (n : Int) (loads : Loads catalog r parser) (given : r.iterations = some n)
    (enough : 1 ≤ n) (blank : r.input = none) : Escapes catalog r (.blankSetting .input)
  | blankWarmup (parser : ParserClass) (n : Int) (text : String) (loads : Loads catalog r parser)
    (given : r.iterations = some n) (enough : 1 ≤ n) (reads : r.input = some text) (blank : r.warmup = none) :
    Escapes catalog r (.blankSetting .warmup)

/-- All that is needed to time passes over a text: `n` of them, after `w` that warm up. -/
structure Ready (catalog : Catalog) (r : Request) (parser : ParserClass) (text : String) (n w : Int) : Prop where
  loads : Loads catalog r parser
  iterations : r.iterations = some n
  enough : 1 ≤ n
  input : r.input = some text
  warmup : r.warmup = some w

def endingOf : Option Fault → Ending
  | some f => .failed f
  | none => .finished

/-- How a report comes out: whole, or else without the line of the label and all behind it. -/
inductive Shown (result : Benchmark.Result) : Ending → Bytes → Prop
  | whole (plain : Plain result.label) : Shown result .finished (spelt (Benchmark.Report.lines result ++ closing))
  | cut (f : Fault) (foreign : ¬ Plain result.label) (kind : f.kind = .encoding) :
    Shown result (.failed f) (spelt ((Benchmark.Report.lines result).take 4))

section

variable {catalog : Catalog} {r : Request} {f : Fault}

theorem refuses_or_escapes_or_ready (catalog : Catalog) (r : Request) :
    (∃ f, Refuses catalog r f) ∨ (∃ f, Escapes catalog r f) ∨
      ∃ parser text n w, Ready catalog r parser text n w := by
  cases hparser : r.parser with
  | none => exact .inr (.inl ⟨_, .blankParser hparser⟩)
  | some target =>
  cases hload : catalog.load target with
  | error f =>
    by_cases htold : f.kind = .load ∨ f.isValue = true
    · exact .inl ⟨f, .target target f hparser hload htold⟩
    · exact .inr (.inl ⟨f, .target target f hparser hload htold⟩)
  | ok loaded =>
  have hloads : Loads catalog r loaded.parser := ⟨target, loaded, hparser, hload, rfl⟩
  cases hiterations : r.iterations with
  | none => exact .inr (.inl ⟨_, .blankIterations _ hloads hiterations⟩)
  | some n =>
  by_cases hfew : n < 1
  · exact .inl ⟨_, .iterations _ n hloads hiterations hfew⟩
  have henough : 1 ≤ n := Int.not_lt.mp hfew
  cases hinput : r.input with
  | none => exact .inr (.inl ⟨_, .blankInput _ n hloads hiterations henough hinput⟩)
  | some text =>
  cases hwarmup : r.warmup with
  | none => exact .inr (.inl ⟨_, .blankWarmup _ n text hloads hiterations henough hinput hwarmup⟩)
  | some w => exact .inr (.inr ⟨_, text, n, w, hloads, hiterations, henough, hinput, hwarmup⟩)

theorem prepare_target {target : String} (hparser : r.parser = some target) (hload : catalog.load target = .error f) :
    prepare catalog r = .error f := by
  simp only [prepare, hparser, required, hload, bind, Except.bind]

theorem prepare_loads {parser : ParserClass} (h : Loads catalog r parser) :
    prepare catalog r =
      match r.iterations with
      | none => .error (.blankSetting .iterations)
      | some n => if n < 1 then .error (.tooFewIterations n) else .ok (parser, n) := by
  obtain ⟨target, loaded, hparser, hload, rfl⟩ := h
  cases hn : r.iterations with
  | none => simp only [prepare, hparser, required, hload, hn, bind, Except.bind]
  | some n =>
    simp only [prepare, hparser, required, hload, hn, bind, Except.bind]
    split <;> rfl

theorem prepare_ok {parser : ParserClass} {n : Int} (h : Loads catalog r parser) (hn : r.iterations = some n)
    (henough : 1 ≤ n) : prepare catalog r = .ok (parser, n) := by
  rw [prepare_loads h, hn]
  exact if_neg (Int.not_lt.mpr henough)

theorem refuse_told (h : f.kind = .load ∨ f.isValue = true) :
    refuse f = { ending := .exited 1, errors := "Error: " ++ f.message ++ "\n" } :=
  if_pos h

theorem refuse_untold (h : ¬ (f.kind = .load ∨ f.isValue = true)) : refuse f = { ending := .failed f } :=
  if_neg h

theorem work_of_unprepared (clock : Clock) (h : prepare catalog r = .error f) : work catalog clock r = refuse f := by
  rw [work, h]

theorem work_of_unprovided (clock : Clock) {parser : ParserClass} {n : Int}
    (hprepare : prepare catalog r = .ok (parser, n)) (hprovide : provide r = .error f) :
    work catalog clock r = { ending := .failed f } := by
  simp only [work, hprepare, hprovide]

theorem work_of_refuses (clock : Clock) (h : Refuses catalog r f) :
    work catalog clock r = { ending := .exited 1, errors := "Error: " ++ f.message ++ "\n" } := by
  cases h with
  | target target f given fails told => rw [work_of_unprepared clock (prepare_target given fails), refuse_told told]
  | iterations parser n loads given few =>
    have hprepare : prepare catalog r = .error (.tooFewIterations n) := by
      rw [prepare_loads loads, given]
      exact if_pos few
    rw [work_of_unprepared clock hprepare, refuse_told (.inr rfl)]

theorem work_of_escapes (clock : Clock) (h : Escapes catalog r f) : work catalog clock r = { ending := .failed f } := by
  cases h with
  | blankParser blank =>
    have hprepare : prepare catalog r = .error (.blankSetting .parser) := by
      simp only [prepare, blank, required, bind, Except.bind]
    rw [work_of_unprepared clock hprepare, refuse_untold (by decide)]
  | target target f given fails untold =>
    rw [work_of_unprepared clock (prepare_target given fails), refuse_untold untold]
  | blankIterations parser loads blank =>
    have hprepare : prepare catalog r = .error (.blankSetting .iterations) := by rw [prepare_loads loads, blank]
    rw [work_of_unprepared clock hprepare, refuse_untold (by decide)]
  | blankInput parser n loads given enough blank =>
    have hprovide : provide r = .error (.blankSetting .input) := by
      simp only [provide, blank, required, bind, Except.bind]
    exact work_of_unprovided clock (prepare_ok loads given enough) hprovide
  | blankWarmup parser n text loads given enough reads blank =>
    have hprovide : provide r = .error (.blankSetting .warmup) := by
      simp only [provide, reads, blank, required, bind, Except.bind]
    exact work_of_unprovided clock (prepare_ok loads given enough) hprovide

end

theorem report_shown (result : Benchmark.Result) (hname : Plain result.name) :
    ∃ console failure, report result = (console, failure) ∧ Shown result (endingOf failure) console.bytes := by
  have hheading := Benchmark.Report.plain_heading hname
  by_cases hlabel : Plain result.label
  · have hlines : ∀ line ∈ Benchmark.Report.lines result ++ closing, Plain line := by
      rw [List.forall_mem_append]
      exact ⟨Benchmark.Report.plain_lines hname hlabel, by decide⟩
    obtain ⟨console, hwrite, -, hbytes⟩ := Console.writeLines_plain {} _ rfl hlines
    have hwhole : console.bytes = spelt (Benchmark.Report.lines result ++ closing) :=
      hbytes.trans (List.nil_append _)
    exact ⟨console, none, hwrite, hwhole ▸ .whole hlabel⟩
  · obtain ⟨later, hsplit⟩ := Benchmark.Report.exists_eq_heading_append result
    have hforeign : ¬ Plain ("  Parser:            " ++ result.label) := mt Plain.of_append_right hlabel
    obtain ⟨console, f, hwrite, hkind, hbytes⟩ :=
      Console.writeLines_foreign {} _ _ (later ++ closing) rfl hheading hforeign
    have hcut : console.bytes = spelt ((Benchmark.Report.lines result).take 4) := hbytes.trans (List.nil_append _)
    refine ⟨console, some f, ?_, hcut ▸ .cut f hlabel hkind⟩
    rw [report, hsplit, List.append_assoc, List.cons_append]
    exact hwrite

section

variable {catalog : Catalog} {r : Request} {parser : ParserClass} {text : String} {n w : Int}

theorem provide_ok (h : Ready catalog r parser text n w) : provide r = .ok (Text.Utf8.encode text.toList, w) := by
  simp only [provide, h.input, h.warmup, required, bind, Except.bind]
  rfl

variable (clock : Clock)

theorem work_of_fault (h : Ready catalog r parser text n w) {f : Fault}
    (hfails : (Benchmark.run ⟨n, w⟩ parser (Text.Utf8.encode text.toList) Benchmark.defaultName clock 0).result
      = .error f) :
    work catalog clock r =
      { ending := .failed f
        started :=
          (Benchmark.run ⟨n, w⟩ parser (Text.Utf8.encode text.toList) Benchmark.defaultName clock 0).started } := by
  simp only [work, prepare_ok h.loads h.iterations h.enough, provide_ok h, hfails]

theorem work_of_result (h : Ready catalog r parser text n w) {result : Benchmark.Result} {console : Console}
    {failure : Option Fault}
    (hresult : (Benchmark.run ⟨n, w⟩ parser (Text.Utf8.encode text.toList) Benchmark.defaultName clock 0).result
      = .ok result)
    (hreport : report result = (console, failure)) :
    work catalog clock r =
      { ending := endingOf failure
        output := console.bytes
        result := some result
        started :=
          (Benchmark.run ⟨n, w⟩ parser (Text.Utf8.encode text.toList) Benchmark.defaultName clock 0).started } := by
  cases failure <;>
    simp only [work, prepare_ok h.loads h.iterations h.enough, provide_ok h, hresult, hreport, endingOf]

/-- The first pass that fails ends a run, and no other is started. -/
theorem work_broken_off (h : Ready catalog r parser text n w) (j : Nat) (f : Fault) (hj : j < w.toNat + n.toNat)
    (hbefore : ∀ i < j, (parser.pass i (Text.Utf8.encode text.toList)).failure = none)
    (hfail : (parser.pass j (Text.Utf8.encode text.toList)).failure = some f) :
    work catalog clock r = { ending := .failed f, started := j + 1 } := by
  obtain ⟨hresult, hstarted, -⟩ := Benchmark.run_failed ⟨n, w⟩ parser (Text.Utf8.encode text.toList)
    Benchmark.defaultName clock 0 j f h.enough hj (by simpa using hbefore) (by simpa using hfail)
  rw [work_of_fault clock h hresult, hstarted]

theorem work_untimed (h : Ready catalog r parser text n w) (f : Fault)
    (hpasses : ∀ i < w.toNat + n.toNat, (parser.pass i (Text.Utf8.encode text.toList)).failure = none)
    (htiming : Timing.ofSample (elapsed clock n.toNat) = .error f) :
    work catalog clock r = { ending := .failed f, started := w.toNat + n.toNat } := by
  have hrun := Benchmark.run_untimed ⟨n, w⟩ parser (Text.Utf8.encode text.toList) Benchmark.defaultName clock 0 f
    h.enough (by simpa using hpasses) htiming
  rw [work_of_fault clock h (congrArg Timed.result hrun), hrun]

theorem work_timed (h : Ready catalog r parser text n w) (timing : Timing)
    (hpasses : ∀ i < w.toNat + n.toNat, (parser.pass i (Text.Utf8.encode text.toList)).failure = none)
    (htiming : Timing.ofSample (elapsed clock n.toNat) = .ok timing) :
    let data := Text.Utf8.encode text.toList
    let result : Benchmark.Result :=
      ⟨Benchmark.defaultName, parser.label, data.length, n, Tally.sizes parser data w.toNat n.toNat, timing⟩
    ∃ ending output, Shown result ending output ∧ work catalog clock r =
      { ending := ending, output := output, result := some result, started := w.toNat + n.toNat } := by
  intro data result
  have hrun := Benchmark.run_completed ⟨n, w⟩ parser data Benchmark.defaultName clock 0 timing h.enough
    (by simpa using hpasses) htiming
  rw [Nat.zero_add] at hrun
  have hname : Plain Benchmark.defaultName := by decide
  obtain ⟨console, failure, hreport, hshown⟩ := report_shown result hname
  refine ⟨endingOf failure, console.bytes, hshown, ?_⟩
  rw [work_of_result clock h (congrArg Timed.result hrun) hreport, hrun]

end

theorem run_of_request (catalog : Catalog) (clock : Clock) {arguments : List String} {r : Request}
    (h : request arguments = .ok r) : run catalog clock arguments = work catalog clock r := by
  rw [run, h]

/-- The text of a result: its size, the events of the last pass that was timed, and a warning of drift, which the
passes that warm up have no part in. -/
theorem tells_sizes (parser : ParserClass) (data : Bytes) (name : String) (n w : Int) (timing : Timing) (hn : 1 ≤ n) :
    let size := fun i => (parser.pass i data).entries.length
    let result : Benchmark.Result :=
      ⟨name, parser.label, data.length, n, Tally.sizes parser data w.toNat n.toNat, timing⟩
    Benchmark.Report.Tells (Benchmark.Report.lines result ++ closing) data.length (size (w.toNat + n.toNat - 1))
      (∃ i < n.toNat, ∃ j < n.toNat, size (w.toNat + i) ≠ size (w.toNat + j)) := by
  intro size result
  have hpos : 0 < n.toNat := by omega
  have hlast : result.eventsPerPass = size (w.toNat + n.toNat - 1) := by
    have hplace : w.toNat + (n.toNat - 1) = w.toNat + n.toNat - 1 := by omega
    rw [← hplace]
    exact Benchmark.Result.eventsPerPass_of_sizes rfl hpos
  have hsteady : result.isSteady = true ↔
      ¬ ∃ i < n.toNat, ∃ j < n.toNat, size (w.toNat + i) ≠ size (w.toNat + j) := by
    rw [Benchmark.Result.isSteady_of_sizes rfl]
    simp only [not_exists, not_and, not_not, size]
  rw [← hlast]
  exact (Benchmark.Report.tells_lines result _ hsteady).append (by decide) (by decide) (by decide)

/-- A setup is told to be bad, or escapes as a fault, before anything is timed; and then nothing is. Else all passes
that were asked for are started, unless one of them fails, and the report tells the size of the text, the events of
the last pass and whether two timed passes differ in their events. It is cut off in front of a label that is no
ASCII. -/
theorem ready_or_nothing_timed (catalog : Catalog) (clock : Clock) (arguments : List String) (r : Request)
    (h : request arguments = .ok r) :
    let outcome := run catalog clock arguments
    (∀ f, Refuses catalog r f → outcome = { ending := .exited 1, errors := "Error: " ++ f.message ++ "\n" }) ∧
    (∀ f, Escapes catalog r f → outcome = { ending := .failed f }) ∧
    (∀ parser text n w, Ready catalog r parser text n w →
      let data := Text.Utf8.encode text.toList
      let pass := fun i => parser.pass i data
      let size := fun i => (pass i).entries.length
      let total := w.toNat + n.toNat
      (∀ j < total, ∀ f, (∀ i < j, (pass i).failure = none) → (pass j).failure = some f →
        outcome = { ending := .failed f, started := j + 1 }) ∧
      ((∀ i < total, (pass i).failure = none) →
        (∀ f, Timing.ofSample (elapsed clock n.toNat) = .error f →
          outcome = { ending := .failed f, started := total }) ∧
        (∀ timing, Timing.ofSample (elapsed clock n.toNat) = .ok timing →
          ∃ result ending output,
            outcome = { ending := ending, output := output, result := some result, started := total } ∧
            result.label = parser.label ∧ Shown result ending output ∧
            Benchmark.Report.Tells (Benchmark.Report.lines result ++ closing) data.length (size (total - 1))
              (∃ i < n.toNat, ∃ j < n.toNat, size (w.toNat + i) ≠ size (w.toNat + j))))) ∧
    ((∃ f, Refuses catalog r f) ∨ (∃ f, Escapes catalog r f) ∨
      ∃ parser text n w, Ready catalog r parser text n w) := by
  intro outcome
  have hwork : outcome = work catalog clock r := run_of_request catalog clock h
  refine ⟨?_, ?_, ?_, refuses_or_escapes_or_ready catalog r⟩
  · intro f hrefuses
    rw [hwork, work_of_refuses clock hrefuses]
  · intro f hescapes
    rw [hwork, work_of_escapes clock hescapes]
  intro parser text n w hready data pass size total
  constructor
  · intro j hj f hbefore hfail
    rw [hwork, work_broken_off clock hready j f hj hbefore hfail]
  intro hpasses
  constructor
  · intro f htiming
    rw [hwork, work_untimed clock hready f hpasses htiming]
  · intro timing htiming
    obtain ⟨ending, output, hshown, heq⟩ := work_timed clock hready timing hpasses htiming
    exact ⟨_, ending, output, hwork.trans heq, rfl, hshown,
      tells_sizes parser data Benchmark.defaultName n w timing hready.enough⟩

/-- Of three passes over a text of two bytes the last two are timed, and they differ. Without passes nothing is
timed. -/
theorem ready_or_nothing_timed_drifting :
    let parser : ParserClass := ⟨"Parser", "drifting", "scripted", fun i _ =>
      .ofEvents (List.replicate (i + 1) ⟨"A", none, 0, 0⟩) none⟩
    let catalog := Catalog.standard parser
    let clock : Clock := fun i => Double.ofInt i
    (∃ result, let outcome := run catalog clock ["-p", "scripted", "-i", "2", "-w", "1", "--input", "é"]
      outcome.ending = .finished ∧ outcome.result = some result ∧ outcome.started = 3 ∧
        outcome.output = spelt (Benchmark.Report.lines result ++ closing) ∧
        Benchmark.Report.told "  Events per parse:  " (Benchmark.Report.lines result ++ closing) = [['3']] ∧
        Benchmark.Report.told "  WARNING: " (Benchmark.Report.lines result ++ closing) =
          ["event count varied between iterations".toList]) ∧
    run catalog clock ["-p", "scripted", "-i", "0"] =
      { ending := .exited 1, errors := "Error: iterations must be >= 1, got 0\n" } := by
  intro parser catalog clock
  have hloads (r : Request) (h : r.parser = some "scripted") : Loads catalog r parser :=
    ⟨"scripted", ⟨parser, "scripted"⟩, h, rfl, rfl⟩
  constructor
  · have hrequest : request ["-p", "scripted", "-i", "2", "-w", "1", "--input", "é"] =
        .ok ⟨some 2, some 1, some "scripted", some "é"⟩ := by decide +kernel
    have hready : Ready catalog ⟨some 2, some 1, some "scripted", some "é"⟩ parser "é" 2 1 :=
      ⟨hloads _ rfl, rfl, by decide, rfl, rfl⟩
    obtain ⟨-, -, hrun, -⟩ := ready_or_nothing_timed catalog clock _ _ hrequest
    obtain ⟨timing, htiming⟩ := exists_ok_of_isOk
      (show (Timing.ofSample (elapsed clock 2)).isOk = true by decide +kernel)
    obtain ⟨result, ending, output, houtcome, hlabel, hshown, htells⟩ :=
      ((hrun parser "é" 2 1 hready).2 (fun _ _ => rfl)).2 timing htiming
    have hplain : Plain result.label := by
      rw [hlabel]
      decide
    refine ⟨result, ?_⟩
    rw [houtcome]
    cases hshown with
    | cut f foreign kind => exact absurd hplain foreign
    | whole plain =>
      refine ⟨rfl, rfl, rfl, rfl, htells.events.trans (by decide +kernel), ?_⟩
      rcases htells.warning with ⟨htold, -⟩ | ⟨-, hsteady⟩
      · exact htold
      · exact absurd ⟨0, by decide, 1, by decide, by decide⟩ hsteady
  · have hrequest : request ["-p", "scripted", "-i", "0"] =
        .ok ⟨some 0, some 100, some "scripted", some "hello world"⟩ := by decide +kernel
    exact (ready_or_nothing_timed catalog clock _ _ hrequest).1 _ (.iterations parser 0 (hloads _ rfl) rfl (by decide))

/-- A text left blank keeps a good parser from the passes that are asked for, and a label that is no ASCII keeps the
size of the text out of the report on a result. -/
theorem blank_text_or_foreign_label :
    (¬ ∀ (catalog : Catalog) (clock : Clock) (arguments : List String) (r : Request) (parser : ParserClass) (n w : Int),
      request arguments = .ok r → Loads catalog r parser → r.iterations = some n → 1 ≤ n → r.warmup = some w →
      (∀ i data, (parser.pass i data).failure = none) →
      (run catalog clock arguments).started = w.toNat + n.toNat) ∧
    ¬ ∀ (catalog : Catalog) (clock : Clock) (arguments : List String) (result : Benchmark.Result),
      (run catalog clock arguments).result = some result →
      (run catalog clock arguments).output = spelt (Benchmark.Report.lines result ++ closing) := by
  constructor
  · intro h
    let parser : ParserClass := ⟨"Parser", "silent", "scripted", fun _ _ => ⟨[], none⟩⟩
    have hloads : Loads (Catalog.standard parser) ⟨some 1, some 0, some "scripted", none⟩ parser :=
      ⟨"scripted", ⟨parser, "scripted"⟩, rfl, rfl, rfl⟩
    have hrequest : request ["-p", "scripted", "-i", "1", "-w", "0", "--input=--"] =
        .ok ⟨some 1, some 0, some "scripted", none⟩ := by decide +kernel
    have hstarted := h (Catalog.standard parser) (fun _ => Double.zero) _ _ parser 1 0 hrequest hloads rfl (by decide)
      rfl (fun _ _ => rfl)
    exact absurd hstarted (by decide +kernel)
  · intro h
    let parser : ParserClass := ⟨"Parser", "é", "scripted", fun _ _ => ⟨[], none⟩⟩
    let clock : Clock := fun _ => Double.zero
    have hrequest : request ["-p", "scripted", "-i", "1", "-w", "0"] =
        .ok ⟨some 1, some 0, some "scripted", some "hello world"⟩ := by decide +kernel
    have hready : Ready (Catalog.standard parser) ⟨some 1, some 0, some "scripted", some "hello world"⟩
        parser "hello world" 1 0 :=
      ⟨⟨"scripted", ⟨parser, "scripted"⟩, rfl, rfl, rfl⟩, rfl, by decide, rfl, rfl⟩
    obtain ⟨timing, htiming⟩ := exists_ok_of_isOk
      (show (Timing.ofSample (elapsed clock 1)).isOk = true by decide +kernel)
    obtain ⟨ending, output, hshown, hwork⟩ := work_timed clock hready timing (fun _ _ => rfl) htiming
    have hrun := (run_of_request (Catalog.standard parser) clock hrequest).trans hwork
    have hwhole := h (Catalog.standard parser) clock _ _ (congrArg Outcome.result hrun)
    rw [congrArg Outcome.output hrun] at hwhole
    have hforeign : ¬ Plain "é" := by decide
    cases hshown with
    | whole plain => exact absurd plain hforeign
    | cut f foreign kind => exact Benchmark.Report.spelt_heading_ne _ _ hwhole

end EventBench.MicroBenchmark
