import EventBench.Proofs.Measurement.Schema
import EventBench.Proofs.RunParser

namespace EventBench

/-- The two readings around what is timed: finite, not below zero, and not going back. -/
structure Clock.Forward (clock : Clock) : Prop where
  start : (clock 0).Bounded
  stop : (clock 1).Bounded
  nonneg : (clock 0).lt Double.zero = false
  le : (clock 1).lt (clock 0) = false

namespace RunParser

/-- At a level that leaves out the records of a run, as the default one does, bench mode that is completed writes its
summary and nothing else. The summary has the form of the schema just when the throughput is finite and the time is no
negative zero. So it has this form if no time passes, and also if the input has less than 2ᵏ bytes and a pass takes
2ᵏ⁻¹⁰⁴³ seconds or more. The size is a finite number because the bound on the input is beyond any memory. -/
theorem bench_summary_schema {around : Surroundings} {given : Option Config} {config : Config} {loaded : Loaded}
    {data : Bytes} (h : Ready around given config loaded data) (arguments : List String)
    (hmode : mode arguments = .ok .bench) (hquiet : Log.Level.debug.severity < (setup config).threshold)
    (hpasses : ∀ i < config.iterations.toNat, (loaded.parser.pass i data).failure = none)
    (hn : 1 ≤ config.iterations) (hconvert : (Double.ofInt config.iterations).isFinite = true)
    (hdata : data.length < Double.weight 1043) (hclock : around.clock.Forward) :
    ∃ size perIteration,
      Measurement.sizeOf data.length = .ok size ∧
      Measurement.share ((around.clock 1).sub (around.clock 0)) config.iterations = .ok perIteration ∧
      let throughput := Measurement.rate size perIteration
      let m : Measurement :=
        ⟨size, (loaded.parser.pass (config.iterations.toNat - 1) data).entries.length, perIteration, throughput⟩
      run around given arguments =
        { ending := .returned 0
          errors := m.line ++ "\n"
          started := config.iterations.toNat
          hasRead := true } ∧
      Text.lines (run around given arguments).errors.toList = [m.render] ∧
      (Text.Matches Measurement.schema m.render
        ↔ throughput.isFinite = true ∧ ¬ (around.clock 0 = Double.zero ∧ around.clock 1 = Double.zero.neg)) ∧
      (around.clock 1 = around.clock 0 → Text.Matches Measurement.schema m.render) ∧
      (∀ k part, data.length < Double.weight k → perIteration = .finite false part → Double.weight (k + 31) ≤ part →
        Text.Matches Measurement.schema m.render) := by
  obtain ⟨size, perIteration, hsize, hshare, hmeasured, hschema⟩ := Measurement.ofRun_schema data.length
    (loaded.parser.pass (config.iterations.toNat - 1) data).entries.length config.iterations hclock.start hclock.stop
    hclock.nonneg hclock.le hdata hn hconvert
  refine ⟨size, perIteration, hsize, hshare, ?_⟩
  intro throughput m
  have hrun := run_bench_completed h arguments hmode ⟨hn, hpasses, hmeasured⟩
  rw [written_of_debug _ (level_of_mem_benchRecords around.clock) hquiet, String.empty_append] at hrun
  refine ⟨hrun, ?_, hschema, ?_, ?_⟩
  · have htext : (m.line ++ "\n").toList = m.render ++ ['\n'] := by
      rw [String.toList_append, Measurement.line, String.toList_ofList]
      rfl
    rw [hrun]
    change Text.lines (m.line ++ "\n").toList = [m.render]
    rw [htext]
    exact Measurement.lines_render m (Int.natCast_nonneg _)
  · intro hsame
    obtain ⟨part, hnothing, hpart⟩ := Measurement.share_eq false 0 config.iterations (Nat.zero_le _) hn hconvert
    rw [hsame, Double.sub_self hclock.start, Double.zero, hnothing, hpart rfl] at hshare
    obtain rfl := Except.ok.inj hshare
    rw [hschema, Measurement.rate_zero, hsame]
    refine ⟨rfl, ?_⟩
    rintro ⟨hzero, hnegative⟩
    rw [hzero] at hnegative
    cases hnegative
  · rintro k part hk rfl hle
    rw [hschema]
    refine ⟨Measurement.rate_isFinite_of_le hsize hdata k hk hle, ?_⟩
    rintro ⟨hzero, hnegative⟩
    obtain ⟨part', hsigned, -⟩ := Measurement.share_eq true 0 config.iterations (Nat.zero_le _) hn hconvert
    rw [hzero, hnegative] at hshare
    cases hshare.symm.trans hsigned

/-- A quarter of a second for two passes over one byte. -/
theorem bench_summary_schema_seconds :
    let parser : ParserClass := ⟨"Steady", "steady", "trials", fun _ _ => .ofEvents [⟨"A", none, 0, 1⟩]⟩
    let around : Surroundings :=
      { catalog := Catalog.standard parser
        input := .ok [0x78]
        clock := fun i => if i = 0 then .ofBits 0x4059000000000000 else .ofBits 0x4059100000000000 }
    let left := run around (some ⟨"scripted", 2, .warning⟩) ["--bench"]
    left.ending = .returned 0 ∧ left.errors = "0.00 MB, 1 events, 0.125s/iter, 0.0 MB/s\n" ∧
    ∃ m : Measurement, Text.lines left.errors.toList = [m.render] ∧ Text.Matches Measurement.schema m.render := by
  intro parser around left
  have hclock : around.clock.Forward :=
    { start := Double.bounded_ofBits 0x4059000000000000 (by decide)
      stop := Double.bounded_ofBits 0x4059100000000000 (by decide)
      nonneg := by decide +kernel
      le := by decide +kernel }
  have hready : Ready around (some ⟨"scripted", 2, .warning⟩) ⟨"scripted", 2, .warning⟩ ⟨parser, "scripted"⟩ [0x78] :=
    ready_scripted parser rfl rfl rfl
  obtain ⟨size, perIteration, -, hshare, hrun, hlines, -, -, hslow⟩ := bench_summary_schema hready ["--bench"]
    (by decide +kernel) (by decide) (fun _ _ => rfl) (by decide) (by decide +kernel) (by decide +kernel) hclock
  have hpart : perIteration = .finite false (Double.weight 1071) := by
    have hshared : Measurement.share ((around.clock 1).sub (around.clock 0)) 2
        = .ok (.finite false (Double.weight 1071)) := by decide +kernel
    exact Except.ok.inj (hshare.symm.trans hshared)
  refine ⟨congrArg Outcome.ending hrun, by decide +kernel, _, hlines, ?_⟩
  exact hslow 1 (Double.weight 1071) (by decide) hpart (Double.weight_le (by decide))

/-- Two pairs of readings that do not go back, and neither summary has the form of the schema: the least time above zero
makes the throughput infinite, and a negative zero shows its sign. -/
theorem bench_summary_misses_schema :
    let parser : ParserClass := ⟨"Steady", "steady", "trials", fun _ _ => .ofEvents [⟨"A", none, 0, 1⟩]⟩
    let around (bits : Nat) : Surroundings :=
      { catalog := Catalog.standard parser
        input := .ok [0x78]
        clock := fun i => if i = 0 then .ofBits 0 else .ofBits bits }
    let instant := run (around 1) (some ⟨"scripted", 1, .warning⟩) ["--bench"]
    let signed := run (around 0x8000000000000000) (some ⟨"scripted", 1, .warning⟩) ["--bench"]
    (around 1).clock.Forward ∧ instant.ending = .returned 0 ∧
    instant.errors = "0.00 MB, 1 events, 0.000s/iter, inf MB/s\n" ∧
    (∀ line ∈ Text.lines instant.errors.toList, ¬ Text.Matches Measurement.schema line) ∧
    (around 0x8000000000000000).clock.Forward ∧ signed.ending = .returned 0 ∧
    signed.errors = "0.00 MB, 1 events, -0.000s/iter, 0.0 MB/s\n" ∧
    (∀ line ∈ Text.lines signed.errors.toList, ¬ Text.Matches Measurement.schema line) := by
  intro parser around instant signed
  have hforward (stop : Nat) (hfinite : (Double.ofBits stop).isFinite = true)
      (hle : (Double.ofBits stop).lt (.ofBits 0) = false) : (around stop).clock.Forward :=
    { start := Double.bounded_ofBits 0 (by decide)
      stop := Double.bounded_ofBits stop hfinite
      nonneg := (by decide : (Double.ofBits 0).lt Double.zero = false)
      le := hle }
  have hinstant : instant =
      { ending := .returned 0
        errors := "0.00 MB, 1 events, 0.000s/iter, inf MB/s\n"
        started := 1
        hasRead := true } := by decide +kernel
  have hsigned : signed =
      { ending := .returned 0
        errors := "0.00 MB, 1 events, -0.000s/iter, 0.0 MB/s\n"
        started := 1
        hasRead := true } := by decide +kernel
  have hlines : Text.lines "0.00 MB, 1 events, 0.000s/iter, inf MB/s\n".toList
      = ["0.00 MB, 1 events, 0.000s/iter, inf MB/s".toList] := by decide
  have hlines' : Text.lines "0.00 MB, 1 events, -0.000s/iter, 0.0 MB/s\n".toList
      = ["0.00 MB, 1 events, -0.000s/iter, 0.0 MB/s".toList] := by decide
  rw [hinstant, hsigned, hlines, hlines']
  refine ⟨hforward 1 (by decide) (by decide), rfl, rfl, ?_,
    hforward 0x8000000000000000 (by decide) (by decide), rfl, rfl, ?_⟩
  · intro line hline hmatches
    rw [List.mem_singleton] at hline
    exact Measurement.not_mem_of_matches_schema hmatches 'f' (by decide) (by rw [hline]; decide)
  · intro line hline hmatches
    rw [List.mem_singleton] at hline
    exact Measurement.not_mem_of_matches_schema hmatches '-' (by decide) (by rw [hline]; decide)

end RunParser

end EventBench
