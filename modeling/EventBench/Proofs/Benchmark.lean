import EventBench.Benchmark.Basic
import EventBench.Proofs.Measurement
import EventBench.Proofs.Tally

namespace EventBench.Benchmark

open Tally (ofPasses ofPasses_completed ofPasses_failed sizes length_sizes started_completed started_failed)

theorem Result.isSteady_iff (r : Result) : r.isSteady = true ↔ ∀ a ∈ r.counts, ∀ b ∈ r.counts, a = b := by
  unfold isSteady
  cases r.counts with
  | nil => simp
  | cons n ns =>
    simp only [List.all_eq_true, beq_iff_eq]
    constructor
    · intro h
      have hfirst : ∀ a ∈ n :: ns, a = n := by simpa using h
      intro a ha b hb
      rw [hfirst a ha, hfirst b hb]
    · intro h m hm
      exact h m (List.mem_cons_of_mem n hm) n List.mem_cons_self

section

variable {r : Result} {parser : ParserClass} {data : Bytes} {k n : Nat}

theorem Result.eventsPerPass_of_sizes (h : r.counts = sizes parser data k n) (hn : 0 < n) :
    r.eventsPerPass = (parser.pass (k + (n - 1)) data).entries.length := by
  rw [eventsPerPass, h, Tally.getLast?_sizes parser data k n hn]
  rfl

theorem Result.isSteady_of_sizes (h : r.counts = sizes parser data k n) :
    r.isSteady = true ↔ ∀ i < n, ∀ j < n,
      (parser.pass (k + i) data).entries.length = (parser.pass (k + j) data).entries.length := by
  rw [isSteady_iff, h]
  simp only [sizes, List.forall_mem_map, List.mem_range]

end

section

variable (plan : Plan) (parser : ParserClass) (data : Bytes) (name : String) (clock : Clock) (k : Nat)

/-- Once all passes are completed, the elapsed times decide what a benchmark leaves. -/
theorem run_timed (hplan : 1 ≤ plan.iterations)
    (h : ∀ i < plan.warmup.toNat + plan.iterations.toNat, (parser.pass (k + i) data).failure = none) :
    run plan parser data name clock k =
      match Timing.ofSample (elapsed clock plan.iterations.toNat) with
      | .error f =>
        { result := .error f
          started := plan.warmup.toNat + plan.iterations.toNat
          readings := 2 * plan.iterations.toNat }
      | .ok timing =>
        let result : Result := ⟨name, parser.label, data.length, plan.iterations,
          sizes parser data (k + plan.warmup.toNat) plan.iterations.toNat, timing⟩
        { result := .ok result
          started := plan.warmup.toNat + plan.iterations.toNat
          readings := 2 * plan.iterations.toNat
          records := [result.record] } := by
  have hfault : plan.fault? = none := if_neg (Int.not_lt.mpr hplan)
  have hwarm := ofPasses_completed parser data k plan.warmup.toNat fun i hi => h i (Nat.lt_add_right _ hi)
  have htimed := ofPasses_completed parser data (k + plan.warmup.toNat) plan.iterations.toNat fun i hi => by
    rw [Nat.add_assoc]
    exact h _ (Nat.add_lt_add_left hi _)
  cases htiming : Timing.ofSample (elapsed clock plan.iterations.toNat) <;>
    simp only [run, hfault, hwarm, started_completed, htimed, length_sizes, htiming]

/-- A benchmark all of whose passes are completed tells the sizes of those behind the warm-up. -/
theorem run_completed (timing : Timing) (hplan : 1 ≤ plan.iterations)
    (h : ∀ i < plan.warmup.toNat + plan.iterations.toNat, (parser.pass (k + i) data).failure = none)
    (htiming : Timing.ofSample (elapsed clock plan.iterations.toNat) = .ok timing) :
    let result : Result := ⟨name, parser.label, data.length, plan.iterations,
      sizes parser data (k + plan.warmup.toNat) plan.iterations.toNat, timing⟩
    run plan parser data name clock k =
      { result := .ok result
        started := plan.warmup.toNat + plan.iterations.toNat
        readings := 2 * plan.iterations.toNat
        records := [result.record] } := by
  intro result
  rw [run_timed plan parser data name clock k hplan h, htiming]

theorem run_untimed (f : Fault) (hplan : 1 ≤ plan.iterations)
    (h : ∀ i < plan.warmup.toNat + plan.iterations.toNat, (parser.pass (k + i) data).failure = none)
    (htiming : Timing.ofSample (elapsed clock plan.iterations.toNat) = .error f) :
    run plan parser data name clock k =
      { result := .error f
        started := plan.warmup.toNat + plan.iterations.toNat
        readings := 2 * plan.iterations.toNat } := by
  rw [run_timed plan parser data name clock k hplan h, htiming]

/-- If all passes have the same number of entries, every number that a benchmark tells is that one. -/
theorem run_uniform (size : Nat) (hplan : 1 ≤ plan.iterations)
    (hcompleted : ∀ i, (parser.pass i data).failure = none)
    (hsize : ∀ i, (parser.pass i data).entries.length = size)
    (htimed : (Timing.ofSample (elapsed clock plan.iterations.toNat)).isOk = true) :
    ∃ r, (run plan parser data name clock k).result = .ok r ∧ r.eventsPerPass = size ∧
      r.counts = List.replicate plan.iterations.toNat size ∧ r.isSteady = true := by
  obtain ⟨timing, htiming⟩ := exists_ok_of_isOk htimed
  have hrun := run_completed plan parser data name clock k timing hplan (fun i _ => hcompleted _) htiming
  have hcounts := Tally.sizes_uniform parser data (k + plan.warmup.toNat) plan.iterations.toNat size hsize
  refine ⟨_, congrArg Timed.result hrun, ?_, hcounts, ?_⟩
  · rw [Result.eventsPerPass_of_sizes rfl (by omega), hsize]
  · rw [Result.isSteady_iff, hcounts]
    intro a ha b hb
    rw [List.eq_of_mem_replicate ha, List.eq_of_mem_replicate hb]

/-- The first pass that fails ends a benchmark, whether it warms up or is timed. -/
theorem run_failed (j : Nat) (f : Fault) (hplan : 1 ≤ plan.iterations)
    (hj : j < plan.warmup.toNat + plan.iterations.toNat)
    (hbefore : ∀ i < j, (parser.pass (k + i) data).failure = none)
    (hfail : (parser.pass (k + j) data).failure = some f) :
    (run plan parser data name clock k).result = .error f ∧
    (run plan parser data name clock k).started = j + 1 ∧
    (run plan parser data name clock k).records = [] := by
  have hfault : plan.fault? = none := if_neg (Int.not_lt.mpr hplan)
  by_cases hwarming : j < plan.warmup.toNat
  · have hwarm := ofPasses_failed parser data k j plan.warmup.toNat f hwarming hbefore hfail
    simp only [run, hfault, hwarm, started_failed, and_self]
  · obtain ⟨i, rfl⟩ := Nat.exists_eq_add_of_le (Nat.le_of_not_lt hwarming)
    have hwarm := ofPasses_completed parser data k plan.warmup.toNat fun l hl => hbefore l (Nat.lt_add_right _ hl)
    have htimed := ofPasses_failed parser data (k + plan.warmup.toNat) i plan.iterations.toNat f
      (Nat.lt_of_add_lt_add_left hj)
      (fun l hl => by
        rw [Nat.add_assoc]
        exact hbefore _ (Nat.add_lt_add_left hl _))
      (by rw [Nat.add_assoc]; exact hfail)
    simp only [run, hfault, hwarm, started_completed, htimed, started_failed, Nat.add_assoc, and_self]

/-- A benchmark has a result just if its plan times something, all of its passes are completed and its elapsed times
have statistics; and then it has this one. -/
theorem run_eq_ok_iff (r : Result) :
    (run plan parser data name clock k).result = .ok r ↔
    1 ≤ plan.iterations ∧
    (∀ i < plan.warmup.toNat + plan.iterations.toNat, (parser.pass (k + i) data).failure = none) ∧
    ∃ timing, Timing.ofSample (elapsed clock plan.iterations.toNat) = .ok timing ∧
      r = ⟨name, parser.label, data.length, plan.iterations,
        sizes parser data (k + plan.warmup.toNat) plan.iterations.toNat, timing⟩ := by
  constructor
  · intro h
    have hplan : 1 ≤ plan.iterations := by
      by_contra hfew
      have hfault : plan.fault? = some (.tooFewIterations plan.iterations) := if_pos (Int.not_le.mp hfew)
      simp only [run, hfault, reduceCtorEq] at h
    rcases completed_or_first_failure (fun i => parser.pass (k + i) data)
      (plan.warmup.toNat + plan.iterations.toNat) with hall | ⟨j, hj, hbefore, f, hfail⟩
    · refine ⟨hplan, hall, ?_⟩
      cases htiming : Timing.ofSample (elapsed clock plan.iterations.toNat) with
      | ok timing =>
        rw [run_completed plan parser data name clock k timing hplan hall htiming] at h
        exact ⟨timing, rfl, (Except.ok.inj h).symm⟩
      | error f =>
        rw [run_untimed plan parser data name clock k f hplan hall htiming] at h
        cases h
    · rw [(run_failed plan parser data name clock k j f hplan hj hbefore hfail).1] at h
      cases h
  · rintro ⟨hplan, hall, timing, htiming, rfl⟩
    rw [run_completed plan parser data name clock k timing hplan hall htiming]

end

/-- The drivers start the passes that they are asked for, one after the other and no others, whatever these
report. A measurement has the size of its last pass; a benchmark has the sizes of its timed passes and calls them
steady if all are the same. The first pass that fails is the last to be started, and its fault is all that is
left. -/
theorem passes_accounted (parser : ParserClass) (data : Bytes) (name : String) (clock : Clock) (k : Nat) (n w : Int)
    (hn : 1 ≤ n) :
    let pass := fun i => parser.pass (k + i) data
    let size := fun i => (pass i).entries.length
    let measured := Throughput.measure parser data n clock k
    let benchmarked := run ⟨n, w⟩ parser data name clock k
    ((∀ i < n.toNat, (pass i).failure = none) →
      (Measurement.ofRun data.length (size (n.toNat - 1)) ((clock 1).sub (clock 0)) n).isOk = true →
      ∃ m, measured.result = .ok m ∧ m.events = size (n.toNat - 1) ∧ measured.started = n.toNat) ∧
    (∀ j < n.toNat, ∀ f, (∀ i < j, (pass i).failure = none) → (pass j).failure = some f →
      measured.result = .error f ∧ measured.started = j + 1 ∧ measured.records = []) ∧
    ((∀ i < w.toNat + n.toNat, (pass i).failure = none) →
      (Timing.ofSample (elapsed clock n.toNat)).isOk = true →
      ∃ r, benchmarked.result = .ok r ∧
        r.counts = (List.range n.toNat).map (fun i => size (w.toNat + i)) ∧
        r.eventsPerPass = size (w.toNat + (n.toNat - 1)) ∧
        (r.isSteady = true ↔ ∀ i < n.toNat, ∀ j < n.toNat, size (w.toNat + i) = size (w.toNat + j)) ∧
        benchmarked.started = w.toNat + n.toNat) ∧
    (∀ j < w.toNat + n.toNat, ∀ f, (∀ i < j, (pass i).failure = none) → (pass j).failure = some f →
      benchmarked.result = .error f ∧ benchmarked.started = j + 1 ∧ benchmarked.records = []) := by
  intro pass size measured benchmarked
  refine ⟨?_, ?_, ?_, ?_⟩
  · intro hpasses hok
    have hmeasured := Throughput.measure_completed parser data n clock k hn hpasses
    obtain ⟨m, hm⟩ := exists_ok_of_isOk hok
    refine ⟨m, ?_, Measurement.events_of_ofRun _ _ _ _ m hm, congrArg Timed.started hmeasured⟩
    rw [← hm]
    exact congrArg Timed.result hmeasured
  · intro j hj f hbefore hfail
    have hmeasured := Throughput.measure_failed parser data n clock k j f hj hbefore hfail
    exact ⟨congrArg Timed.result hmeasured, congrArg Timed.started hmeasured, congrArg Timed.records hmeasured⟩
  · intro hpasses hok
    obtain ⟨timing, htiming⟩ := exists_ok_of_isOk hok
    have hrun := run_completed ⟨n, w⟩ parser data name clock k timing hn hpasses htiming
    have hcounts : sizes parser data (k + w.toNat) n.toNat = (List.range n.toNat).map fun i => size (w.toNat + i) := by
      simp only [sizes, size, pass, Nat.add_assoc]
    refine ⟨_, congrArg Timed.result hrun, hcounts, ?_, ?_, congrArg Timed.started hrun⟩
    · have hlast := Tally.getLast?_sizes parser data (k + w.toNat) n.toNat (by omega)
      rw [Nat.add_assoc] at hlast
      rw [Result.eventsPerPass, hlast]
      rfl
    · rw [Result.isSteady_iff, hcounts]
      simp only [List.forall_mem_map, List.mem_range]
  · intro j hj f hbefore hfail
    exact run_failed ⟨n, w⟩ parser data name clock k j f hn hj hbefore hfail

/-- A parser that reports one event more in every pass, and whose fourth pass fails. -/
theorem passes_accounted_drifting :
    let late : Fault := .raised .value "late"
    let parser : ParserClass := ⟨"Drifting", "drifting", "trials", fun i _ =>
      .ofEvents (List.replicate (i + 1) ⟨"A", none, 0, 0⟩) (if i = 3 then some late else none)⟩
    let clock : Clock := fun i => Double.ofInt i
    (∃ m, (Throughput.measure parser [] 2 clock 0).result = .ok m ∧ m.events = 2) ∧
    (∃ r, (run ⟨2, 1⟩ parser [] "drift" clock 0).result = .ok r ∧ r.counts = [2, 3] ∧ r.isSteady = false) ∧
    (run ⟨2, 2⟩ parser [] "drift" clock 0).result = .error late ∧
    (run ⟨2, 2⟩ parser [] "drift" clock 0).started = 4 := by
  intro late parser clock
  have honce := passes_accounted parser [] "drift" clock 0 2 1 (by decide)
  have htwice := passes_accounted parser [] "drift" clock 0 2 2 (by decide)
  obtain ⟨m, hm, hevents, -⟩ := honce.1 (by decide) (by decide +kernel)
  obtain ⟨r, hr, hcounts, -, hsteady, -⟩ := honce.2.2.1 (by decide) (by decide +kernel)
  obtain ⟨hfailed, hstarted, -⟩ := htwice.2.2.2 3 (by decide) late (by decide) rfl
  refine ⟨⟨m, hm, hevents⟩, ⟨r, hr, hcounts, ?_⟩, hfailed, hstarted⟩
  rw [← Bool.not_eq_true, hsteady]
  decide

end EventBench.Benchmark
