import EventBench.Proofs.Benchmark
import EventBench.Proofs.Statistics

namespace EventBench.Benchmark

open Statistics (sorted rank percentile IsPercentile)

/-- The extremes and the percentiles of a timing are those of a sample, and no rank leaves the sorted sample. -/
structure Timing.OrderStatistics (t : Timing) (xs : List Double) : Prop where
  least_mem : t.least ∈ xs
  least_le : ∀ x ∈ xs, t.least.le x = true
  greatest_mem : t.greatest ∈ xs
  le_greatest : ∀ x ∈ xs, x.le t.greatest = true
  least_le_p95 : t.least.le t.p95 = true
  p95_le_p99 : t.p95.le t.p99 = true
  p99_le_greatest : t.p99.le t.greatest = true
  p95_isPercentile : IsPercentile 95 xs t.p95
  p99_isPercentile : IsPercentile 99 xs t.p99
  p95_at_rank : (sorted xs)[rank 95 xs.length]? = some t.p95
  p99_at_rank : (sorted xs)[rank 99 xs.length]? = some t.p99

theorem Timing.eq_of_ofSample {xs : List Double} {t : Timing} (h : Timing.ofSample xs = .ok t) :
    t.least = Statistics.least xs ∧ t.greatest = Statistics.greatest xs ∧
    t.p95 = percentile 95 xs ∧ t.p99 = percentile 99 xs := by
  rw [ofSample] at h
  split at h
  · cases h
  · cases h
  · cases h
    exact ⟨rfl, rfl, rfl, rfl⟩

theorem Timing.orderStatistics_of_ofSample {xs : List Double} {t : Timing} (hne : xs ≠ []) (hn : xs.length < 2 ^ 40)
    (hfinite : ∀ x ∈ xs, x.isFinite = true) (h : Timing.ofSample xs = .ok t) : t.OrderStatistics xs := by
  obtain ⟨hleast, hgreatest, h95, h99⟩ := eq_of_ofSample h
  obtain ⟨hleastMem, hleastLe⟩ := Statistics.isLeast_least hne hfinite
  obtain ⟨hgreatestMem, hleGreatest⟩ := Statistics.isGreatest_greatest hne hfinite
  have hp95 := Statistics.isPercentile_percentile Statistics.faithful_95 hne hn hfinite
  have hp99 := Statistics.isPercentile_percentile Statistics.faithful_99 hne hn hfinite
  rw [← hleast] at hleastMem hleastLe
  rw [← hgreatest] at hgreatestMem hleGreatest
  rw [← h95] at hp95
  rw [← h99] at hp99
  refine ⟨hleastMem, hleastLe, hgreatestMem, hleGreatest, hleastLe _ hp95.mem, ?_, hleGreatest _ hp99.mem, hp95, hp99,
    ?_, ?_⟩
  · rw [h95, h99]
    exact Statistics.percentile_le Statistics.faithful_95 Statistics.faithful_99 (by decide) hne hn hfinite
  · rw [h95]
    exact Statistics.sorted_rank Statistics.faithful_95 hne hn
  · rw [h99]
    exact Statistics.sorted_rank Statistics.faithful_99 hne hn

theorem length_elapsed (clock : Clock) (n : Nat) : (elapsed clock n).length = n := by
  rw [elapsed, List.length_map, List.length_range]

/-- A benchmark that has a result timed the passes that its plan asks for, and its timing is that of all of them. -/
theorem timing_of_run {plan : Plan} {parser : ParserClass} {data : Bytes} {name : String} {clock : Clock} {k : Nat}
    {r : Result} (h : (run plan parser data name clock k).result = .ok r) :
    1 ≤ plan.iterations ∧ Timing.ofSample (elapsed clock plan.iterations.toNat) = .ok r.timing := by
  obtain ⟨hplan, -, timing, htiming, rfl⟩ := (run_eq_ok_iff plan parser data name clock k r).mp h
  exact ⟨hplan, htiming⟩

/-- The extremes and the percentiles of fewer than `2 ^ 40` finite elapsed times are order statistics of them, also if
times come again or are negative: those of any sample that has a timing, and so those that a run takes from its
clock. -/
theorem timings_are_order_statistics :
    (∀ (xs : List Double) (t : Timing), xs ≠ [] → xs.length < 2 ^ 40 → (∀ x ∈ xs, x.isFinite = true) →
      Timing.ofSample xs = .ok t → t.OrderStatistics xs) ∧
    ∀ (plan : Plan) (parser : ParserClass) (data : Bytes) (name : String) (clock : Clock) (k : Nat) (r : Result),
      let times := elapsed clock plan.iterations.toNat
      plan.iterations < 2 ^ 40 → (∀ x ∈ times, x.isFinite = true) →
      (run plan parser data name clock k).result = .ok r →
      1 ≤ plan.iterations ∧ times.length = plan.iterations ∧ r.timing.OrderStatistics times := by
  constructor
  · intro xs t hne hn hfinite ht
    exact Timing.orderStatistics_of_ofSample hne hn hfinite ht
  · intro plan parser data name clock k r times hn hfinite hr
    obtain ⟨hplan, htiming⟩ := timing_of_run hr
    have hlength : times.length = plan.iterations.toNat := length_elapsed clock _
    have hne : times ≠ [] := by
      apply List.ne_nil_of_length_pos
      omega
    exact ⟨hplan, by omega, Timing.orderStatistics_of_ofSample hne (by omega) hfinite htiming⟩

/-- A sample with members that come twice, and a clock that goes back once. -/
theorem timings_are_order_statistics_backward :
    let times := [3, -1, 3, 2, -1].map Double.ofInt
    let parser : ParserClass := ⟨"Steady", "steady", "trials", fun _ _ => .ofEvents [⟨"A", none, 0, 0⟩] none⟩
    let clock : Clock := fun i => Double.ofInt (if i = 3 then -1 else i)
    (∃ t, Timing.ofSample times = .ok t ∧ t.OrderStatistics times) ∧
    ∃ r, (run ⟨3, 1⟩ parser [] "steps" clock 0).result = .ok r ∧ r.timing.OrderStatistics (elapsed clock 3) := by
  intro times parser clock
  obtain ⟨t, ht⟩ := exists_ok_of_isOk (x := Timing.ofSample times) (by decide +kernel)
  obtain ⟨r, hr⟩ := exists_ok_of_isOk (x := (run ⟨3, 1⟩ parser [] "steps" clock 0).result) (by decide +kernel)
  refine ⟨⟨t, ht, ?_⟩, r, hr, ?_⟩
  · exact timings_are_order_statistics.1 times t (by decide) (by decide) (by decide +kernel) ht
  · exact (timings_are_order_statistics.2 ⟨3, 1⟩ parser [] "steps" clock 0 r (by decide) (by decide +kernel) hr).2.2

end EventBench.Benchmark
