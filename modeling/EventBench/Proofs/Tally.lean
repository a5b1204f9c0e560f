import EventBench.Tally

namespace EventBench

/-- Of passes in a row either all are completed or one is the first that fails. -/
theorem completed_or_first_failure (pass : Nat → Pass) (n : Nat) :
    (∀ i < n, (pass i).failure = none) ∨
      ∃ j < n, (∀ i < j, (pass i).failure = none) ∧ ∃ f, (pass j).failure = some f := by
  induction n with
  | zero => exact .inl fun i hi => absurd hi (Nat.not_lt_zero i)
  | succ n ih =>
    rcases ih with hall | ⟨j, hj, hfirst⟩
    · cases hlast : (pass n).failure with
      | none =>
        left
        intro i hi
        rcases Nat.lt_succ_iff_lt_or_eq.mp hi with hi | rfl
        · exact hall i hi
        · exact hlast
      | some f => exact .inr ⟨n, Nat.lt_succ_self n, hall, f, hlast⟩
    · exact .inr ⟨j, Nat.lt_succ_of_lt hj, hfirst⟩

namespace Tally

variable (parser : ParserClass) (data : Bytes)

/-- The numbers of entries of `n` passes in a row, of which `k` is the first. -/
def sizes (k n : Nat) : List Nat :=
  (List.range n).map fun i => (parser.pass (k + i) data).entries.length

theorem length_sizes (k n : Nat) : (sizes parser data k n).length = n := by
  rw [sizes, List.length_map, List.length_range]

theorem sizes_succ (k n : Nat) :
    sizes parser data k (n + 1) = (parser.pass k data).entries.length :: sizes parser data (k + 1) n := by
  simp [sizes, List.range_succ_eq_map, Nat.add_assoc, Nat.add_comm 1]

theorem getLast?_sizes (k n : Nat) (hn : 0 < n) :
    (sizes parser data k n).getLast? = some (parser.pass (k + (n - 1)) data).entries.length := by
  have hlast : n - 1 < n := Nat.sub_lt hn Nat.one_pos
  rw [List.getLast?_eq_getElem?, length_sizes, sizes, List.getElem?_map, List.getElem?_range hlast]
  rfl

theorem sizes_uniform (k n size : Nat) (h : ∀ i, (parser.pass i data).entries.length = size) :
    sizes parser data k n = List.replicate n size := by
  simp only [sizes, h, List.map_const', List.length_range]

theorem ofPasses_step (k n : Nat) (h : (parser.pass k data).failure = none) :
    ofPasses parser data k (n + 1) = ⟨(parser.pass k data).entries.length :: (ofPasses parser data (k + 1) n).counts,
      (ofPasses parser data (k + 1) n).failure⟩ := by
  rw [ofPasses, Pass.count_eq, h]

theorem ofPasses_stop (k n : Nat) (f : Fault) (h : (parser.pass k data).failure = some f) :
    ofPasses parser data k (n + 1) = ⟨[], some f⟩ := by
  rw [ofPasses, Pass.count_eq, h]

theorem ofPasses_completed (k n : Nat) (h : ∀ i < n, (parser.pass (k + i) data).failure = none) :
    ofPasses parser data k n = ⟨sizes parser data k n, none⟩ := by
  induction n generalizing k with
  | zero => rfl
  | succ n ih =>
    have htail : ofPasses parser data (k + 1) n = ⟨sizes parser data (k + 1) n, none⟩ := by
      apply ih
      intro i hi
      rw [Nat.add_assoc, Nat.add_comm 1]
      exact h (i + 1) (Nat.succ_lt_succ hi)
    rw [ofPasses_step parser data k n (h 0 (Nat.succ_pos n)), htail, sizes_succ]

theorem ofPasses_failed (k j n : Nat) (f : Fault) (hj : j < n)
    (hbefore : ∀ i < j, (parser.pass (k + i) data).failure = none)
    (hfail : (parser.pass (k + j) data).failure = some f) :
    ofPasses parser data k n = ⟨sizes parser data k j, some f⟩ := by
  obtain ⟨n, rfl⟩ := Nat.exists_eq_add_one.mpr (Nat.zero_lt_of_lt hj)
  induction j generalizing k n with
  | zero => exact ofPasses_stop parser data k n f hfail
  | succ j ih =>
    obtain ⟨n, rfl⟩ := Nat.exists_eq_add_one.mpr (Nat.zero_lt_of_lt (Nat.lt_of_succ_lt_succ hj))
    have hshift (i : Nat) : k + 1 + i = k + (i + 1) := by omega
    have htail : ofPasses parser data (k + 1) (n + 1) = ⟨sizes parser data (k + 1) j, some f⟩ := by
      apply ih
      · intro i hi
        rw [hshift]
        exact hbefore (i + 1) (Nat.succ_lt_succ hi)
      · rw [hshift]
        exact hfail
      · exact Nat.lt_of_succ_lt_succ hj
    rw [ofPasses_step parser data k _ (hbefore 0 (Nat.succ_pos j)), htail, sizes_succ]

theorem started_completed (k n : Nat) : started ⟨sizes parser data k n, none⟩ = n := by
  rw [started, length_sizes]
  rfl

theorem started_failed (k j : Nat) (f : Fault) : started ⟨sizes parser data k j, some f⟩ = j + 1 := by
  rw [started, length_sizes]
  rfl

end Tally

namespace Throughput

variable (parser : ParserClass) (data : Bytes) (iterations : Int) (clock : Clock) (k : Nat)

/-- If every pass is completed, the events measured are those of the last one. -/
theorem measure_completed (hn : 1 ≤ iterations)
    (h : ∀ i < iterations.toNat, (parser.pass (k + i) data).failure = none) :
    measure parser data iterations clock k =
      { result := Measurement.ofRun data.length (parser.pass (k + (iterations.toNat - 1)) data).entries.length
          ((clock 1).sub (clock 0)) iterations
        started := iterations.toNat
        readings := 2
        records := [record iterations data.length ((clock 1).sub (clock 0))] } := by
  have hpos : 0 < iterations.toNat := by omega
  rw [measure, if_neg (Int.not_lt.mpr hn)]
  dsimp only
  rw [Tally.ofPasses_completed parser data k _ h]
  dsimp only
  rw [Tally.getLast?_sizes parser data k _ hpos, Tally.started_completed]
  rfl

/-- The first pass that fails ends the measuring, and its fault is the result. -/
theorem measure_failed (j : Nat) (f : Fault) (hj : j < iterations.toNat)
    (hbefore : ∀ i < j, (parser.pass (k + i) data).failure = none)
    (hfail : (parser.pass (k + j) data).failure = some f) :
    measure parser data iterations clock k = { result := .error f, started := j + 1, readings := 1 } := by
  have hn : 1 ≤ iterations := by omega
  rw [measure, if_neg (Int.not_lt.mpr hn)]
  dsimp only
  rw [Tally.ofPasses_failed parser data k j _ f hj hbefore hfail]
  dsimp only
  rw [Tally.started_failed]

end Throughput

end EventBench
