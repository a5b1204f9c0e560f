import Mathlib.Tactic.SplitIfs
import EventBench.Measurement
import EventBench.Proofs.Text.LineBreak
import EventBench.Proofs.Text.Numeral

namespace EventBench

theorem exists_ok_of_isOk {ε α : Type} {x : Except ε α} (h : x.isOk = true) : ∃ a, x = .ok a := by
  cases x with
  | error e => cases h
  | ok a => exact ⟨a, rfl⟩

namespace Fields

theorem read_ok_iff {α : Type} (fields : Fields) (name : String) (absent : Except Field.Cause α)
    (reader : Field.Value → Except Field.Cause α) (v : Field.Value) (a : α) (h : fields.lookup name = some v) :
    fields.read name absent reader = .ok a ↔ reader v = .ok a := by
  rw [read, h]
  dsimp only
  cases reader v <;> simp

end Fields

namespace Measurement

theorem eq_of_toMagnitude_double (x y : Double) (h : (Field.Value.double x).toMagnitude = .ok y) : y = x := by
  simp only [Field.Value.toMagnitude, Field.Value.toDouble] at h
  split_ifs at h
  exact (Except.ok.inj h).symm

theorem eq_of_toOffset_integer (m n : Int) (h : (Field.Value.integer m).toOffset = .ok n) : n = m := by
  simp only [Field.Value.toOffset, Field.Value.toInteger] at h
  split_ifs at h
  exact (Except.ok.inj h).symm

theorem eq_of_ofFields_toFields (m m' : Measurement) (h : ofFields m.toFields = .ok m') : m' = m := by
  unfold ofFields at h
  dsimp only at h
  split at h
  · rename_i size events perIteration throughput hsize hevents hperIteration hthroughput
    rw [Fields.read_ok_iff _ _ _ _ _ _ rfl] at hsize hevents hperIteration hthroughput
    rw [← Except.ok.inj h, eq_of_toMagnitude_double _ _ hsize, eq_of_toOffset_integer _ _ hevents,
      eq_of_toMagnitude_double _ _ hperIteration, eq_of_toMagnitude_double _ _ hthroughput]
  · cases h

/-- The measurement of a run is made of the size, of its events, and of its time. -/
theorem eq_of_ofRun (bytes events : Int) (total : Double) (iterations : Int) (m : Measurement)
    (h : ofRun bytes events total iterations = .ok m) :
    ∃ size perIteration, sizeOf bytes = .ok size ∧ share total iterations = .ok perIteration ∧
      m = ⟨size, events, perIteration, rate size perIteration⟩ := by
  rw [ofRun] at h
  by_cases hn : iterations < 1
  · rw [if_pos hn] at h
    cases h
  · rw [if_neg hn] at h
    cases hsize : sizeOf bytes with
    | error f =>
      rw [hsize] at h
      cases h
    | ok size =>
      cases hshare : share total iterations with
      | error f =>
        rw [hsize, hshare] at h
        cases h
      | ok perIteration =>
        rw [hsize, hshare] at h
        refine ⟨size, perIteration, rfl, rfl, ?_⟩
        dsimp only [bind, Except.bind] at h
        cases hbuilt : ofFields (toFields ⟨size, events, perIteration, rate size perIteration⟩) with
        | error rejections =>
          rw [hbuilt] at h
          cases h
        | ok m' =>
          rw [hbuilt] at h
          rw [← Except.ok.inj h]
          exact eq_of_ofFields_toFields _ m' hbuilt

theorem events_of_ofRun (bytes events : Int) (total : Double) (iterations : Int) (m : Measurement)
    (h : ofRun bytes events total iterations = .ok m) : m.events = events := by
  obtain ⟨size, perIteration, -, -, rfl⟩ := eq_of_ofRun bytes events total iterations m h
  rfl

/-- What may stand in a number with a fixed count of places. -/
def isFixedDigit (c : Char) : Bool :=
  c.isDigit || c ∈ "-.infa".toList

theorem isFixedDigit_of_isDigit (c : Char) (h : c.isDigit = true) : isFixedDigit c = true := by
  rw [isFixedDigit, h]
  rfl

/-- A number is written with these characters but for the digits before the point, which may be shown in any way. -/
theorem isFixedDigit_of_mem_fixedWith (whole : List Char → List Char) (places : Nat) (x : Double) (c : Char)
    (h : c ∈ x.fixedWith whole places) :
    isFixedDigit c = true ∨ ∃ digits, (∀ d ∈ digits, d.isDigit = true) ∧ c ∈ whole digits := by
  have hword (word : String) (hall : word.toList.all isFixedDigit = true) (hc : c ∈ word.toList) :
      isFixedDigit c = true := List.all_eq_true.mp hall c hc
  unfold Double.fixedWith Double.fixedParts at h
  split at h
  · exact .inl (hword "nan" (by decide) h)
  · split_ifs at h
    · exact .inl (hword "-inf" (by decide) h)
    · exact .inl (hword "inf" (by decide) h)
  · dsimp only at h
    rcases List.mem_append.mp h with h | h
    · rcases List.mem_append.mp h with h | h
      · split_ifs at h
        · exact .inl (hword "-" (by decide) h)
        · cases h
      · exact .inr ⟨_, fun d hd => Text.Numeral.isDigit_of_mem_decimal hd, h⟩
    · split_ifs at h
      · cases h
      · rcases List.mem_cons.mp h with rfl | h
        · exact .inl rfl
        · rcases List.mem_append.mp h with h | h
          · rw [List.eq_of_mem_replicate h]
            exact .inl rfl
          · exact .inl (isFixedDigit_of_isDigit c (Text.Numeral.isDigit_of_mem_decimal h))

theorem isFixedDigit_of_mem_fixed (places : Nat) (x : Double) (c : Char) (h : c ∈ x.fixed places) :
    isFixedDigit c = true := by
  rcases isFixedDigit_of_mem_fixedWith id places x c h with hc | ⟨digits, hdigits, hc⟩
  · exact hc
  · exact isFixedDigit_of_isDigit c (hdigits c hc)

theorem isInline_of_isFixedDigit (c : Char) (h : isFixedDigit c = true) : Text.IsInline c := by
  have hzero : '0'.toNat = 0x30 := rfl
  have hnine : '9'.toNat = 0x39 := rfl
  simp only [isFixedDigit, Bool.or_eq_true, Char.isDigit_iff_toNat, decide_eq_true_eq] at h
  rcases h with h | h
  · exact Text.isInline_of_ascii c (by omega) (by omega)
  · have hcases : c = '-' ∨ c = '.' ∨ c = 'i' ∨ c = 'n' ∨ c = 'f' ∨ c = 'a' := by simpa using h
    rcases hcases with rfl | rfl | rfl | rfl | rfl | rfl <;>
      exact Text.isInline_of_ascii _ (by decide) (by decide)

theorem isFixedDigit_of_mem_ofInt (n : Int) (c : Char) (hn : 0 ≤ n) (h : c ∈ Text.Numeral.ofInt n) :
    isFixedDigit c = true := by
  rw [Text.Numeral.ofInt_of_nonneg n hn] at h
  exact isFixedDigit_of_isDigit c (Text.Numeral.isDigit_of_mem_decimal h)

theorem isLineBreak_of_mem_render (m : Measurement) (hn : 0 ≤ m.events) (c : Char) (hc : c ∈ m.render) :
    Text.isLineBreak c = false := by
  have hfixed (places : Nat) (x : Double) (h : c ∈ x.fixed places) : Text.IsInline c :=
    isInline_of_isFixedDigit c (isFixedDigit_of_mem_fixed places x c h)
  have hword (word : String) (hall : word.toList.all (fun c => 0x20 ≤ c.toNat && c.toNat < 0x7F) = true)
      (h : c ∈ word.toList) : Text.IsInline c := by
    have hc := List.all_eq_true.mp hall c h
    simp only [Bool.and_eq_true, decide_eq_true_eq] at hc
    exact Text.isInline_of_ascii c hc.1 hc.2
  apply Text.isLineBreak_of_isInline
  simp only [render, List.mem_append] at hc
  rcases hc with ((((((hc | hc) | hc) | hc) | hc) | hc) | hc) | hc
  · exact hfixed 2 m.size hc
  · exact hword " MB, " (by decide) hc
  · exact isInline_of_isFixedDigit c (isFixedDigit_of_mem_ofInt m.events c hn hc)
  · exact hword " events, " (by decide) hc
  · exact hfixed 3 m.perIteration hc
  · exact hword "s/iter, " (by decide) hc
  · exact hfixed 1 m.throughput hc
  · exact hword " MB/s" (by decide) hc

theorem lines_render (m : Measurement) (hn : 0 ≤ m.events) : Text.lines (m.render ++ ['\n']) = [m.render] := by
  have hlines := Text.lines_flatMap_lineFeed [m.render]
  rw [List.flatMap_singleton] at hlines
  apply hlines
  intro l hl c hc
  rw [List.mem_singleton.mp hl] at hc
  exact isLineBreak_of_mem_render m hn c hc

/-- Reads the number that a summary tells behind its first comma, in front of the word for events. -/
def readEvents? (cs : List Char) : Option Nat :=
  let (n, rest) := Text.Numeral.readDecimal ((cs.dropWhile (· != ',')).drop 2)
  if " events,".toList.isPrefixOf rest then some n else none

theorem readEvents?_render (m : Measurement) (hn : 0 ≤ m.events) : readEvents? m.render = some m.events.toNat := by
  generalize htail : " events, ".toList ++ m.perIteration.fixed 3 ++ "s/iter, ".toList ++ m.throughput.fixed 1
    ++ " MB/s".toList = tail
  have hrender : m.render
      = (m.size.fixed 2 ++ " MB".toList) ++ (", ".toList ++ (Text.Numeral.ofInt m.events ++ tail)) := by
    rw [← htail]
    simp [render]
  have hbefore : ∀ c ∈ m.size.fixed 2 ++ " MB".toList, (c != ',') = true := by
    intro c hc
    rcases List.mem_append.mp hc with hc | hc
    · have hdigit := isFixedDigit_of_mem_fixed 2 m.size c hc
      rw [bne_iff_ne]
      rintro rfl
      exact absurd hdigit (by decide)
    · exact List.all_eq_true.mp (show " MB".toList.all (· != ',') = true by decide) c hc
  have hread : Text.Numeral.readDecimal (Text.Numeral.ofInt m.events ++ tail) = (m.events.toNat, tail) := by
    rw [Text.Numeral.ofInt_of_nonneg m.events hn]
    apply Text.Numeral.readDecimal_decimal
    rw [← htail]
    rintro c ⟨⟩
    rfl
  have hword : " events,".toList.isPrefixOf tail = true := by
    rw [← htail]
    rfl
  rw [readEvents?, hrender, (Text.span_append _ _ _ hbefore (by rintro c ⟨⟩; rfl)).2]
  have hdrop : (", ".toList ++ (Text.Numeral.ofInt m.events ++ tail)).drop 2 = Text.Numeral.ofInt m.events ++ tail := rfl
  rw [hdrop, hread]
  dsimp only
  rw [if_pos hword]

end Measurement

end EventBench
