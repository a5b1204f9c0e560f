import Mathlib.Data.Fintype.Fin
import EventBench.Proofs.Contract
import EventBench.Proofs.Text.Integer

namespace EventBench

namespace Text

theorem isBlank_of_isLineBreak (c : Char) (h : isLineBreak c = true) : isBlank c = true := by
  simp only [isLineBreak, Bool.or_eq_true, Bool.and_eq_true, decide_eq_true_eq, beq_iff_eq] at h
  simp only [isBlank, isWhiteSpace, Bool.or_eq_true, Bool.and_eq_true, decide_eq_true_eq, beq_iff_eq]
  omega

end Text

/-- A line ends with a digit, so it is one line exactly if no boundary stands anywhere in it. -/
theorem Event.length_lines_line_iff (e : Event) :
    (Text.lines e.line.toList).length = 1 ↔ ¬ e.line.toList.any Text.isLineBreak = true := by
  have hany : ¬ e.render.any Text.isLineBreak = true ↔ ∀ c ∈ e.render, Text.isLineBreak c = false := by simp
  rw [Event.toList_line, hany]
  apply Text.length_lines_eq_one_iff _ e.render_ne_nil
  intro c hc
  rw [Event.render, List.getLast?_append_of_ne_nil _ (Text.Numeral.ofInt_ne_nil e.stop)] at hc
  have hblank := Text.Numeral.isBlank_of_mem_ofInt e.stop c (List.mem_of_mem_getLast? hc)
  by_contra hbreak
  have hother := Text.isBlank_of_isLineBreak c (by simpa using hbreak)
  simp [hblank] at hother

namespace Contract

theorem card_places_cons {n : Nat} (p : Fin (n + 1) → Prop) [DecidablePred p] (first : Prop) [Decidable first]
    (rest : Fin n → Prop) [DecidablePred rest] (hfirst : p 0 ↔ first) (hrest : ∀ i, p i.succ ↔ rest i) :
    (Finset.univ.filter p).card = (if first then 1 else 0) + (Finset.univ.filter rest).card := by
  have hcard := Fin.card_filter_univ_succ p
  simp only [hfirst, hrest] at hcard
  rw [hcard]
  by_cases h : first
  · simp [h, Nat.add_comm]
  · simp [h]

/-- The greatest start of the events in front of a place, or `last` if that is greater. -/
def latestStart (last : Int) (events : List Event) (i : Nat) : Int :=
  ((events.take i).map Event.start).foldl max last

theorem latestStart_zero (last : Int) (events : List Event) : latestStart last events 0 = last := rfl

theorem latestStart_succ (last : Int) (e : Event) (events : List Event) (i : Nat) :
    latestStart last (e :: events) (i + 1) = latestStart (max last e.start) events i := rfl

/-- Each event is told once if it starts too early, and once more if it ends too late. -/
theorem length_spansFrom (size index : Nat) (last : Int) (events : List Event) :
    ∃ vs, spansFrom size index (.integer last) (events.map Entry.ofEvent) = .ok vs ∧
      vs.length = (Finset.univ.filter fun i : Fin events.length => events[i].start < latestStart last events i).card
        + (Finset.univ.filter fun i : Fin events.length => (size : Int) < events[i].stop).card := by
  induction events generalizing index last with
  | nil => exact ⟨[], rfl, rfl⟩
  | cons e events ih =>
    obtain ⟨rest, hrest, hlength⟩ := ih (index + 1) (max last e.start)
    have hlatest : latest (.integer last) (Entry.ofEvent e).start = .integer (max last e.start) :=
      latest_integer last e.start
    refine ⟨_, by rw [List.map_cons, spansFrom, spanViolations_ofEvent, hlatest, hrest], ?_⟩
    have hback := card_places_cons
      (fun i : Fin (e :: events).length => (e :: events)[i].start < latestStart last (e :: events) i)
      (e.start < last) (fun i => events[i].start < latestStart (max last e.start) events i) Iff.rfl (fun i => Iff.rfl)
    have hpast := card_places_cons (fun i : Fin (e :: events).length => (size : Int) < (e :: events)[i].stop)
      ((size : Int) < e.stop) (fun i => (size : Int) < events[i].stop) Iff.rfl (fun i => Iff.rfl)
    rw [hback, hpast, List.length_append, List.length_append, hlength]
    by_cases hstart : e.start < last <;> by_cases hstop : (size : Int) < e.stop <;> simp [hstart, hstop] <;> omega

theorem length_linesFrom (index : Nat) (events : List Event) :
    (linesFrom index (events.map Event.line)).length
      = (Finset.univ.filter fun i : Fin events.length => events[i].line.toList.any Text.isLineBreak = true).card := by
  induction events generalizing index with
  | nil => rfl
  | cons e events ih =>
    have hbroken := e.length_lines_line_iff
    have hcard := card_places_cons
      (fun i : Fin (e :: events).length => (e :: events)[i].line.toList.any Text.isLineBreak = true)
      (e.line.toList.any Text.isLineBreak = true) (fun i => events[i].line.toList.any Text.isLineBreak = true)
      Iff.rfl (fun i => Iff.rfl)
    rw [hcard, List.map_cons, linesFrom, List.length_append, ih (index + 1)]
    by_cases h : e.line.toList.any Text.isLineBreak = true
    · rw [if_neg (mt hbroken.mp (not_not.mpr h)), if_pos h, List.length_singleton]
    · rw [if_pos (hbroken.mpr h), if_neg h, List.length_nil]

/-- No event starts too early exactly if the starts do not fall, from the first bound on. -/
theorem forall_latestStart_le_iff (last : Int) (events : List Event) :
    (∀ i : Fin events.length, latestStart last events i ≤ events[i].start) ↔
      (∀ e ∈ events, last ≤ e.start) ∧ events.Pairwise fun e f => e.start ≤ f.start := by
  induction events generalizing last with
  | nil => simp
  | cons e events ih =>
    have hsplit := Fin.forall_fin_succ (P := fun i : Fin (events.length + 1) =>
      latestStart last (e :: events) i ≤ (e :: events)[i].start)
    simp only [Fin.getElem_fin, Fin.val_zero, List.getElem_cons_zero, Fin.val_succ, List.getElem_cons_succ,
      latestStart_zero, latestStart_succ] at hsplit ih
    simp only [List.length_cons, Fin.getElem_fin, hsplit, ih, List.forall_mem_cons, List.pairwise_cons, max_le_iff]
    grind

theorem length_stability (first second : List String) :
    (stability first second).length = if first = second then 0 else 1 := by
  unfold stability
  by_cases h : first = second <;> simp [h]

theorem card_places_eq_zero_iff {n : Nat} (p : Fin n → Prop) [DecidablePred p] :
    (Finset.univ.filter p).card = 0 ↔ ∀ i, ¬ p i := by
  simp [Finset.filter_eq_empty_iff]

/-- A check of two passes that are completed tells every broken promise, and nothing else: once that the passes differ,
once each event that starts in front of zero or of an earlier start, once each that ends behind the input, and once each
whose line holds a boundary. So it tells nothing exactly if none of these is the case. -/
theorem check_counts_violations (parser : ParserClass) (data : Bytes) (first second : List Event)
    (hfirst : parser.pass 0 data = .ofEvents first) (hsecond : parser.pass 1 data = .ofEvents second) :
    ∃ vs, check parser data = .ok vs ∧
      vs.length = (if first.map Event.line = second.map Event.line then 0 else 1)
        + (Finset.univ.filter fun i : Fin first.length => first[i].start < latestStart 0 first i).card
        + (Finset.univ.filter fun i : Fin first.length => (data.length : Int) < first[i].stop).card
        + (Finset.univ.filter fun i : Fin first.length => first[i].line.toList.any Text.isLineBreak = true).card ∧
      (vs = [] ↔
        first.map Event.line = second.map Event.line ∧
        (∀ e ∈ first, 0 ≤ e.start) ∧ (first.Pairwise fun e f => e.start ≤ f.start) ∧
        (∀ e ∈ first, e.stop ≤ data.length) ∧
        ∀ e ∈ first, ∀ c ∈ e.line.toList, Text.isLineBreak c = false) := by
  obtain ⟨spans, hspans, hlength⟩ := length_spansFrom data.length 0 0 first
  have hchecked : check parser data = .ok (stability (first.map Event.line) (second.map Event.line) ++ spans
      ++ linesFrom 0 (first.map Event.line)) := by
    rw [check_of_ofEvents parser data first second hfirst hsecond, violations, hspans]
  have hcount : (stability (first.map Event.line) (second.map Event.line) ++ spans
      ++ linesFrom 0 (first.map Event.line)).length
      = (if first.map Event.line = second.map Event.line then 0 else 1)
        + (Finset.univ.filter fun i : Fin first.length => first[i].start < latestStart 0 first i).card
        + (Finset.univ.filter fun i : Fin first.length => (data.length : Int) < first[i].stop).card
        + (Finset.univ.filter fun i : Fin first.length => first[i].line.toList.any Text.isLineBreak = true).card := by
    rw [List.length_append, List.length_append, length_stability, length_linesFrom, hlength]
    omega
  refine ⟨_, hchecked, hcount, ?_⟩
  have hsame : (if first.map Event.line = second.map Event.line then 0 else 1) = 0 ↔
      first.map Event.line = second.map Event.line := by
    by_cases h : first.map Event.line = second.map Event.line <;> simp [h]
  have hstarts : (∀ i : Fin first.length, ¬ first[i].start < latestStart 0 first i) ↔
      (∀ e ∈ first, 0 ≤ e.start) ∧ first.Pairwise fun e f => e.start ≤ f.start := by
    simp only [Int.not_lt]
    exact forall_latestStart_le_iff 0 first
  have hstops : (∀ i : Fin first.length, ¬ (data.length : Int) < first[i].stop) ↔ ∀ e ∈ first, e.stop ≤ data.length := by
    simp only [Int.not_lt, List.forall_mem_iff_forall_getElem]
    exact Fin.forall_iff
  have hlines : (∀ i : Fin first.length, ¬ first[i].line.toList.any Text.isLineBreak = true) ↔
      ∀ e ∈ first, ∀ c ∈ e.line.toList, Text.isLineBreak c = false := by
    simp only [List.any_eq_true, not_exists, not_and, Bool.not_eq_true]
    rw [List.forall_mem_iff_forall_getElem]
    exact Fin.forall_iff
  rw [← List.length_eq_zero_iff, hcount, Nat.add_eq_zero_iff, Nat.add_eq_zero_iff, Nat.add_eq_zero_iff, hsame,
    card_places_eq_zero_iff, card_places_eq_zero_iff, card_places_eq_zero_iff, hstarts, hstops, hlines]
  simp only [and_assoc]

/-- Passes of unchecked entries that break every promise. -/
theorem check_counts_violations_unchecked :
    let entry := fun (kind : String) (content : Field.Value) (start stop : Int) =>
      Entry.ofFields [("kind", .text kind), ("content", content), ("start", .integer start), ("end", .integer stop)]
    let parser : ParserClass := ⟨"Broken", "broken", "trials", fun k _ =>
      ⟨[entry "A\r\nB" .null 2 2, entry "" (.bytes [0x0A]) (-1) 9, entry "C\u2028" .null 1 k], none⟩⟩
    ∃ vs, check parser [0x61, 0x62, 0x63] = .ok vs ∧ vs.length = 6 := by
  intro entry parser
  let events (k : Int) : List Event := [⟨"A\r\nB", none, 2, 2⟩, ⟨"", some [0x0A], -1, 9⟩, ⟨"C\u2028", none, 1, k⟩]
  obtain ⟨vs, hvs, hlength, -⟩ := check_counts_violations parser [0x61, 0x62, 0x63] (events 0) (events 1) rfl rfl
  refine ⟨vs, hvs, ?_⟩
  rw [hlength]
  decide +kernel

end Contract

end EventBench
