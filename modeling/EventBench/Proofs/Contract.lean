import EventBench.Contract
import EventBench.Proofs.Event.Line
import EventBench.Proofs.Parser.Elements

namespace EventBench.Contract

theorem spanViolations_ofEvent (size index : Nat) (last : Int) (e : Event) :
    spanViolations size index (.integer last) (.ofEvent e)
      = .ok ((if e.start < last then [.backward index (.ofEvent e) (.integer last)] else [])
        ++ (if size < e.stop then [.beyond index (.ofEvent e) size] else [])) := by
  have hback : (Entry.ofEvent e).start.less? (.integer last) = some (decide (e.start < last)) :=
    Field.Value.less?_integer e.start last
  have hpast : (Field.Value.integer size).less? (Entry.ofEvent e).stop = some (decide (size < e.stop)) :=
    Field.Value.less?_integer size e.stop
  simp only [spanViolations, hback, hpast, decide_eq_true_eq]

theorem latest_integer (m n : Int) : latest (.integer m) (.integer n) = .integer (max m n) := by
  simp only [latest, Field.Value.less?_integer, Option.some.injEq, decide_eq_true_eq]
  split_ifs with h
  · rw [max_eq_right (by omega)]
  · rw [max_eq_left (by omega)]

/-- Events in order break nothing, after a greatest start that is not beyond any of theirs. -/
theorem spansFrom_of_pairwise (size index : Nat) (last : Int) (events : List Event)
    (hwithin : ∀ e ∈ events, last ≤ e.start ∧ e.stop ≤ size)
    (hstarts : events.Pairwise fun e f => e.start ≤ f.start) :
    spansFrom size index (.integer last) (events.map Entry.ofEvent) = .ok [] := by
  induction events generalizing index last with
  | nil => rfl
  | cons e events ih =>
    obtain ⟨hstart, hstop⟩ := hwithin e List.mem_cons_self
    obtain ⟨hfirst, hrest⟩ := List.pairwise_cons.mp hstarts
    have hlatest : latest (.integer last) (Entry.ofEvent e).start = .integer e.start := by
      have h := latest_integer last e.start
      rw [max_eq_right hstart] at h
      exact h
    have htail := ih (index + 1) e.start
      (fun f hf => ⟨hfirst f hf, (hwithin f (List.mem_cons_of_mem e hf)).2⟩) hrest
    rw [List.map_cons, spansFrom, spanViolations_ofEvent, if_neg (Int.not_lt.mpr hstart),
      if_neg (Int.not_lt.mpr hstop), hlatest, htail]
    rfl

theorem linesFrom_of_single (index : Nat) (ls : List String)
    (h : ∀ l ∈ ls, (Text.lines l.toList).length = 1) : linesFrom index ls = [] := by
  induction ls generalizing index with
  | nil => rfl
  | cons l ls ih =>
    rw [linesFrom, if_pos (h l List.mem_cons_self), ih _ fun m hm => h m (List.mem_cons_of_mem l hm)]
    rfl

theorem lines_line (e : Event) (h : e.Valid) : Text.lines e.line.toList = [e.line.toList] := by
  rw [Event.toList_line]
  exact Event.lines_render e h

theorem check_of_ofEvents (parser : ParserClass) (data : Bytes) (first second : List Event)
    (hfirst : parser.pass 0 data = .ofEvents first) (hsecond : parser.pass 1 data = .ofEvents second) :
    check parser data = violations data.length (first.map Entry.ofEvent) (first.map Event.line)
      (second.map Event.line) := by
  have hfailure : (Pass.ofEvents first).failure = none := rfl
  simp only [check, hfirst, hsecond, Pass.lines_ofEvents, hfailure]
  rfl

theorem check_of_ordered (parser : ParserClass) (data : Bytes) (events : List Event)
    (hfirst : parser.pass 0 data = .ofEvents events) (hsecond : parser.pass 1 data = .ofEvents events)
    (h : Event.Ordered 0 data.length events) : check parser data = .ok [] := by
  have hspans := spansFrom_of_pairwise data.length 0 0 events h.within h.starts
  have hlines : linesFrom 0 (events.map Event.line) = [] := by
    apply linesFrom_of_single
    intro l hl
    obtain ⟨e, he, rfl⟩ := List.mem_map.mp hl
    rw [lines_line e (h.valid e he)]
    rfl
  rw [check_of_ofEvents parser data events events hfirst hsecond, violations, hspans, hlines, stability,
    if_pos rfl]
  rfl

/-- What a parser that keeps the contract does with an input: every pass reports the same events, none
of which is refused, in order and inside the input, and each as one line. -/
structure Conforms (parser : ParserClass) (data : Bytes) (events : List Event) : Prop where
  passes : ∀ k, parser.pass k data = .ofEvents events
  built : ∀ e ∈ events, Event.ofFields e.toFields = .ok e
  starts : events.Pairwise fun e f => e.start ≤ f.start
  within : ∀ e ∈ events, 0 ≤ e.start ∧ e.stop ≤ data.length
  lines : ∀ e ∈ events, Text.lines e.line.toList = [e.line.toList]

theorem Conforms.of_ordered (parser : ParserClass) (data : Bytes) (events : List Event)
    (hpasses : ∀ k, parser.pass k data = .ofEvents events) (h : Event.Ordered 0 data.length events) :
    Conforms parser data events where
  passes := hpasses
  built := fun e he => Event.ofFields_toFields e (h.valid e he)
  starts := h.starts
  within := h.within
  lines := fun e he => lines_line e (h.valid e he)

/-- Both parsers keep the contract on every input. -/
theorem shipped_parsers_conform (data : Bytes) :
    check Parser.lines data = .ok [] ∧ check Parser.elements data = .ok [] ∧
    Conforms Parser.lines data (Parser.Lines.events data) ∧
    Conforms Parser.elements data (Parser.Elements.events data) := by
  have hlines : Event.Ordered 0 data.length (Parser.Lines.events data) := by
    have h := Parser.Lines.ordered_eventsFrom 0 data
    rwa [Nat.zero_add] at h
  have helements : Event.Ordered 0 data.length (Parser.Elements.events data) := by
    have h := Parser.Elements.ordered_eventsFrom 0 data
    rwa [Nat.zero_add] at h
  have hpass (k : Nat) := Parser.Lines.pass_eq k data
  have epass (k : Nat) := Parser.Elements.pass_eq k data
  exact ⟨check_of_ordered _ data _ (hpass 0) (hpass 1) hlines,
    check_of_ordered _ data _ (epass 0) (epass 1) helements,
    .of_ordered _ data _ hpass hlines, .of_ordered _ data _ epass helements⟩

end EventBench.Contract
