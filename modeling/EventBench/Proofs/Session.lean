import EventBench.Session
import EventBench.Proofs.Parser.Loop

namespace EventBench

/-- What can be done with a parser. A consumer may fail on the entry behind the first `limit` ones. -/
inductive Step
  | iterate
  | advance (i : Nat)
  | drain (i : Nat)
  | parse (limit : Option Nat)
  | rename (label : String)
  deriving DecidableEq, Repr

namespace Step

def asks (i : Nat) : Step → Bool
  | .advance j | .drain j => j == i
  | _ => false

def label? : Step → Option String
  | .rename label => some label
  | _ => none

end Step

/-- What a step gives. -/
inductive Answer
  | iterator (i : Nat)
  | next (result : Except Fault (Option Entry))
  | rest (result : Except Fault (List Entry))
  | shown (entries : List Entry) (failure : Option Fault)
  | nothing

def Answer.entries : Answer → List Entry
  | .next (.ok (some e)) => [e]
  | .rest (.ok es) => es
  | _ => []

/-- What an iterator has ahead; a pass that was not begun is ahead as a whole. -/
def Cursor.ahead (whole : Pass) : Cursor → Pass
  | .fresh => whole
  | .running rest => rest
  | .ended => ⟨[], none⟩

namespace Session

def act (s : Session) : Step → Answer × Session
  | .iterate => (.iterator s.iterate.1, s.iterate.2)
  | .advance i => (.next (s.advance i).1, (s.advance i).2)
  | .drain i => (.rest (s.drain .ok i).1, (s.drain .ok i).2)
  | .parse limit =>
    let ((entries, failure), s) := s.parse .ok (limit.map Int.ofNat)
    (.shown entries failure, s)
  | .rename label => (.nothing, s.rename label)

/-- What steps leave of a parser. -/
def after (s : Session) : List Step → Session
  | [] => s
  | step :: steps => (s.act step).2.after steps

def history (s : Session) : List Step → List (Step × Answer)
  | [] => []
  | step :: steps => (step, (s.act step).1) :: (s.act step).2.history steps

def delivered (i : Nat) (told : List (Step × Answer)) : List Entry :=
  told.flatMap fun (step, answer) => if step.asks i then answer.entries else []

theorem delivered_append (i : Nat) (told more : List (Step × Answer)) :
    delivered i (told ++ more) = delivered i told ++ delivered i more :=
  List.flatMap_append

theorem delivered_snoc (i : Nat) (told : List (Step × Answer)) (step : Step) (answer : Answer) :
    delivered i (told ++ [(step, answer)]) = delivered i told ++ if step.asks i then answer.entries else [] := by
  rw [delivered_append]
  simp [delivered]

theorem delivered_unasked (i : Nat) (told : List (Step × Answer)) (step : Step) (answer : Answer)
    (h : step.asks i = true → answer.entries = []) : delivered i (told ++ [(step, answer)]) = delivered i told := by
  rw [delivered_snoc]
  split_ifs with hasks
  · rw [h hasks, List.append_nil]
  · exact List.append_nil _

theorem history_append (s : Session) (steps more : List Step) :
    s.history (steps ++ more) = s.history steps ++ (s.after steps).history more := by
  induction steps generalizing s with
  | nil => rfl
  | cons step steps ih => rw [List.cons_append, history, history, ih]; rfl

/-- Every iterator goes through a pass of its own: the parser reports the same entries in every pass, and what an iterator
delivered stands in front of what it has ahead. -/
structure Intact (entries : List Entry) (s : Session) (told : List (Step × Answer)) : Prop where
  passes : ∀ k, s.parser.pass k s.data = ⟨entries, none⟩
  ahead : ∀ i c, s.cursors[i]? = some c →
    ∃ rest, c.ahead ⟨entries, none⟩ = ⟨rest, none⟩ ∧ delivered i told ++ rest = entries
  absent : ∀ i, s.cursors[i]? = none → delivered i told = []

section

variable {entries : List Entry} {s : Session} {told : List (Step × Answer)}

theorem Intact.keep (h : Intact entries s told) (n : Nat) (label : String) (step : Step) (answer : Answer)
    (hnone : ∀ i, step.asks i = true → answer.entries = []) :
    Intact entries { s with started := n, label := label } (told ++ [(step, answer)]) := by
  refine ⟨h.passes, ?_, ?_⟩
  · intro i c hc
    rw [delivered_unasked i told step answer (hnone i)]
    exact h.ahead i c hc
  · intro i hi
    rw [delivered_unasked i told step answer (hnone i)]
    exact h.absent i hi

theorem Intact.ask (h : Intact entries s told) (n i : Nat) (c d : Cursor) (step : Step) (answer : Answer)
    (rest : List Entry) (hasks : ∀ j, step.asks j = (i == j)) (hc : s.cursors[i]? = some c)
    (hrest : c.ahead ⟨entries, none⟩ = ⟨answer.entries ++ rest, none⟩) (hd : d.ahead ⟨entries, none⟩ = ⟨rest, none⟩) :
    Intact entries { s with started := n, cursors := s.cursors.set i d } (told ++ [(step, answer)]) := by
  have hlt : i < s.cursors.length := (List.getElem?_eq_some_iff.mp hc).1
  refine ⟨h.passes, ?_, ?_⟩
  · intro j b hb
    rw [delivered_snoc, hasks]
    by_cases hij : i = j
    · subst hij
      obtain ⟨ahead, hahead, hwhole⟩ := h.ahead i c hc
      obtain rfl : ahead = answer.entries ++ rest := by
        rw [hrest] at hahead
        exact (congrArg Pass.entries hahead).symm
      obtain rfl : d = b := by simpa [List.getElem?_set_self hlt] using hb
      refine ⟨rest, hd, ?_⟩
      rw [beq_self_eq_true, if_pos rfl, List.append_assoc, hwhole]
    · have hold : s.cursors[j]? = some b := by simpa [List.getElem?_set_ne hij] using hb
      rw [beq_eq_false_iff_ne.mpr hij]
      simpa using h.ahead j b hold
  · intro j hj
    have hold : s.cursors[j]? = none := by simpa using hj
    have hij : i ≠ j := by
      rintro rfl
      rw [hc] at hold
      cases hold
    rw [delivered_snoc, hasks, beq_eq_false_iff_ne.mpr hij]
    simpa using h.absent j hold

theorem Intact.iterate (h : Intact entries s told) (answer : Answer) :
    Intact entries s.iterate.2 (told ++ [(.iterate, answer)]) := by
  refine ⟨h.passes, ?_, ?_⟩
  · intro i c hc
    rw [delivered_unasked i told .iterate answer (by simp [Step.asks])]
    by_cases hi : i < s.cursors.length
    · have hold : s.cursors[i]? = some c := by simpa [Session.iterate, List.getElem?_append_left hi] using hc
      exact h.ahead i c hold
    · have hnew := hc
      simp only [Session.iterate, List.getElem?_append_right (Nat.not_lt.mp hi)] at hnew
      obtain rfl : Cursor.fresh = c := by
        have hmem := List.mem_of_getElem? hnew
        exact (List.mem_singleton.mp hmem).symm
      refine ⟨entries, rfl, ?_⟩
      rw [h.absent i (List.getElem?_eq_none (Nat.not_lt.mp hi)), List.nil_append]
  · intro i hi
    rw [delivered_unasked i told .iterate answer (by simp [Step.asks])]
    apply h.absent
    rw [List.getElem?_eq_none_iff] at hi ⊢
    simp only [Session.iterate, List.length_append] at hi
    omega

theorem enter_eq (h : Intact entries s told) (c : Cursor) :
    ∃ n, s.enter c = (c.ahead ⟨entries, none⟩, { s with started := n }) := by
  cases c with
  | fresh => exact ⟨s.started + 1, by rw [enter, nextPass, h.passes]; rfl⟩
  | running rest => exact ⟨s.started, rfl⟩
  | ended => exact ⟨s.started, rfl⟩

/-- An iterator gives the first of the entries that it has ahead. -/
theorem advance_eq (h : Intact entries s told) (i : Nat) (c : Cursor) (rest : List Entry)
    (hc : s.cursors[i]? = some c) (hrest : c.ahead ⟨entries, none⟩ = ⟨rest, none⟩) :
    ∃ n d, s.advance i = (.ok rest.head?, { s with started := n, cursors := s.cursors.set i d }) ∧
      d.ahead ⟨entries, none⟩ = ⟨rest.tail, none⟩ := by
  obtain ⟨n, henter⟩ := enter_eq h c
  rw [hrest] at henter
  rw [advance, hc, Option.getD_some, henter]
  cases rest with
  | nil => exact ⟨n, .ended, rfl, rfl⟩
  | cons e rest => exact ⟨n, .running ⟨rest, none⟩, rfl, rfl⟩

theorem exhaust_eq (done rest : List Entry) :
    exhaust .ok none done rest = (.ok (done.reverse ++ rest), .ended) := by
  induction rest generalizing done with
  | nil => rw [List.append_nil]; rfl
  | cons e rest ih =>
    have htail := ih (e :: done)
    rwa [List.reverse_cons, List.append_assoc] at htail

/-- Used up, an iterator gives all that it has ahead. -/
theorem drain_eq (h : Intact entries s told) (i : Nat) (c : Cursor) (rest : List Entry)
    (hc : s.cursors[i]? = some c) (hrest : c.ahead ⟨entries, none⟩ = ⟨rest, none⟩) :
    ∃ n, s.drain .ok i = (.ok rest, { s with started := n, cursors := s.cursors.set i .ended }) := by
  obtain ⟨n, henter⟩ := enter_eq h c
  rw [hrest] at henter
  refine ⟨n, ?_⟩
  rw [drain, hc, Option.getD_some, henter]
  dsimp only
  rw [exhaust_eq]
  rfl

theorem store_none (i : Nat) (c : Cursor) (hi : s.cursors[i]? = none) : s.store i c = s := by
  rw [store, List.set_eq_of_length_le (List.getElem?_eq_none_iff.mp hi)]

theorem advance_none (i : Nat) (hi : s.cursors[i]? = none) : s.advance i = (.ok none, s) := by
  rw [advance, hi, Option.getD_none, enter]
  dsimp only
  rw [store_none i .ended hi]

theorem drain_none (i : Nat) (hi : s.cursors[i]? = none) : s.drain .ok i = (.ok [], s) := by
  rw [drain, hi, Option.getD_none, enter]
  dsimp only
  rw [exhaust_eq, store_none i .ended hi]
  rfl

theorem run_collect_none (rest seen : List Entry) :
    Pass.run ⟨rest, none⟩ (collect .ok) (seen, none) = ((rest.reverse ++ seen, none), none) := by
  induction rest generalizing seen with
  | nil => rfl
  | cons e rest ih =>
    have htail := ih (e :: seen)
    rw [List.reverse_cons, List.append_assoc]
    exact htail

/-- A consumer that takes `n` entries is shown no more than these, and fails if there is one more. -/
theorem run_collect_some (rest seen : List Entry) (n : Nat) :
    ∃ left, Pass.run ⟨rest, none⟩ (collect .ok) (seen, some (Int.ofNat n))
      = (((rest.take n).reverse ++ seen, left), if n < rest.length then some .consumer else none) := by
  induction rest generalizing seen n with
  | nil => exact ⟨_, by rw [List.take_nil]; rfl⟩
  | cons e rest ih =>
    cases n with
    | zero => exact ⟨_, rfl⟩
    | succ n =>
      obtain ⟨left, htail⟩ := ih (e :: seen) n
      refine ⟨left, ?_⟩
      have hvisit : collect .ok (seen, some (Int.ofNat (n + 1))) e = ((e :: seen, some (Int.ofNat n)), none) := by
        have hne : some (Int.ofNat (n + 1)) ≠ some 0 := by
          rw [Ne, Option.some.injEq]
          exact Int.ofNat_ne_zero.mpr (Nat.succ_ne_zero n)
        have hdown : Int.ofNat (n + 1) - 1 = Int.ofNat n := by simp
        rw [collect, if_neg hne]
        dsimp only
        rw [Option.map_some, hdown]
      have hlength : (n + 1 < (e :: rest).length) = (n < rest.length) := by simp
      rw [Pass.run, Pass.feed, hvisit, List.take_succ_cons, List.reverse_cons, List.append_assoc]
      dsimp only
      rw [Pass.run] at htail
      simp only [hlength]
      exact htail

/-- A consumer of the parser's own passes is shown all entries, or those that it takes and none behind the one that it
fails on. -/
theorem parse_eq (h : Intact entries s told) (limit : Option Nat) :
    s.parse .ok (limit.map Int.ofNat)
      = (match limit with
          | none => (entries, none)
          | some n => (entries.take n, if n < entries.length then some .consumer else none),
        { s with started := s.started + 1 }) := by
  cases limit with
  | none => simp [parse, nextPass, h.passes, run_collect_none]
  | some n =>
    obtain ⟨left, hrun⟩ := run_collect_some entries [] n
    rw [parse, nextPass, h.passes, Option.map_some, hrun]
    simp

theorem Intact.act (h : Intact entries s told) (step : Step) :
    Intact entries (s.act step).2 (told ++ [(step, (s.act step).1)]) := by
  cases step with
  | iterate => exact h.iterate _
  | advance i =>
    cases hc : s.cursors[i]? with
    | none =>
      simp only [Session.act, advance_none i hc]
      exact h.keep s.started s.label _ _ fun _ _ => rfl
    | some c =>
      obtain ⟨rest, hrest, -⟩ := h.ahead i c hc
      obtain ⟨n, d, hadvance, hd⟩ := advance_eq h i c rest hc hrest
      simp only [Session.act, hadvance]
      refine h.ask n i c d _ _ rest.tail ?_ hc ?_ hd
      · exact fun j => rfl
      · rw [hrest]
        cases rest <;> rfl
  | drain i =>
    cases hc : s.cursors[i]? with
    | none =>
      simp only [Session.act, drain_none i hc]
      exact h.keep s.started s.label _ _ fun _ _ => rfl
    | some c =>
      obtain ⟨rest, hrest, -⟩ := h.ahead i c hc
      obtain ⟨n, hdrain⟩ := drain_eq h i c rest hc hrest
      simp only [Session.act, hdrain]
      refine h.ask n i c .ended _ _ [] ?_ hc ?_ rfl
      · exact fun j => rfl
      · rw [hrest]
        exact congrArg (Pass.mk · none) (List.append_nil rest).symm
  | parse limit =>
    simp only [Session.act, parse_eq h]
    exact h.keep _ s.label _ _ (by simp [Step.asks])
  | rename label => exact h.keep s.started label _ _ fun _ _ => rfl

theorem Intact.run (h : Intact entries s told) (steps : List Step) :
    Intact entries (s.after steps) (told ++ s.history steps) := by
  induction steps generalizing s told with
  | nil => rwa [history, List.append_nil]
  | cons step steps ih =>
    have htail := ih (h.act step)
    rwa [List.append_assoc] at htail

theorem intact_start (parser : ParserClass) (data : Bytes) (hpasses : ∀ k, parser.pass k data = ⟨entries, none⟩) :
    Intact entries (start parser data) [] where
  passes := hpasses
  ahead := by simp [start]
  absent := fun _ _ => rfl

end

theorem enter_frame (s : Session) (c : Cursor) : ∃ rest n, s.enter c = (rest, { s with started := n }) := by
  cases c with
  | fresh => exact ⟨s.nextPass, s.started + 1, rfl⟩
  | running rest => exact ⟨rest, s.started, rfl⟩
  | ended => exact ⟨⟨[], none⟩, s.started, rfl⟩

theorem advance_frame (s : Session) (i : Nat) :
    ∃ n c, (s.advance i).2 = { s with started := n, cursors := s.cursors.set i c } := by
  obtain ⟨⟨entries, failure⟩, n, henter⟩ := s.enter_frame (s.cursors[i]?.getD .ended)
  rw [advance, henter]
  cases entries with
  | cons e entries => exact ⟨n, .running ⟨entries, failure⟩, rfl⟩
  | nil =>
    cases failure with
    | none => exact ⟨n, .ended, rfl⟩
    | some f => exact ⟨n, .ended, rfl⟩

theorem drain_frame (s : Session) (i : Nat) :
    ∃ n c, (s.drain .ok i).2 = { s with started := n, cursors := s.cursors.set i c } := by
  obtain ⟨rest, n, henter⟩ := s.enter_frame (s.cursors[i]?.getD .ended)
  rw [drain, henter]
  exact ⟨n, _, rfl⟩

/-- What a step changes of a parser besides its iterators: only a new name is kept, and only a new iterator is one more. -/
theorem act_frame (s : Session) (step : Step) :
    (s.act step).2.parser = s.parser ∧ (s.act step).2.data = s.data ∧
    (s.act step).2.label = step.label?.getD s.label ∧
    (s.act step).2.cursors.length = s.cursors.length + [step].count .iterate := by
  cases step with
  | iterate => exact ⟨rfl, rfl, rfl, List.length_append⟩
  | advance i =>
    obtain ⟨n, c, hs⟩ := s.advance_frame i
    rw [act, hs]
    exact ⟨rfl, rfl, rfl, List.length_set⟩
  | drain i =>
    obtain ⟨n, c, hs⟩ := s.drain_frame i
    rw [act, hs]
    exact ⟨rfl, rfl, rfl, List.length_set⟩
  | parse limit => exact ⟨rfl, rfl, rfl, rfl⟩
  | rename label => exact ⟨rfl, rfl, rfl, rfl⟩

theorem after_frame (s : Session) (steps : List Step) :
    (s.after steps).parser = s.parser ∧ (s.after steps).data = s.data ∧
    (s.after steps).label = (steps.filterMap Step.label?).getLast?.getD s.label ∧
    (s.after steps).cursors.length = s.cursors.length + steps.count .iterate := by
  induction steps generalizing s with
  | nil => exact ⟨rfl, rfl, rfl, rfl⟩
  | cons step steps ih =>
    obtain ⟨hparser, hdata, hlabel, hlength⟩ := s.act_frame step
    obtain ⟨hparser', hdata', hlabel', hlength'⟩ := ih (s.act step).2
    refine ⟨hparser'.trans hparser, hdata'.trans hdata, hlabel'.trans ?_, hlength'.trans ?_⟩
    · rw [hlabel]
      cases hstep : step.label? with
      | none => rw [List.filterMap_cons_none hstep]; rfl
      | some label => rw [List.filterMap_cons_some hstep, List.getLast?_cons]; rfl
    · rw [hlength, Nat.add_assoc, ← List.count_append]
      rfl

/-- A name makes no difference to what any other step gives. -/
theorem act_rename (s : Session) (label : String) (step : Step) (hstep : step.label? = none) :
    (s.rename label).act step = ((s.act step).1, (s.act step).2.rename label) := by
  have henter (c : Cursor) :
      (s.rename label).enter c = ((s.enter c).1, (s.enter c).2.rename label) := by cases c <;> rfl
  cases step with
  | iterate => rfl
  | advance i =>
    have hcursors : (s.rename label).cursors = s.cursors := rfl
    rw [act, act, advance, advance, hcursors, henter]
    obtain ⟨⟨⟨entries, failure⟩, t⟩, ht⟩ : ∃ r, s.enter (s.cursors[i]?.getD .ended) = r := ⟨_, rfl⟩
    rw [ht]
    cases entries with
    | cons e entries => rfl
    | nil => cases failure <;> rfl
  | drain i =>
    have hcursors : (s.rename label).cursors = s.cursors := rfl
    rw [act, act, drain, drain, hcursors, henter]
    rfl
  | parse limit => rfl
  | rename label' => cases hstep

theorem history_rename (s : Session) (label : String) (steps : List Step) :
    (s.rename label).history steps = s.history steps := by
  induction steps generalizing s label with
  | nil => rfl
  | cons step steps ih =>
    cases hstep : step.label? with
    | none => rw [history, history, act_rename s label step hstep, ih]
    | some label' =>
      cases step with
      | rename => rfl
      | _ => cases hstep

theorem after_rename (s : Session) (label : String) (steps : List Step) (h : ∀ step ∈ steps, step.label? = none) :
    (s.rename label).after steps = (s.after steps).rename label := by
  induction steps generalizing s with
  | nil => rfl
  | cons step steps ih =>
    rw [after, after, act_rename s label step (h step List.mem_cons_self)]
    exact ih _ fun step' hstep' => h step' (List.mem_cons_of_mem step hstep')

/-- Without the steps that give a name all others give the same, and only the name that is left is another. -/
theorem erase_renames (s : Session) (steps : List Step) :
    (s.history steps).filter (fun told => told.1.label?.isNone)
      = s.history (steps.filter fun step => step.label?.isNone) ∧
    s.after steps = (s.after (steps.filter fun step => step.label?.isNone)).rename (s.after steps).label := by
  induction steps generalizing s with
  | nil => exact ⟨rfl, rfl⟩
  | cons step steps ih =>
    obtain ⟨hhistory, hafter⟩ := ih (s.act step).2
    cases hstep : step.label? with
    | none =>
      rw [history, List.filter_cons_of_pos (by rw [hstep]; rfl), List.filter_cons_of_pos (by rw [hstep]; rfl), hhistory]
      exact ⟨rfl, hafter⟩
    | some label =>
      obtain rfl : step = .rename label := by
        cases step with
        | rename _ => exact congrArg Step.rename (Option.some.inj hstep)
        | _ => cases hstep
      have hnone : ∀ step ∈ steps.filter (fun step => step.label?.isNone), step.label? = none := by
        intro step hmem
        exact Option.isNone_iff_eq_none.mp (List.mem_filter.mp hmem).2
      have hnamed : (s.act (.rename label)).2 = s.rename label := rfl
      rw [hnamed, after_rename s label _ hnone] at hafter
      rw [hnamed, history_rename s label steps, history_rename s label] at hhistory
      rw [history, hnamed, history_rename, List.filter_cons_of_neg Bool.false_ne_true,
        List.filter_cons_of_neg Bool.false_ne_true]
      exact ⟨hhistory, hafter⟩

theorem Intact.exists_append {entries : List Entry} {s : Session} {told : List (Step × Answer)}
    (h : Intact entries s told) (i : Nat) : ∃ rest, delivered i told ++ rest = entries := by
  cases hc : s.cursors[i]? with
  | none => exact ⟨entries, by rw [h.absent i hc, List.nil_append]⟩
  | some c =>
    obtain ⟨rest, -, hwhole⟩ := h.ahead i c hc
    exact ⟨rest, hwhole⟩

/-- An iterator stands between the events that it delivered and those that it still gives, one by one or all at once. -/
theorem Intact.place {events : List Event} {s : Session} {told : List (Step × Answer)}
    (h : Intact (events.map .ofEvent) s told) (i : Nat) (hi : i < s.cursors.length) :
    ∃ before after, events = before ++ after ∧ delivered i told = before.map .ofEvent ∧
      (s.act (.advance i)).1 = .next (.ok (after.head?.map .ofEvent)) ∧
      (s.act (.drain i)).1 = .rest (.ok (after.map .ofEvent)) := by
  have hc := List.getElem?_eq_getElem hi
  obtain ⟨rest, hrest, hwhole⟩ := h.ahead i _ hc
  obtain ⟨before, after, hevents, hbefore, rfl⟩ := List.map_eq_append_iff.mp hwhole.symm
  obtain ⟨n, d, hadvance, -⟩ := advance_eq h i _ _ hc hrest
  obtain ⟨n', hdrain⟩ := drain_eq h i _ _ hc hrest
  refine ⟨before, after, hevents, hbefore.symm, ?_, ?_⟩
  · rw [Session.act, hadvance, List.head?_map]
  · rw [Session.act, hdrain]

/-- A parser over an input after some steps. -/
def used (parser : ParserClass) (data : Bytes) (steps : List Step) : Session :=
  (start parser data).after steps

/-- Some steps with a parser over an input, and their answers. -/
def told (parser : ParserClass) (data : Bytes) (steps : List Step) : List (Step × Answer) :=
  (start parser data).history steps

end Session

open Session (used told delivered)

/-- Steps with a parser over an input whose passes all report the events of a loop. What they lead to is that every
iterator is such a loop of its own. -/
structure Undisturbed {Place : Type} (l : Loop Place) (events : List Event) (parser : ParserClass) (data : Bytes)
    (steps : List Step) : Prop where
  passes : ∀ k, parser.pass k data = .ofEvents events
  whole : ∃ p, l.Reports l.start events p ∧ l.resume p = none
  iterators : (used parser data steps).cursors.length = steps.count .iterate
  /-- An iterator has delivered the first events and waits in the place of the loop behind these. The next one that it
  delivers is that with which the loop stops when it is resumed there, or none at the end; used up, it delivers all
  others. -/
  place : ∀ i < (used parser data steps).cursors.length, ∃ n ≤ events.length, ∃ p,
    delivered i (told parser data steps) = (events.take n).map .ofEvent ∧
    l.Reports l.start (events.take n) p ∧
    ((used parser data steps).act (.advance i)).1 = .next (.ok ((l.resume p).map fun r => .ofEvent r.1)) ∧
    ((used parser data steps).act (.advance i)).1 = .next (.ok (events[n]?.map .ofEvent)) ∧
    ((used parser data steps).act (.drain i)).1 = .rest (.ok ((events.drop n).map .ofEvent))
  /-- An iterator that has delivered all events delivers nothing from then on. -/
  silence : ∀ i, delivered i (told parser data steps) = events.map .ofEvent →
    ∀ more, delivered i (told parser data (steps ++ more)) = events.map .ofEvent
  /-- A consumer is shown all events, or the first ones if it fails on the next. -/
  shown : ∀ limit, ((used parser data steps).act (.parse limit)).1
    = match limit with
      | none => .shown (events.map .ofEvent) none
      | some n => .shown ((events.take n).map .ofEvent) (if n < events.length then some .consumer else none)
  /-- The name is the last one that was given, and the description tells it. -/
  name : (used parser data steps).label = (steps.filterMap Step.label?).getLast?.getD parser.label
  description : (used parser data steps).describe
    = parser.name ++ "(name='" ++ (used parser data steps).label ++ "', size="
      ++ String.ofList (Text.Numeral.decimal data.length) ++ ")"
  /-- Nothing else depends on the names that were given. -/
  unnamed : (told parser data steps).filter (fun answered => answered.1.label?.isNone)
      = told parser data (steps.filter fun step => step.label?.isNone) ∧
    used parser data steps = (used parser data (steps.filter fun step => step.label?.isNone)).rename
      (used parser data steps).label

namespace Undisturbed

variable {Place : Type} {l : Loop Place} {ahead : Place → List Event} (parser : ParserClass) (data : Bytes)

theorem of_unfolds (h : l.Unfolds ahead) (hpasses : ∀ k, parser.pass k data = .ofEvents (ahead l.start))
    (steps : List Step) : Undisturbed l (ahead l.start) parser data steps := by
  have hintact (steps : List Step) :
      Session.Intact ((ahead l.start).map .ofEvent) (used parser data steps) (told parser data steps) :=
    (Session.intact_start parser data hpasses).run steps
  obtain ⟨hparser, hdata, hlabel, hlength⟩ := (Session.start parser data).after_frame steps
  refine ⟨hpasses, ?_, ?_, ?_, ?_, ?_, hlabel, ?_, (Session.start parser data).erase_renames steps⟩
  · obtain ⟨p, hreports, hp⟩ := h.reports_take l.start (ahead l.start).length (Nat.le_refl _)
    rw [List.take_length] at hreports
    rw [List.drop_length] at hp
    exact ⟨p, hreports, h.resume_eq_none p hp⟩
  · exact hlength.trans (Nat.zero_add _)
  · intro i hi
    obtain ⟨before, after, hevents, hbefore, hadvance, hdrain⟩ := (hintact steps).place i hi
    have hn : before.length ≤ (ahead l.start).length := by rw [hevents, List.length_append]; omega
    have htake : (ahead l.start).take before.length = before := by rw [hevents, List.take_left]
    have hdrop : (ahead l.start).drop before.length = after := by rw [hevents, List.drop_left]
    obtain ⟨p, hreports, hp⟩ := h.reports_take l.start before.length hn
    have hnext : after.head?.map Entry.ofEvent = (l.resume p).map fun r => .ofEvent r.1 := by
      rw [← hdrop, ← hp, ← h.head? p, Option.map_map]
      rfl
    have hindex : after.head? = (ahead l.start)[before.length]? := by rw [← hdrop, List.head?_drop]
    exact ⟨before.length, hn, p, by rw [htake, hbefore], hreports, by rw [hadvance, hnext], by rw [hadvance, hindex],
      by rw [hdrain, hdrop]⟩
  · intro i hall more
    have happend : told parser data (steps ++ more) = told parser data steps ++ (used parser data steps).history more :=
      Session.history_append _ steps more
    obtain ⟨rest, hrest⟩ := (hintact (steps ++ more)).exists_append i
    rw [happend, Session.delivered_append, hall] at hrest ⊢
    rw [List.append_assoc, List.append_right_eq_self, List.append_eq_nil_iff] at hrest
    rw [hrest.1, List.append_nil]
  · intro limit
    rw [Session.act, Session.parse_eq (hintact steps)]
    cases limit with
    | none => rfl
    | some n =>
      dsimp only
      rw [List.length_map, List.map_take]
  · rw [Session.describe, used, hparser, hdata]
    rfl

end Undisturbed

/-- The iterators of one parser never disturb each other, neither those of the line parser nor those of the element
parser, whatever is done with it and in whatever order. -/
theorem iterators_undisturbed (data : Bytes) (steps : List Step) :
    Undisturbed (Parser.Lines.loop data) (Parser.Lines.events data) Parser.lines data steps ∧
    Undisturbed (Parser.Elements.loop data) (Parser.Elements.events data) Parser.elements data steps := by
  constructor
  · have hpasses (k : Nat) := Parser.Lines.pass_eq k data
    exact .of_unfolds Parser.lines data (Parser.Lines.unfolds data) hpasses steps
  · have hpasses (k : Nat) := Parser.Elements.pass_eq k data
    exact .of_unfolds Parser.elements data (Parser.Elements.unfolds data) hpasses steps

/-- Two iterators of an element, each in a place of its own when a consumer fails in a pass between them. -/
example :
    let data : Bytes := [0x7C, 0x61, 0x20, 0x62, 0x0A]
    let answered := told Parser.elements data
      [.iterate, .advance 0, .iterate, .parse (some 2), .advance 1, .advance 0, .rename "again", .drain 1, .advance 0]
    delivered 0 answered = [.ofEvent ⟨"ElementStart", none, 1, 1⟩, .ofEvent ⟨"Name", some [0x61], 1, 2⟩,
      .ofEvent ⟨"Text", some [0x62], 3, 4⟩] ∧
    delivered 1 answered = (Parser.Elements.events data).map .ofEvent := by
  decide +kernel

end EventBench
