import EventBench.Contract
import EventBench.Golden
import EventBench.Stream
import EventBench.Proofs.Event.Valid
import EventBench.Proofs.Text.Integer

namespace EventBench

theorem Text.Integer.lt_digits_of_weight_le (n : Int) (most : Nat) (hmost : 0 < most)
    (h : Numeral.weight most ≤ n.natAbs) : most < digits n := by
  rw [digits, ← Nat.not_le]
  intro hle
  exact absurd ((Nat.length_toDigits_le_iff (by decide) hmost).mp hle) (Nat.not_lt.mpr h)

/-- Whatever the limit is, a valid event can go beyond it. -/
theorem Event.exists_not_fits (most : Nat) (hmost : 0 < most) : ∃ e : Event, e.Valid ∧ ¬ e.fits most = true := by
  have hkind : Field.isIdentifier "A".toList = true := by decide
  refine ⟨⟨"A", none, 0, Text.Numeral.weight most⟩, ⟨hkind, Int.le_refl 0, Int.natCast_nonneg _⟩, ?_⟩
  have hlong : most < Text.Integer.digits (Text.Numeral.weight most : Int) :=
    Text.Integer.lt_digits_of_weight_le _ most hmost (Int.natAbs_natCast _).ge
  simp only [fits, Bool.and_eq_true, decide_eq_true_eq, not_and, Nat.not_le]
  exact fun _ => hlong

theorem exists_of_bind_eq_ok {α β : Type} {x : Except Fault α} {next : α → Except Fault β} {b : β}
    (h : (x >>= next) = .ok b) : ∃ a, x = .ok a ∧ next a = .ok b := by
  cases x with
  | error f => cases h
  | ok a => exact ⟨a, rfl, h⟩

namespace Pass

variable {σ : Type}

/-- A pass as far as it can be written: a numeral beyond the limit ends it in front of the first event that holds
one. -/
def within (most : Nat) (events : List Event) (failure : Option Fault) : Pass :=
  .ofEvents (events.takeWhile (·.fits most))
    (if events.all (·.fits most) then failure else some (.overlongNumeral most))

theorem within_eq_of_fits (most : Nat) (events : List Event) (failure : Option Fault)
    (h : ∀ e ∈ events, e.fits most = true) : within most events failure = .ofEvents events failure := by
  rw [within, if_pos (List.all_eq_true.mpr h), List.takeWhile_eq_self_iff.mpr h]

theorem within_of_not_fits (most : Nat) (events : List Event) (failure : Option Fault) (e : Event) (he : e ∈ events)
    (h : ¬ e.fits most = true) :
    within most events failure = .ofEvents (events.takeWhile (·.fits most)) (some (.overlongNumeral most)) := by
  rw [within, if_neg]
  intro hall
  exact h (List.all_eq_true.mp hall e he)

/-- A consumer that refuses what does not keep to a limit sees a pass as far as it can be written. -/
theorem run_within {visit visit' : σ → Entry → σ × Option Fault} (most : Nat)
    (hvisit : ∀ s e, visit' s (.ofEvent e)
      = if e.fits most then visit s (.ofEvent e) else (s, some (.overlongNumeral most)))
    (events : List Event) (failure : Option Fault) (s : σ) :
    (ofEvents events failure).run visit' s = (within most events failure).run visit s := by
  induction events generalizing s with
  | nil => rfl
  | cons e events ih =>
    have htail (t : σ) : feed visit' t failure (events.map .ofEvent)
        = feed visit t (within most events failure).failure (within most events failure).entries := ih t
    by_cases he : e.fits most = true
    · have hfailure : (within most (e :: events) failure).failure = (within most events failure).failure := by
        simp [within, ofEvents, he]
      have hentries : (within most (e :: events) failure).entries
          = .ofEvent e :: (within most events failure).entries := by
        simp [within, ofEvents, he]
      rw [run, run, hfailure, hentries, ofEvents, List.map_cons, feed, feed, hvisit, if_pos he]
      cases visit s (.ofEvent e) with
      | mk t g =>
        cases g with
        | none => exact htail t
        | some g => rfl
    · have hstop : within most (e :: events) failure = ⟨[], some (.overlongNumeral most)⟩ := by
        simp [within, ofEvents, he]
      rw [hstop, run, run, ofEvents, List.map_cons, feed, feed, hvisit, if_neg he]

theorem addLine_within (most : Nat) (lines : List String) (e : Event) :
    addLine (some most) lines (.ofEvent e)
      = if e.fits most then addLine none lines (.ofEvent e) else (lines, some (.overlongNumeral most)) := by
  rw [addLine, Entry.line_ofEvent_within, addLine_ofEvent]
  cases e.fits most <;> rfl

theorem lines_within (most : Nat) (events : List Event) (failure : Option Fault) :
    (ofEvents events failure).lines (some most) = (within most events failure).lines := by
  rw [lines, lines, run_within most (addLine_within most)]

end Pass

theorem Stream.visit_within {σ : Type} (write : σ → String → Except Fault σ) (most : Nat) (s : σ × Nat) (e : Event) :
    visit (some most) write s (.ofEvent e)
      = if e.fits most then visit none write s (.ofEvent e) else (s, some (.overlongNumeral most)) := by
  rw [visit, visit, Entry.line_ofEvent_within, Entry.line_ofEvent]
  cases e.fits most <;> rfl

theorem Stream.run_within {σ : Type} (write : σ → String → Except Fault σ) (out : σ) (most : Nat)
    (events : List Event) (failure : Option Fault) :
    run write out (.ofEvents events failure) (some most) = run write out (Pass.within most events failure) :=
  Pass.run_within most (Stream.visit_within write most) events failure (out, 0)

/-- The events that can be written are written, each as a line. -/
theorem Stream.run_text_within (most : Nat) (events : List Event) (failure : Option Fault) :
    run Sink.text.write [] (.ofEvents events failure) (some most)
      = ((((events.takeWhile (·.fits most)).map fun e => e.line ++ "\n").reverse,
          (events.takeWhile (·.fits most)).length), (Pass.within most events failure).failure) := by
  rw [run_within, Pass.within]
  exact run_text _ _

section

variable {limit : Option Nat}

theorem Entry.spelt_of_limited {v : Field.Value} {text : List Char} (h : spelt limit v = .ok text) :
    spelt none v = .ok text := by
  unfold spelt at h
  split at h
  · split at h
    · exact h
    · cases h
  · exact h

/-- A limit only takes lines away: what is written within it is written without it. -/
theorem Entry.line_of_limited {e : Entry} {text : String} (h : e.line limit = .ok text) : e.line = .ok text := by
  unfold line at h ⊢
  cases hkind : e.kind with
  | none =>
    rw [hkind] at h
    cases h
  | some kind =>
    rw [hkind] at h
    obtain ⟨k, hk, h⟩ := exists_of_bind_eq_ok h
    obtain ⟨literal, hliteral, h⟩ := exists_of_bind_eq_ok h
    obtain ⟨start, hstart, h⟩ := exists_of_bind_eq_ok h
    obtain ⟨stop, hstop, h⟩ := exists_of_bind_eq_ok h
    dsimp only
    rw [spelt_of_limited hk, hliteral, spelt_of_limited hstart, spelt_of_limited hstop]
    exact h

theorem Pass.feed_addLine_of_limited (failure : Option Fault) (entries : List Entry) (lines written : List String)
    (h : feed (addLine limit) lines failure entries = (written, none)) :
    feed (addLine none) lines failure entries = (written, none) := by
  induction entries generalizing lines with
  | nil => exact h
  | cons e entries ih =>
    rw [feed, addLine] at h ⊢
    cases hline : e.line limit with
    | error f =>
      rw [hline] at h
      cases h
    | ok line =>
      rw [hline] at h
      rw [Entry.line_of_limited hline]
      exact ih (line :: lines) h

theorem Pass.lines_of_limited {p : Pass} {lines : List String} (h : p.lines limit = (lines, none)) :
    p.lines = (lines, none) := by
  obtain ⟨hlines, hfailure⟩ := Prod.mk.inj h
  have hfeed := feed_addLine_of_limited p.failure p.entries [] _ (Prod.ext rfl hfailure)
  rw [Pass.lines, run, hfeed, ← hlines]

/-- So a comparison that is made within a limit is the one that is made without it. -/
theorem Golden.compare_of_limited {p : Pass} {expected : List String} {c : Comparison}
    (h : compare p expected limit = .ok c) : compare p expected = .ok c := by
  unfold compare at h ⊢
  rcases hlines : p.lines limit with ⟨actual, _ | f⟩
  · rw [hlines] at h
    rw [Pass.lines_of_limited hlines]
    exact h
  · rw [hlines] at h
    cases h

theorem Contract.check_of_limited {parser : ParserClass} {data : Bytes} {vs : List Violation}
    (h : check parser data limit = .ok vs) : check parser data = .ok vs := by
  unfold check at h ⊢
  dsimp only at h ⊢
  cases hfailure : (parser.pass 0 data).failure with
  | some f =>
    rw [hfailure] at h
    cases h
  | none =>
    rcases hfirst : (parser.pass 0 data).lines limit with ⟨first, _ | f⟩
    · rcases hsecond : (parser.pass 1 data).lines limit with ⟨second, _ | f⟩
      · rw [hfailure, hfirst, hsecond] at h
        rw [Pass.lines_of_limited hfirst, Pass.lines_of_limited hsecond]
        exact h
      · rw [hfailure, hfirst, hsecond] at h
        cases h
    · rw [hfailure, hfirst] at h
      cases h

end

end EventBench
