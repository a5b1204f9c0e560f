import EventBench.Proofs.Event.Valid

namespace EventBench.Pass

variable {σ : Type} (visit : σ → Entry → σ × Option Fault)

/-- The consumer takes these entries in a row without a fault, which brings it from one state to another. -/
inductive Takes : σ → List Entry → σ → Prop
  | nil (s : σ) : Takes s [] s
  | cons {s t u : σ} {e : Entry} {entries : List Entry} (head : visit s e = (t, none)) (tail : Takes t entries u) :
    Takes s (e :: entries) u

/-- A consumer with a record of its calls, the last one first. -/
def recorded (s : List Entry × σ) (e : Entry) : (List Entry × σ) × Option Fault :=
  ((e :: s.1, (visit s.2 e).1), (visit s.2 e).2)

variable {visit}

theorem Takes.recorded {s t : σ} {entries : List Entry} (h : Takes visit s entries t) (calls : List Entry) :
    Takes (recorded visit) (calls, s) entries (entries.reverse ++ calls, t) := by
  induction h generalizing calls with
  | nil s => exact .nil _
  | @cons s t u e entries head tail ih =>
    have hhead : Pass.recorded visit (calls, s) e = ((e :: calls, t), none) := by rw [Pass.recorded, head]
    rw [List.reverse_cons, List.append_assoc]
    exact .cons hhead (ih (e :: calls))

theorem ofSteps_append (entries : List Entry) (later : List (Except Fault Entry)) :
    ofSteps (entries.map .ok ++ later) = ⟨entries ++ (ofSteps later).entries, (ofSteps later).failure⟩ := by
  induction entries with
  | nil => rfl
  | cons e entries ih => rw [List.map_cons, List.cons_append, ofSteps_ok, ih]; rfl

/-- The steps of a pass that builds events, each from its own fields. -/
def building (events : List Event) : List (Except Fault Entry) :=
  events.map fun e => Entry.build e.toFields

theorem building_eq (events : List Event) (h : ∀ e ∈ events, e.Valid) :
    building events = (events.map Entry.ofEvent).map .ok := by
  rw [building, List.map_map]
  exact List.map_congr_left fun e he => Entry.build_toFields e (h e he)

/-- Hands a consumer the entries of a pass that takes a step whenever it is asked for an entry. Beside the outcome
stand the steps that it was not asked for. -/
def drive (visit : σ → Entry → σ × Option Fault) (s : σ) :
    List (Except Fault Entry) → (σ × Option Fault) × List (Except Fault Entry)
  | [] => ((s, none), [])
  | .error f :: later => ((s, some f), later)
  | .ok e :: later =>
    match visit s e with
    | (s, none) => drive visit s later
    | (s, some f) => ((s, some f), later)

theorem drive_eq_run (steps : List (Except Fault Entry)) (s : σ) :
    (drive visit s steps).1 = (ofSteps steps).run visit s := by
  induction steps generalizing s with
  | nil => rfl
  | cons step later ih =>
    cases step with
    | error f => rfl
    | ok e =>
      rw [ofSteps_ok, run, drive, feed]
      cases hvisit : visit s e with
      | mk t failure =>
        cases failure with
        | none => exact ih t
        | some f => rfl

theorem drive_append {s t : σ} {entries : List Entry} (h : Takes visit s entries t)
    (later : List (Except Fault Entry)) : drive visit s (entries.map .ok ++ later) = drive visit t later := by
  induction h with
  | nil s => rfl
  | cons head tail ih => rw [List.map_cons, List.cons_append, drive, head]; exact ih

/-- A step that fails is the last, and its fault comes out as it is. -/
theorem drive_fault {s t : σ} {entries : List Entry} (h : Takes visit s entries t) (f : Fault)
    (later : List (Except Fault Entry)) :
    drive visit s (entries.map .ok ++ .error f :: later) = ((t, some f), later) := by
  rw [drive_append h, drive]

/-- No step is taken behind the entry that the consumer fails on. -/
theorem drive_refusal {s t u : σ} {before : List Entry} {e : Entry} {f : Fault} (h : Takes visit s before t)
    (hrefuse : visit t e = (u, some f)) (later : List (Except Fault Entry)) :
    drive visit s (before.map .ok ++ .ok e :: later) = ((u, some f), later) := by
  rw [drive_append h, drive, hrefuse]

/-- Two consumers go in step if a relation of their states is kept by every entry, and one fails on it just when the
other does, with the same fault. -/
def InStep {τ : Type} (related : σ → τ → Prop) (visit : σ → Entry → σ × Option Fault)
    (visit' : τ → Entry → τ × Option Fault) : Prop :=
  ∀ s t e, related s t → related (visit s e).1 (visit' t e).1 ∧ (visit s e).2 = (visit' t e).2

theorem InStep.feed {τ : Type} {related : σ → τ → Prop} {visit' : τ → Entry → τ × Option Fault}
    (h : InStep related visit visit') (failure : Option Fault) (entries : List Entry) (s : σ) (t : τ)
    (hst : related s t) :
    related (Pass.feed visit s failure entries).1 (Pass.feed visit' t failure entries).1 ∧
      (Pass.feed visit s failure entries).2 = (Pass.feed visit' t failure entries).2 := by
  induction entries generalizing s t with
  | nil => exact ⟨hst, rfl⟩
  | cons e entries ih =>
    obtain ⟨hnext, hfailure⟩ := h s t e hst
    rw [Pass.feed, Pass.feed]
    revert hnext hfailure
    cases visit s e with
    | mk s' f =>
      cases visit' t e with
      | mk t' f' =>
        intro hnext hfailure
        obtain rfl : f = f' := hfailure
        cases f with
        | none => exact ih s' t' hnext
        | some f => exact ⟨hnext, rfl⟩

/-- Consumers that go in step through every pass end it with the same fault, if any. -/
theorem InStep.run {τ : Type} {related : σ → τ → Prop} {visit' : τ → Entry → τ × Option Fault}
    (h : InStep related visit visit') (p : Pass) {s : σ} {t : τ} (hst : related s t) :
    related (p.run visit s).1 (p.run visit' t).1 ∧ (p.run visit s).2 = (p.run visit' t).2 :=
  h.feed p.failure p.entries s t hst

/-- What is done with a pass that builds valid events and then fails: every event is handed over once, in order, and
the fault comes out with nothing taken behind it. -/
theorem recorded_fault (events : List Event) (hvalid : ∀ e ∈ events, e.Valid) (f : Fault) {s t : σ}
    (h : Takes visit s (events.map .ofEvent) t) (later : List (Except Fault Entry)) :
    (ofSteps (building events ++ .error f :: later)).run (Pass.recorded visit) ([], s)
      = (((events.map .ofEvent).reverse, t), some f) ∧
    (drive (Pass.recorded visit) ([], s) (building events ++ .error f :: later)).2 = later := by
  have hdrive := drive_fault (h.recorded []) f later
  rw [List.append_nil, ← building_eq events hvalid] at hdrive
  exact ⟨by rw [← drive_eq_run, hdrive], congrArg Prod.snd hdrive⟩

/-- What is done with a pass whose consumer fails on a valid event: it was handed the events in front of it and
this one, and nothing is taken behind it. -/
theorem recorded_refusal (events : List Event) (e : Event) (hvalid : ∀ d ∈ events ++ [e], d.Valid) (g : Fault)
    {s t u : σ} (h : Takes visit s (events.map .ofEvent) t) (hrefuse : visit t (.ofEvent e) = (u, some g))
    (later : List (Except Fault Entry)) :
    (ofSteps (building (events ++ [e]) ++ later)).run (Pass.recorded visit) ([], s)
      = ((.ofEvent e :: (events.map .ofEvent).reverse, u), some g) ∧
    (drive (Pass.recorded visit) ([], s) (building (events ++ [e]) ++ later)).2 = later := by
  have hcall : Pass.recorded visit ((events.map Entry.ofEvent).reverse ++ [], t) (.ofEvent e)
      = ((.ofEvent e :: ((events.map .ofEvent).reverse ++ []), u), some g) := by
    rw [Pass.recorded, hrefuse]
  have hsteps : building (events ++ [e]) ++ later
      = (events.map Entry.ofEvent).map .ok ++ .ok (.ofEvent e) :: later := by
    rw [building_eq _ hvalid, List.map_append, List.map_append, List.append_assoc]
    rfl
  have hdrive := drive_refusal (h.recorded []) hcall later
  rw [← hsteps, List.append_nil] at hdrive
  exact ⟨by rw [← drive_eq_run, hdrive], congrArg Prod.snd hdrive⟩

/-- A pass that builds valid events and then fails reports them and the fault. -/
theorem ofSteps_fault (events : List Event) (hvalid : ∀ e ∈ events, e.Valid) (f : Fault)
    (later : List (Except Fault Entry)) :
    ofSteps (building events ++ .error f :: later) = ofEvents events (some f) := by
  rw [building_eq events hvalid, ofSteps_append, ofSteps_error, List.append_nil]
  rfl

end EventBench.Pass
