import EventBench.Event.Entry

namespace EventBench

/-- What one pass over an input reports: its entries in order, and the fault that ends it, if any. -/
structure Pass where
  entries : List Entry
  failure : Option Fault := none
  deriving DecidableEq, Repr

namespace Pass

def ofEvents (events : List Event) (failure : Option Fault := none) : Pass :=
  ⟨events.map Entry.ofEvent, failure⟩

/-- The pass that takes steps until one of them fails; `done` holds the entries before, the last one
first. -/
def ofStepsFrom (done : List Entry) : List (Except Fault Entry) → Pass
  | [] => ⟨done.reverse, none⟩
  | .ok e :: steps => ofStepsFrom (e :: done) steps
  | .error f :: _ => ⟨done.reverse, some f⟩

/-- The pass that takes steps until one of them fails. -/
def ofSteps (steps : List (Except Fault Entry)) : Pass :=
  ofStepsFrom [] steps

/-- What was made before stands in front of the other entries. -/
theorem ofStepsFrom_eq (done : List Entry) (steps : List (Except Fault Entry)) :
    ofStepsFrom done steps = ⟨done.reverse ++ (ofSteps steps).entries, (ofSteps steps).failure⟩ := by
  have h : ∀ done, ofStepsFrom done steps
      = ⟨done.reverse ++ (ofStepsFrom [] steps).entries, (ofStepsFrom [] steps).failure⟩ := by
    induction steps with
    | nil => simp [ofStepsFrom]
    | cons step steps ih =>
      intro done
      cases step with
      | ok e =>
        rw [ofStepsFrom, ofStepsFrom, ih (e :: done), ih [e]]
        simp
      | error f => simp [ofStepsFrom]
  exact h done

theorem ofSteps_ok (e : Entry) (steps : List (Except Fault Entry)) :
    ofSteps (.ok e :: steps) = ⟨e :: (ofSteps steps).entries, (ofSteps steps).failure⟩ := by
  rw [ofSteps, ofStepsFrom, ofStepsFrom_eq]
  rfl

theorem ofSteps_error (f : Fault) (steps : List (Except Fault Entry)) :
    ofSteps (.error f :: steps) = ⟨[], some f⟩ := rfl

/-- The pass that builds events one by one, each from its own fields. -/
def ofDrafts (drafts : List Event) : Pass :=
  ofSteps (drafts.map fun e => Entry.build e.toFields)

/-- Hands entries to a consumer until it fails; then no further one is asked for. -/
def feed {σ : Type} (visit : σ → Entry → σ × Option Fault) (s : σ) (failure : Option Fault) :
    List Entry → σ × Option Fault
  | [] => (s, failure)
  | e :: es =>
    match visit s e with
    | (s, none) => feed visit s failure es
    | (s, some f) => (s, some f)

/-- Runs a pass with a consumer. The fault is that of the consumer or else that of the pass. -/
def run {σ : Type} (p : Pass) (visit : σ → Entry → σ × Option Fault) (s : σ) : σ × Option Fault :=
  feed visit s p.failure p.entries

def fold {σ : Type} (p : Pass) (visit : σ → Entry → σ) (s : σ) : σ × Option Fault :=
  p.run (fun s e => (visit s e, none)) s

def count (p : Pass) : Nat × Option Fault :=
  p.fold (fun n _ => n + 1) 0

def addLine (limit : Option Nat) (lines : List String) (e : Entry) : List String × Option Fault :=
  match e.line limit with
  | .ok line => (line :: lines, none)
  | .error f => (lines, some f)

/-- The lines of the entries of a pass, in order; one that cannot be written ends them. -/
def lines (p : Pass) (limit : Option Nat := none) : List String × Option Fault :=
  let (lines, failure) := p.run (addLine limit) []
  (lines.reverse, failure)

theorem feed_of_never_fails {σ : Type} (visit : σ → Entry → σ) (s : σ) (failure : Option Fault)
    (es : List Entry) :
    feed (fun s e => (visit s e, none)) s failure es = (es.foldl visit s, failure) := by
  induction es generalizing s with
  | nil => rfl
  | cons e es ih => simp [feed, ih]

theorem fold_eq {σ : Type} (p : Pass) (visit : σ → Entry → σ) (s : σ) :
    p.fold visit s = (p.entries.foldl visit s, p.failure) :=
  feed_of_never_fails visit s p.failure p.entries

/-- Every entry is counted once, also when the pass fails in the end. -/
theorem count_eq (p : Pass) : p.count = (p.entries.length, p.failure) := by
  have h : ∀ (es : List Entry) (n : Nat), es.foldl (fun n _ => n + 1) n = n + es.length := by
    intro es
    induction es with
    | nil => simp
    | cons e es ih => intro n; simp [ih]; omega
  simp [count, fold_eq, h]

theorem addLine_ofEvent (lines : List String) (e : Event) :
    addLine none lines (.ofEvent e) = (e.line :: lines, none) := by
  rw [addLine, Entry.line_ofEvent]

/-- The lines of a pass that reports events are those of the events, in their order. -/
theorem lines_ofEvents (events : List Event) (failure : Option Fault) :
    (ofEvents events failure).lines = (events.map Event.line, failure) := by
  have h : ∀ (es : List Event) (lines : List String),
      feed (addLine none) lines failure (es.map Entry.ofEvent)
        = ((es.map Event.line).reverse ++ lines, failure) := by
    intro es
    induction es with
    | nil => simp [feed]
    | cons e es ih => intro lines; simp [feed, addLine_ofEvent, ih]
  simp [lines, run, ofEvents, h]

end Pass

/-- A class of parsers: what it is called, the label its parsers carry, the module that defines it,
and its passes over an input, counted from zero. -/
structure ParserClass where
  name : String
  label : String
  home : String
  pass : Nat → Bytes → Pass

end EventBench
