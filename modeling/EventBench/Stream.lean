import EventBench.Console
import EventBench.Pass

namespace EventBench.Stream

variable {σ : Type}

/-- Writes the line of an entry; beside the stream stands the number of entries written. -/
def visit (limit : Option Nat) (write : σ → String → Except Fault σ) (s : σ × Nat) (e : Entry) :
    (σ × Nat) × Option Fault :=
  match e.line limit with
  | .error f => (s, some f)
  | .ok line =>
    match write s.1 (line ++ "\n") with
    | .ok out => ((out, s.2 + 1), none)
    | .error f => (s, some f)

def run (write : σ → String → Except Fault σ) (out : σ) (p : Pass) (limit : Option Nat := none) :
    (σ × Nat) × Option Fault :=
  p.run (visit limit write) (out, 0)

/-- The text of a pass, the number of its entries, and the fault that ends it. -/
def ofPass (p : Pass) (limit : Option Nat := none) : (String × Nat) × Option Fault :=
  let ((out, n), failure) := run Sink.text.write [] p limit
  ((TextStream.text out, n), failure)

/-- All events of a pass are written, each as a line, also when the pass fails in the end. -/
theorem run_text (events : List Event) (failure : Option Fault) :
    run Sink.text.write [] (.ofEvents events failure)
      = (((events.map fun e => e.line ++ "\n").reverse, events.length), failure) := by
  have h : ∀ (es : List Event) (out : TextStream) (n : Nat),
      Pass.feed (visit none Sink.text.write) (out, n) failure (es.map Entry.ofEvent)
        = (((es.map fun e => e.line ++ "\n").reverse ++ out, n + es.length), failure) := by
    intro es
    induction es with
    | nil => intro out n; rfl
    | cons e es ih =>
      intro out n
      have hv : visit none Sink.text.write (out, n) (.ofEvent e) = ((((e.line ++ "\n") :: out), n + 1), none) := by
        rw [visit, Entry.line_ofEvent]
        rfl
      rw [List.map_cons, Pass.feed, hv]
      dsimp only
      rw [ih]
      simp [Nat.add_assoc, Nat.add_comm 1]
  simpa [run, Pass.run, Pass.ofEvents] using h events [] 0

theorem ofPass_ofEvents (events : List Event) (failure : Option Fault) :
    ofPass (.ofEvents events failure)
      = ((String.join (events.map fun e => e.line ++ "\n"), events.length), failure) := by
  simp [ofPass, run_text, TextStream.text]

end EventBench.Stream
