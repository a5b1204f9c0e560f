import EventBench.Pass

namespace EventBench

/-- An iterator over the entries of a pass. -/
inductive Cursor
  /-- Not asked for any entry yet. -/
  | fresh
  /-- Inside a pass, of which this is left. -/
  | running (rest : Pass)
  /-- At the end. -/
  | ended
  deriving DecidableEq, Repr

/-- A parser with its input, the number of passes that its class has started, and its iterators. -/
structure Session where
  parser : ParserClass
  data : Bytes
  label : String
  started : Nat := 0
  cursors : List Cursor := []

namespace Session

def start (parser : ParserClass) (data : Bytes) : Session where
  parser := parser
  data := data
  label := parser.label

def describe (s : Session) : String :=
  s.parser.name ++ "(name='" ++ s.label ++ "', size="
    ++ String.ofList (Text.Numeral.decimal s.data.length) ++ ")"

def nextPass (s : Session) : Pass :=
  s.parser.pass s.started s.data

def iterate (s : Session) : Nat × Session :=
  (s.cursors.length, { s with cursors := s.cursors ++ [.fresh] })

/-- What is left of the pass of an iterator; a fresh one starts its pass. -/
def enter (s : Session) : Cursor → Pass × Session
  | .fresh => (s.nextPass, { s with started := s.started + 1 })
  | .running rest => (rest, s)
  | .ended => (⟨[], none⟩, s)

def store (s : Session) (i : Nat) (c : Cursor) : Session :=
  { s with cursors := s.cursors.set i c }

/-- The next entry of an iterator, nothing at its end, or the fault that ends it. -/
def advance (s : Session) (i : Nat) : Except Fault (Option Entry) × Session :=
  let (rest, s) := s.enter (s.cursors[i]?.getD .ended)
  match rest with
  | ⟨e :: entries, failure⟩ => (.ok (some e), s.store i (.running ⟨entries, failure⟩))
  | ⟨[], some f⟩ => (.error f, s.store i .ended)
  | ⟨[], none⟩ => (.ok none, s.store i .ended)

/-- Uses up the entries of a pass; `done` holds what was made of those before, the last one first.
Beside the result stands where the iterator is left: at its end, or behind the entry that `take`
failed on. -/
def exhaust {α : Type} (take : Entry → Except Fault α) (failure : Option Fault) (done : List α) :
    List Entry → Except Fault (List α) × Cursor
  | [] =>
    match failure with
    | some f => (.error f, .ended)
    | none => (.ok done.reverse, .ended)
  | e :: entries =>
    match take e with
    | .ok a => exhaust take failure (a :: done) entries
    | .error f => (.error f, .running ⟨entries, failure⟩)

/-- What `take` makes of all entries that an iterator has left, or the fault that stops it. -/
def drain {α : Type} (s : Session) (take : Entry → Except Fault α) (i : Nat) :
    Except Fault (List α) × Session :=
  let (rest, s) := s.enter (s.cursors[i]?.getD .ended)
  let (result, cursor) := exhaust take rest.failure [] rest.entries
  (result, s.store i cursor)

/-- A consumer that collects what `take` makes of entries, the last one first. Beside them stands how
many it still takes, if there is a limit: it fails on the entry after the last of these. -/
def collect {α : Type} (take : Entry → Except Fault α) (seen : List α × Option Int) (e : Entry) :
    (List α × Option Int) × Option Fault :=
  if seen.2 = some 0 then (seen, some .consumer)
  else
    match take e with
    | .ok a => ((a :: seen.1, seen.2.map (· - 1)), none)
    | .error f => (seen, some f)

/-- Runs a pass of its own with a consumer that fails after `limit` entries, if there is a limit that
is not negative: what the consumer made of the entries that it took, and the fault that ended the
pass. -/
def parse {α : Type} (s : Session) (take : Entry → Except Fault α) (limit : Option Int) :
    (List α × Option Fault) × Session :=
  let ((seen, _), failure) := s.nextPass.run (collect take) ([], limit)
  ((seen.reverse, failure), { s with started := s.started + 1 })

def rename (s : Session) (label : String) : Session :=
  { s with label := label }

end Session

end EventBench
