import EventBench.Pass
import EventBench.Text.LineBreak

namespace EventBench.Contract

/-- A broken promise. -/
inductive Violation
  /-- Two passes gave different lines; their numbers. -/
  | unstable (first second : Nat)
  /-- An event starts before the greatest start so far. -/
  | backward (index : Nat) (entry : Entry) (last : Field.Value)
  /-- An event ends behind the input. -/
  | beyond (index : Nat) (entry : Entry) (size : Nat)
  /-- The line of an event holds a line break. -/
  | broken (index : Nat) (line : String)
  deriving DecidableEq, Repr

def about (index : Nat) : String :=
  "event " ++ String.ofList (Text.Numeral.decimal index)

def aboutKind (index : Nat) (e : Entry) : String :=
  about index ++ " (" ++ String.ofList e.kindText ++ ")"

def Violation.message : Violation → String
  | .unstable first second =>
    "non-deterministic output: " ++ String.ofList (Text.Numeral.decimal first) ++ " lines then "
      ++ String.ofList (Text.Numeral.decimal second) ++ " lines"
  | .backward index entry last =>
    aboutKind index entry ++ " starts at " ++ String.ofList entry.start.shown ++ ", before "
      ++ String.ofList last.shown
  | .beyond index entry size =>
    aboutKind index entry ++ " ends at " ++ String.ofList entry.stop.shown ++ ", past input end "
      ++ String.ofList (Text.Numeral.decimal size)
  | .broken index line => about index ++ " renders a line break: " ++ Text.quoted line

def stability (first second : List String) : List Violation :=
  if first = second then [] else [.unstable first.length second.length]

/-- The violations of one span, after entries whose greatest start is `last`. -/
def spanViolations (size index : Nat) (last : Field.Value) (e : Entry) : Except Fault (List Violation) :=
  match e.start.less? last, (Field.Value.integer size).less? e.stop with
  | none, _ => .error (.unordered '<' e.start last)
  | some _, none => .error (.unordered '>' e.stop (.integer size))
  | some back, some past =>
    .ok ((if back then [.backward index e last] else []) ++ (if past then [.beyond index e size] else []))

/-- The greater of two starts; of equal ones the earlier. -/
def latest (last start : Field.Value) : Field.Value :=
  if last.less? start = some true then start else last

def spansFrom (size index : Nat) (last : Field.Value) : List Entry → Except Fault (List Violation)
  | [] => .ok []
  | e :: es =>
    match spanViolations size index last e with
    | .error f => .error f
    | .ok here =>
      match spansFrom size (index + 1) (latest last e.start) es with
      | .error f => .error f
      | .ok rest => .ok (here ++ rest)

def linesFrom (index : Nat) : List String → List Violation
  | [] => []
  | line :: rest =>
    (if (Text.lines line.toList).length = 1 then [] else [.broken index line])
      ++ linesFrom (index + 1) rest

/-- What the entries of one pass, their lines, and the lines of another pass break. -/
def violations (size : Nat) (entries : List Entry) (first second : List String) :
    Except Fault (List Violation) :=
  match spansFrom size 0 (.integer 0) entries with
  | .error f => .error f
  | .ok spans => .ok (stability first second ++ spans ++ linesFrom 0 first)

/-- Checks the first two passes of a class over an input. The first pass is taken as a whole before
any of its lines is written. -/
def check (parser : ParserClass) (data : Bytes) (limit : Option Nat := none) : Except Fault (List Violation) :=
  let pass := parser.pass 0 data
  match pass.failure, pass.lines limit, (parser.pass 1 data).lines limit with
  | some f, _, _ => .error f
  | none, (_, some f), _ => .error f
  | none, (_, none), (_, some f) => .error f
  | none, (first, none), (second, none) => violations data.length pass.entries first second

end EventBench.Contract
