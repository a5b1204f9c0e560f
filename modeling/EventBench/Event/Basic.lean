import EventBench.Event.Literal
import EventBench.Fault

namespace EventBench

/-- One construct that a parser reports. An event without content is a bracket, which only marks a
place. -/
structure Event where
  kind : String
  content : Option Bytes := none
  start : Int := 0
  stop : Int := 0
  deriving DecidableEq, Repr

namespace Event

/-- Builds an event, or tells what is wrong with each of its fields in the order of declaration.
The span is looked at only when every field is right. -/
def ofFields (fields : Fields) : Except (List Field.Rejection) Event :=
  let kind := fields.read "kind" (.error .missing) Field.Value.toIdentifier
  let content := fields.read "content" (.ok none) Field.Value.toContent
  let start := fields.read "start" (.ok 0) Field.Value.toOffset
  let stop := fields.read "end" (.ok 0) Field.Value.toOffset
  match kind, content, start, stop with
  | .ok kind, .ok content, .ok start, .ok stop =>
    if stop < start then .error [⟨"", .reversedSpan start stop⟩] else .ok ⟨kind, content, start, stop⟩
  | _, _, _, _ =>
    .error (Fields.refusal kind ++ Fields.refusal content ++ Fields.refusal start ++ Fields.refusal stop)

def toFields (e : Event) : Fields :=
  [("kind", .text e.kind),
    ("content", match e.content with | some b => .bytes b | none => .null),
    ("start", .integer e.start), ("end", .integer e.stop)]

/-- The names under which a record has places beside all that is kept in it. -/
def places : List String := ["__pydantic_extra__", "__pydantic_fields_set__", "__pydantic_private__"]

/-- What is kept in an event once a value was assigned to a name. Events do not change, but a name that
starts with an underscore is never that of a field and is not guarded: the value is kept under it, and a
dictionary even takes the place of all that is kept. -/
def assign (kept : Fields) (name : String) (v : Field.Value) : Except Fault Fields :=
  if name.toList.head? ≠ some '_' then .error (.invalid [⟨name, .frozen⟩])
  else
    match Inner.all.find? (·.name == name), v with
    | some .contents, .dictionary entries => .ok entries
    | some inner, v => .error (.unassignable inner v)
    | none, v => .ok (if places.contains name then kept else kept.put name v)

def isBracket (e : Event) : Bool :=
  e.content.isNone

def span (e : Event) : Int × Int :=
  (e.start, e.stop)

/-- The line of an event: kind, literal if there is content, span. -/
def render (e : Event) : List Char :=
  e.kind.toList ++ (match e.content with | some b => ' ' :: Literal.encode b | none => [])
    ++ " @ ".toList ++ Text.Numeral.ofInt e.start ++ "..".toList ++ Text.Numeral.ofInt e.stop

def line (e : Event) : String :=
  String.ofList e.render

def fits (limit : Nat) (e : Event) : Bool :=
  Text.Integer.digits e.start ≤ limit && Text.Integer.digits e.stop ≤ limit

theorem toList_line (e : Event) : e.line.toList = e.render :=
  String.toList_ofList

end Event

end EventBench
