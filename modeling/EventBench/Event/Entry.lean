import EventBench.Event.Basic

namespace EventBench

/-- The values of an event, taken as they are. -/
structure Entry where
  kind : Option Field.Value
  content : Field.Value := .null
  start : Field.Value := .integer 0
  stop : Field.Value := .integer 0
  deriving DecidableEq, Repr

namespace Entry

def ofEvent (e : Event) : Entry where
  kind := some (.text e.kind)
  content := match e.content with | some b => .bytes b | none => .null
  start := .integer e.start
  stop := .integer e.stop

def build (fields : Fields) : Except Fault Entry :=
  match Event.ofFields fields with
  | .ok e => .ok (ofEvent e)
  | .error rejections => .error (.invalid rejections)

/-- The entry of fields that nobody checks; a field that is missing has the value of an event without
it, and only the kind has none. -/
def ofFields (fields : Fields) : Entry where
  kind := fields.lookup "kind"
  content := (fields.lookup "content").getD .null
  start := (fields.lookup "start").getD (.integer 0)
  stop := (fields.lookup "end").getD (.integer 0)

def literal (e : Entry) : Except Fault (List Char) :=
  match e.content with
  | .null => .ok []
  | .bytes b => .ok (' ' :: Literal.encode b)
  | v => .error (.undecodable v)

def kindText (e : Entry) : List Char :=
  match e.kind with
  | some v => v.shown
  | none => []

/-- A value as it stands in a line, unless it holds a numeral beyond the limit. -/
def spelt (limit : Option Nat) (v : Field.Value) : Except Fault (List Char) :=
  match limit with
  | some most => if v.fits most then .ok v.shown else .error (.overlongNumeral most)
  | none => .ok v.shown

/-- The line of an entry. Without a kind, with content that is no bytes, or with a numeral beyond the
limit of digits, if there is one, it cannot be written. -/
def line (e : Entry) (limit : Option Nat := none) : Except Fault String :=
  match e.kind with
  | none => .error .nameless
  | some kind => do
    let kind ← spelt limit kind
    let literal ← e.literal
    let start ← spelt limit e.start
    let stop ← spelt limit e.stop
    return String.ofList (kind ++ literal ++ " @ ".toList ++ start ++ "..".toList ++ stop)

theorem line_ofEvent (e : Event) : (ofEvent e).line = .ok e.line := by
  obtain ⟨kind, content, start, stop⟩ := e
  cases content <;> rfl

theorem spelt_integer (most : Nat) (n : Int) :
    spelt (some most) (.integer n)
      = if Text.Integer.digits n ≤ most then .ok (Text.Numeral.ofInt n) else .error (.overlongNumeral most) := by
  simp only [spelt, Field.Value.fits, decide_eq_true_eq, Field.Value.shown, Field.Value.quoted]

theorem line_ofEvent_within (e : Event) (most : Nat) :
    (ofEvent e).line (some most) = if e.fits most then .ok e.line else .error (.overlongNumeral most) := by
  have hline : (ofEvent e).line (some most) = (do
      let start ← spelt (some most) (.integer e.start)
      let stop ← spelt (some most) (.integer e.stop)
      return String.ofList (e.kind.toList ++ (match e.content with | some b => ' ' :: Literal.encode b | none => [])
        ++ " @ ".toList ++ start ++ "..".toList ++ stop)) := by
    obtain ⟨kind, content, start, stop⟩ := e
    cases content <;> rfl
  rw [hline, spelt_integer, spelt_integer]
  by_cases hstart : Text.Integer.digits e.start ≤ most
  · by_cases hstop : Text.Integer.digits e.stop ≤ most
    · have hfits : e.fits most = true := by simp [Event.fits, hstart, hstop]
      rw [if_pos hstart, if_pos hstop, if_pos hfits]
      rfl
    · have hfits : ¬ e.fits most = true := by simp [Event.fits, hstop]
      rw [if_pos hstart, if_neg hstop, if_neg hfits]
      rfl
  · have hfits : ¬ e.fits most = true := by simp [Event.fits, hstart]
    rw [if_neg hstart, if_neg hfits]
    rfl

end Entry

end EventBench
