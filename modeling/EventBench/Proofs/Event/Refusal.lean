import Mathlib.Control.Monad.Basic
import EventBench.Proofs.Event.Assignment
import EventBench.Proofs.Event.Valid

namespace EventBench

namespace Field

def kindCauses : List Cause := [.missing, .notText, .notUtf8, .notIdentifier]

def contentCauses : List Cause := [.notBytes]

def offsetCauses : List Cause :=
  [.notInteger, .unreadableInteger, .integerTooLong, .fractional, .notFinite, .negative]

end Field

namespace Fields

variable {α : Type} (fields : Fields) (name : String) (absent : Except Field.Cause α)
  (reader : Field.Value → Except Field.Cause α)

end Fields

namespace Event

section

variable (fields : Fields)

def contentOf : Except Field.Rejection (Option Bytes) :=
  fields.read "content" (.ok none) Field.Value.toContent

/-- The fields of an event in the order of their declaration, each with the causes for which it is refused. -/
def declared : List (String × List Field.Cause) :=
  [("kind", Field.kindCauses), ("content", Field.contentCauses), ("start", Field.offsetCauses),
    ("end", Field.offsetCauses)]

end

end Event

end EventBench
