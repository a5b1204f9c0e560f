import EventBench.Text.Blank
import EventBench.Text.Digit
import EventBench.Text.Numeral

namespace EventBench.Text.Integer

/-- The number of digits beyond which a numeral is neither read nor written. -/
def digitLimit : Nat := 4300

def digits (n : Int) : Nat :=
  (Numeral.decimal n.natAbs).length

/-- What is told in place of a numeral that is too long to be written. -/
def overlong (limit : Nat) : String :=
  "Exceeds the limit (" ++ String.ofList (Numeral.decimal limit)
    ++ " digits) for integer string conversion; use sys.set_int_max_str_digits() to increase the limit"

/-- A text in which numerals stand; one that is too long takes the place of it all. -/
def telling (numerals : List Int) (text : String) : String :=
  if numerals.all (digits · ≤ digitLimit) then text else overlong digitLimit

def splitSign : List Char → Bool × List Char
  | '-' :: rest => (true, rest)
  | '+' :: rest => (false, rest)
  | cs => (false, cs)

def signed (negative : Bool) (n : Nat) : Int :=
  if negative then -n else n

def read? (s : String) : Option Int :=
  let (negative, body) := splitSign (trim isWhiteSpace s.toList)
  match digitRun digitValue? body with
  | none => none
  | some digits =>
    if digits.length ≤ digitLimit then some (signed negative (Numeral.value digits)) else none

end EventBench.Text.Integer
