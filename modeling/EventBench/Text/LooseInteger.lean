import EventBench.Text.Blank
import EventBench.Text.Integer

namespace EventBench.Text.LooseInteger

/-- Why a text is no integer. -/
inductive Problem
  /-- It begins with a plain numeral beyond the limit. -/
  | tooLong
  /-- It is no numeral, not even a loose one. -/
  | unreadable
  deriving DecidableEq, Repr

def splitMinus : List Char → Bool × List Char
  | '-' :: rest => (true, rest)
  | cs => (false, cs)

def isSignificant (c : Char) : Bool :=
  c.isDigit && c != '0'

/-- Whether a text begins with a plain numeral of more digits than the limit. A zero in front is all
of its numeral. -/
def isOverlong (cs : List Char) : Bool :=
  let (_, body) := splitMinus cs
  body.head?.any isSignificant && Integer.digitLimit < (body.takeWhile Char.isDigit).length

/-- The digits of a plain numeral: a zero alone, or no zero in front. -/
def isPlain : List Char → Bool
  | [] => false
  | [c] => c.isDigit
  | c :: rest => isSignificant c && rest.all Char.isDigit

def plain? (cs : List Char) : Option Int :=
  let (negative, body) := splitMinus cs
  if isPlain body && !isOverlong cs then
    some (Integer.signed negative (Numeral.value (body.filterMap plainDigitValue?)))
  else none

/-- What stands behind zeros and underscores; `last` is the one before. Of these alone the last is
left, and a point keeps the one before it. -/
def dropZerosFrom (last : Char) : List Char → Option (List Char)
  | [] => some [last]
  | c :: rest =>
    if c = '0' ∨ c = '_' then dropZerosFrom c rest
    else if isSignificant c ∨ c = '-' then some (c :: rest)
    else if c = '.' then some (last :: c :: rest)
    else none

/-- A numeral without the zeros in front of it, and the underscores between them. -/
def dropZeros : List Char → Option (List Char)
  | [] => none
  | c :: rest =>
    if c = '0' then dropZerosFrom c rest
    else if isSignificant c then some (c :: rest)
    else none

/-- A numeral without a point and zeros behind it, such as `5.000`. -/
def dropZeroTail (cs : List Char) : List Char :=
  let tail := (cs.dropWhile (· != '.')).drop 1
  if !tail.isEmpty && tail.all (· == '0') then cs.takeWhile (· != '.') else cs

/-- A loose numeral without its sign, tidied. -/
def tidyMagnitude (cs : List Char) : Option (List Char) :=
  (dropZeros cs).map fun cs =>
    let cs := dropZeroTail cs
    (withoutUnderscores? cs).getD cs

def tidy (cs : List Char) : Option (List Char) :=
  match trim isWhiteSpace cs with
  | '+' :: rest => tidyMagnitude rest
  | '-' :: rest => (tidyMagnitude rest).map ('-' :: ·)
  | cs => tidyMagnitude cs

/-- Reads a plain numeral, or else a loose one. Only the text as it is can be too long. -/
def read (cs : List Char) : Except Problem Int :=
  match plain? cs with
  | some n => .ok n
  | none =>
    if isOverlong cs then .error .tooLong
    else
      match (tidy cs).bind plain? with
      | some n => .ok n
      | none => .error .unreadable

end EventBench.Text.LooseInteger
