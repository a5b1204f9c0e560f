import EventBench.Double.Basic
import EventBench.Text.Blank
import EventBench.Text.Integer

namespace EventBench.Double

open Text

/-- The digits of a quotient with `places` places after the point, split at the point. -/
def fixedParts (places units : Nat) : List Char × List Char :=
  let scaled := roundQuotient (units * Numeral.weight places) one
  (Numeral.decimal (scaled / Numeral.weight places),
    if places = 0 then [] else Numeral.padded places (Numeral.decimal (scaled % Numeral.weight places)))

/-- Writes the sign, the part before the point as `whole` shows it, and the places. -/
def fixedWith (whole : List Char → List Char) (places : Nat) : Double → List Char
  | .nan => "nan".toList
  | .infinite negative => if negative then "-inf".toList else "inf".toList
  | .finite negative units =>
    let (before, after) := fixedParts places units
    let sign := if negative then ['-'] else []
    sign ++ whole before ++ (if places = 0 then [] else '.' :: after)

/-- The number with a fixed count of places. -/
def fixed (places : Nat) (x : Double) : List Char :=
  fixedWith id places x

/-- The number rounded to an integer, with a comma before every third digit. -/
def rounded (x : Double) : List Char :=
  fixedWith Numeral.grouped 0 x

/-- Beyond this power of ten on either side, a number is nearest to zero or too large for a double. -/
def farthest : Int := 400

/-- The double nearest to `digits · 10^exponent`. The first digit that is not zero and its place tell
whether the number is near enough to any double to be computed. -/
def ofDecimal (negative : Bool) (digits : List Nat) (exponent : Int) : Double :=
  let digits := digits.dropWhile (· == 0)
  let top := exponent + digits.length
  if digits.isEmpty ∨ top < -farthest then .finite negative 0
  else if farthest < top then .infinite negative
  else if 0 ≤ exponent then
    ofQuotient negative (Numeral.longValue digits * Numeral.weight exponent.toNat) 1
  else ofQuotient negative (Numeral.longValue digits) (Numeral.weight (-exponent).toNat)

def takeDigits (cs : List Char) : List Nat × List Char :=
  ((cs.takeWhile Char.isDigit).map fun c => c.toNat - 0x30, cs.dropWhile Char.isDigit)

/-- The size of an exponent from which on no further digit of it counts. -/
def exponentLimit : Nat := 0x10000

/-- The exponent that a run of digit values denotes, up to the digit with which it reaches the limit. -/
def exponentValue (digits : List Nat) : Nat :=
  digits.foldl (fun n d => if n < exponentLimit then 10 * n + d else n) 0

def readExponent? : List Char → Option Int
  | [] => some 0
  | e :: rest =>
    if e = 'e' ∨ e = 'E' then
      let (negative, rest) := match rest with
        | '-' :: rest => (true, rest)
        | '+' :: rest => (false, rest)
        | rest => (false, rest)
      match takeDigits rest with
      | ([], _) => none
      | (digits, []) => some (Integer.signed negative (exponentValue digits))
      | _ => none
    else none

/-- The word for a number that has no digits. -/
def readWord? (negative : Bool) (cs : List Char) : Option Double :=
  let word := cs.map Char.toLower
  if word = "inf".toList ∨ word = "infinity".toList then some (.infinite negative)
  else if word = "nan".toList then some .nan
  else none

/-- A decimal numeral without a sign: digits, a point somewhere, an exponent. -/
def readMagnitude? (negative : Bool) (cs : List Char) : Option Double :=
  let (before, rest) := takeDigits cs
  let (after, rest) := match rest with
    | '.' :: rest => takeDigits rest
    | rest => ([], rest)
  if before.isEmpty && after.isEmpty then readWord? negative cs
  else
    (readExponent? rest).map fun exponent =>
      ofDecimal negative (before ++ after) (exponent - after.length)

/-- The double nearest to a numeral with an optional sign. -/
def readSigned? : List Char → Option Double
  | '-' :: rest => readMagnitude? true rest
  | '+' :: rest => readMagnitude? false rest
  | cs => readMagnitude? false cs

/-- The double that a text denotes: a numeral with white space around it, or one with single
underscores inside it. -/
def read? (cs : List Char) : Option Double :=
  match readSigned? (trim isWhiteSpace cs) with
  | some x => some x
  | none => (withoutUnderscores? cs).bind readSigned?

end EventBench.Double
