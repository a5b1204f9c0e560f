import EventBench.Double.Basic
import EventBench.Text.Numeral

namespace EventBench.Double

open Text

/-- The numbers that round to a double, in quarters of a unit; `closed` tells whether the ends are
among them. -/
structure Interval where
  low : Nat
  value : Nat
  high : Nat
  closed : Bool
  deriving DecidableEq, Repr

/-- The interval of `units`; below a power of two the doubles lie half as far apart as above it. -/
def Interval.ofUnits (units : Nat) : Interval :=
  let gap := if units < weight 53 then 1 else weight (units.log2 - 52)
  let below := if units = weight units.log2 ∧ weight 53 ≤ units then gap else 2 * gap
  ⟨4 * units - below, 4 * units, 4 * units + 2 * gap, units / gap % 2 = 0⟩

/-- Whether the quotient `num / den` of quarters lies in an interval. -/
def Interval.holds (i : Interval) (num den : Nat) : Bool :=
  if i.closed then i.low * den ≤ num && num ≤ i.high * den
  else i.low * den < num && num < i.high * den

/-- A decimal number: `digits · 10^exponent`. -/
structure Decimal where
  digits : Nat
  exponent : Int
  deriving DecidableEq, Repr

def placeWeight (exponent : Int) : Nat × Nat :=
  (Numeral.weight exponent.toNat, Numeral.weight (-exponent).toNat)

/-- The nearer of the two neighbours of a double on a grid that read back, of two equally near ones
the even one; nothing if neither does. -/
def Interval.onGrid? (i : Interval) (exponent : Int) : Option Decimal :=
  let (up, down) := placeWeight exponent
  let step := 4 * one * up
  let num := i.value * down
  let k := num / step
  let lower := i.holds (k * step) down
  let upper := i.holds ((k + 1) * step) down
  let twice := 2 * (num % step)
  let preferUpper := step < twice || (step == twice && k % 2 == 1)
  if upper && (preferUpper || !lower) then some ⟨k + 1, exponent⟩
  else if lower then some ⟨k, exponent⟩
  else none

def leadingExponent (units : Nat) : Int :=
  (Numeral.decimal (units * Numeral.weight 400 / one)).length - 401

/-- Tries the grids of `n` digits and more; seventeen digits always read back. -/
def shortestFrom (i : Interval) (lead : Int) (n : Nat) : Nat → Decimal
  | 0 => ⟨0, 0⟩
  | fuel + 1 => (i.onGrid? (lead + 1 - n)).getD (shortestFrom i lead (n + 1) fuel)

def shortestDecimal (units : Nat) : Decimal :=
  shortestFrom (.ofUnits units) (leadingExponent units) 1 17

def withoutTail (digits : List Char) : List Char :=
  (digits.reverse.dropWhile (· == '0')).reverse

/-- Writes digits with the point behind the first `before` of them, and at least one place. -/
def positional (digits : List Char) (before : Int) : List Char :=
  if before ≤ 0 then "0.".toList ++ List.replicate (-before).toNat '0' ++ digits
  else
    let whole := digits.take before.toNat ++ List.replicate (before.toNat - digits.length) '0'
    let places := digits.drop before.toNat
    whole ++ '.' :: (if places.isEmpty then ['0'] else places)

/-- Writes digits with the point behind the first and an exponent of at least two places. -/
def scientific (digits : List Char) (exponent : Int) : List Char :=
  let sign := if exponent < 0 then '-' else '+'
  digits.take 1 ++ (if digits.length ≤ 1 then [] else '.' :: digits.drop 1)
    ++ 'e' :: sign :: Numeral.padded 2 (Numeral.decimal exponent.natAbs)

def Decimal.text (d : Decimal) : List Char :=
  let all := Numeral.decimal d.digits
  let lead := d.exponent + all.length - 1
  if -4 ≤ lead ∧ lead < 16 then positional (withoutTail all) (lead + 1)
  else scientific (withoutTail all) lead

def shortest : Double → List Char
  | .nan => "nan".toList
  | .infinite negative => if negative then "-inf".toList else "inf".toList
  | .finite negative units =>
    let sign := if negative then ['-'] else []
    sign ++ (if units = 0 then "0.0".toList else (shortestDecimal units).text)

end EventBench.Double
