namespace EventBench

/-- A double: `finite negative units` is `units · 2⁻¹⁰⁷⁴` with its sign, which a zero keeps. -/
inductive Double
  | finite (negative : Bool) (units : Nat)
  | infinite (negative : Bool)
  | nan
  deriving DecidableEq, Repr

namespace Double

/-- The weight of a binary place: two to its number. -/
def weight (place : Nat) : Nat :=
  Nat.pow 2 place

/-- The number of units in one. -/
def one : Nat := weight 1074

/-- The units at which the finite doubles end. -/
def overflow : Nat := weight 2098

/-- The natural number nearest to a quotient, of two equally near ones the even one. -/
def roundQuotient (num den : Nat) : Nat :=
  let q := num / den
  let r := num % den
  if 2 * r < den then q
  else if den < 2 * r then q + 1
  else q + q % 2

/-- The number of units with at most 53 significant bits that is nearest to a quotient. -/
def nearestUnits (num den : Nat) : Nat :=
  let q := num / den
  if q < weight 53 then roundQuotient num den
  else
    let shift := q.log2 - 52
    roundQuotient num (den * weight shift) * weight shift

def ofUnits (negative : Bool) (num den : Nat) : Double :=
  let units := nearestUnits num den
  if units < overflow then .finite negative units else .infinite negative

def ofQuotient (negative : Bool) (num den : Nat) : Double :=
  ofUnits negative (num * one) den

def ofInt (n : Int) : Double :=
  ofQuotient (decide (n < 0)) n.natAbs 1

def zero : Double := .finite false 0

def toInt (negative : Bool) (units : Nat) : Int :=
  if negative then -units else units

def neg : Double → Double
  | .finite n u => .finite (!n) u
  | .infinite n => .infinite (!n)
  | .nan => .nan

/-- The sum of two doubles; a sum of opposite numbers is positive zero. -/
def add : Double → Double → Double
  | .nan, _ | _, .nan => .nan
  | .infinite m, .infinite n => if m = n then .infinite m else .nan
  | .infinite m, .finite .. => .infinite m
  | .finite .., .infinite n => .infinite n
  | .finite m u, .finite n v =>
    let s := toInt m u + toInt n v
    if s = 0 then .finite (m && n) 0 else ofUnits (decide (s < 0)) s.natAbs 1

def sub (x y : Double) : Double :=
  add x (neg y)

def mul : Double → Double → Double
  | .nan, _ | _, .nan => .nan
  | .infinite m, .infinite n => .infinite (m != n)
  | .infinite m, .finite n u => if u = 0 then .nan else .infinite (m != n)
  | .finite m u, .infinite n => if u = 0 then .nan else .infinite (m != n)
  | .finite m u, .finite n v => ofUnits (m != n) (u * v) one

/-- The quotient of two doubles; a quotient of a nonzero number by zero is infinite. -/
def div : Double → Double → Double
  | .nan, _ | _, .nan => .nan
  | .infinite _, .infinite _ => .nan
  | .infinite m, .finite n _ => .infinite (m != n)
  | .finite m _, .infinite n => .finite (m != n) 0
  | .finite m u, .finite n v =>
    if v = 0 then (if u = 0 then .nan else .infinite (m != n)) else ofUnits (m != n) (u * one) v

/-- Strict order; no number is less or greater than `nan`, and the two zeros are equal. -/
def lt : Double → Double → Bool
  | .nan, _ | _, .nan => false
  | .infinite m, .infinite n => m && !n
  | .infinite m, .finite .. => m
  | .finite .., .infinite n => !n
  | .finite m u, .finite n v => toInt m u < toInt n v

def isBelow : Double → Int → Bool
  | .nan, _ => false
  | .infinite negative, _ => negative
  | .finite negative units, n => decide (toInt negative units < n * one)

def isAbove : Double → Int → Bool
  | .nan, _ => false
  | .infinite negative, _ => !negative
  | .finite negative units, n => decide (n * one < toInt negative units)

def isFinite : Double → Bool
  | .finite .. => true
  | _ => false

def toInteger? (negative : Bool) (units : Nat) : Option Int :=
  if units % one = 0 then some (toInt negative (units / one)) else none

def floor : Double → Nat
  | .finite false units => units / one
  | _ => 0

/-- Reads the 64 bits of the interchange format: sign, eleven bits of exponent, 52 of fraction. -/
def ofBits (bits : Nat) : Double :=
  let negative := bits / weight 63 % 2 == 1
  let exponent := bits / weight 52 % 2048
  let fraction := bits % weight 52
  if exponent = 0 then .finite negative fraction
  else if exponent < 2047 then .finite negative ((weight 52 + fraction) * weight (exponent - 1))
  else if fraction = 0 then .infinite negative
  else .nan

/-- The 64 bits of a double; `nan` gets its usual spelling. -/
def toBits : Double → Nat
  | .nan => 0x7FF8000000000000
  | .infinite negative => (if negative then weight 63 else 0) + 2047 * weight 52
  | .finite negative units =>
    let sign := if negative then weight 63 else 0
    if units < weight 52 then sign + units
    else
      let shift := units.log2 - 52
      sign + (shift + 1) * weight 52 + (units / weight shift - weight 52)

end Double

end EventBench
