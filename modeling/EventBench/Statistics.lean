import EventBench.Double.Basic

namespace EventBench.Statistics

def allFinite (xs : List Double) : Bool :=
  xs.all Double.isFinite

def units (xs : List Double) : List Int :=
  xs.filterMap fun
    | .finite negative units => some (Double.toInt negative units)
    | _ => none

def sum (ns : List Int) : Int :=
  ns.foldl (fun s n => s + n) 0

def total (xs : List Double) : Double :=
  xs.foldl Double.add Double.zero

/-- The double nearest to a quotient of an integer number of units. -/
def quotient (n : Int) (d : Nat) : Double :=
  Double.ofUnits (decide (n < 0)) n.natAbs d

/-- The mean, rounded once; members that are not finite outweigh all others. -/
def mean (xs : List Double) : Double :=
  if allFinite xs then quotient (sum (units xs)) xs.length
  else (total (xs.filter fun x => !x.isFinite)).div (Double.ofInt xs.length)

def sorted (xs : List Double) : List Double :=
  xs.mergeSort fun x y => !y.lt x

def at? (xs : List Double) (i : Nat) : Double :=
  xs[i]?.getD Double.zero

/-- The middle member of the sorted sample, or half the sum of the two middle ones. -/
def median (xs : List Double) : Double :=
  let ys := sorted xs
  let half := ys.length / 2
  if ys.length % 2 = 1 then at? ys half
  else ((at? ys (half - 1)).add (at? ys half)).div (Double.ofInt 2)

def least : List Double → Double
  | [] => Double.zero
  | x :: xs => xs.foldl (fun m y => if y.lt m then y else m) x

def greatest : List Double → Double
  | [] => Double.zero
  | x :: xs => xs.foldl (fun m y => if m.lt y then y else m) x

/-- The index of a percentile in a sorted sample: the integer part of a product of doubles, but no
more than the last index. -/
def rank (percent n : Nat) : Nat :=
  min ((Double.ofInt n).mul (Double.ofQuotient false percent 100)).floor (n - 1)

def percentile (percent : Nat) (xs : List Double) : Double :=
  at? (sorted xs) (rank percent xs.length)

/-- The integer part of a square root. -/
def root (n : Nat) : Nat :=
  if n < 4 then min n 1
  else
    let r := 2 * root (n / 4)
    if (r + 1) * (r + 1) ≤ n then r + 1 else r
termination_by n

/-- The number with at most 53 significant bits that is nearest to the root of a quotient, of two
equally near ones the even one. -/
def nearestRoot (num den : Nat) : Nat :=
  let r := root (num / den)
  let shift := if r < Double.weight 53 then 0 else r.log2 - 52
  let m := r / Double.weight shift
  let doubleMiddle := (2 * m + 1) * Double.weight shift
  let m :=
    if 4 * num < den * (doubleMiddle * doubleMiddle) then m
    else if den * (doubleMiddle * doubleMiddle) < 4 * num then m + 1
    else m + m % 2
  m * Double.weight shift

/-- The sum of the squared distances to the mean, times the number of members. -/
def scatter (ns : List Int) : Nat :=
  ((ns.length : Int) * sum (ns.map fun n => n * n) - sum ns * sum ns).toNat

/-- Why a sample of at least two members has no standard deviation. -/
inductive NoDeviation
  | notFinite
  | tooLarge
  deriving DecidableEq, Repr

/-- The standard deviation of a sample, rounded once; that of a single member is zero. -/
def deviation (xs : List Double) : Except NoDeviation Double :=
  let n := xs.length
  if n ≤ 1 then .ok Double.zero
  else if !allFinite xs then .error .notFinite
  else
    let units := nearestRoot (scatter (units xs)) (n * (n - 1))
    if units < Double.overflow then .ok (.finite false units) else .error .tooLarge

end EventBench.Statistics
