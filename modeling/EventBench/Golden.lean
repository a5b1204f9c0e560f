import EventBench.Diff.Unified
import EventBench.Pass

namespace EventBench.Golden

/-- The outcome of a comparison: both lists of lines, the first place where they differ, and their
difference as a text. -/
structure Comparison where
  actual : List String
  expected : List String
  mismatch : Option Nat
  diff : String
  deriving DecidableEq, Repr

def Comparison.isMatch (c : Comparison) : Bool :=
  c.mismatch.isNone

/-- The first place from `n` on where two lists differ; the end of one of them is such a place. -/
def mismatchFrom (n : Nat) : List String → List String → Option Nat
  | [], [] => none
  | a :: as, b :: bs => if a = b then mismatchFrom (n + 1) as bs else some n
  | _, _ => some n

def ofLines (actual expected : List String) : Comparison where
  actual := actual
  expected := expected
  mismatch := mismatchFrom 0 actual expected
  diff := Diff.Unified.ofLines expected actual

def compare (p : Pass) (expected : List String) (limit : Option Nat := none) : Except Fault Comparison :=
  match p.lines limit with
  | (actual, none) => .ok (ofLines actual expected)
  | (_, some f) => .error f

end EventBench.Golden
