import EventBench.Diff.Edit

namespace EventBench.Diff

variable {α : Type}

/-- A part of a script, and how many members of either side stand before it. -/
structure Hunk (α : Type) where
  oldStart : Nat
  newStart : Nat
  edits : List (Edit α)
  deriving DecidableEq, Repr

/-- The number of kept members that are shown on either side of a change. -/
def context : Nat := 3

/-- For each step whether it is a change or follows one closely; `left` steps still follow the last
change so. -/
def following (left : Nat) : List (Edit α) → List Bool
  | [] => []
  | e :: es =>
    if e.isKeep then (decide (0 < left)) :: following (left - 1) es
    else true :: following context es

def near (script : List (Edit α)) : List Bool :=
  List.zipWith or (following 0 script) (following 0 script.reverse).reverse

/-- The hunks of the marked steps; `i` and `j` count the members of the two sides that stand before
them. -/
def hunksFrom (i j : Nat) : List (Edit α × Bool) → List (Hunk α)
  | [] => []
  | (e, marked) :: rest =>
    let hunks := hunksFrom (i + e.old?.toList.length) (j + e.new?.toList.length) rest
    if marked then
      match rest.head?, hunks with
      | some (_, true), h :: hs => ⟨i, j, e :: h.edits⟩ :: hs
      | _, hs => ⟨i, j, [e]⟩ :: hs
    else hunks

def hunks (script : List (Edit α)) : List (Hunk α) :=
  hunksFrom 0 0 (script.zip (near script))

end EventBench.Diff
