import EventBench.Diff.Alignment
import EventBench.Diff.Hunk
import EventBench.Text.Numeral

namespace EventBench.Diff.Unified

open Text

def editLine : Edit String → List Char
  | .keep s => ' ' :: s.toList
  | .remove s => '-' :: s.toList
  | .add s => '+' :: s.toList

/-- The range of `size` lines behind `start` others. A range is told by its first line, counted from
one, and its size, unless that is one; an empty range is told by the line before it. -/
def range (start size : Nat) : List Char :=
  if size = 1 then Numeral.decimal (start + 1)
  else Numeral.decimal (if size = 0 then start else start + 1) ++ ',' :: Numeral.decimal size

def header (h : Hunk String) : List Char :=
  "@@ -".toList ++ range h.oldStart (oldSide h.edits).length
    ++ " +".toList ++ range h.newStart (newSide h.edits).length ++ " @@".toList

def hunkLines (h : Hunk String) : List (List Char) :=
  header h :: h.edits.map editLine

def lines (hunks : List (Hunk String)) : List (List Char) :=
  if hunks.isEmpty then []
  else "--- expected".toList :: "+++ actual".toList :: hunks.flatMap hunkLines

def render (hunks : List (Hunk String)) : String :=
  String.ofList (['\n'].intercalate (lines hunks))

def ofLines (expected actual : List String) : String :=
  render (hunks (align expected actual))

end EventBench.Diff.Unified
