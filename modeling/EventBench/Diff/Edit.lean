namespace EventBench.Diff

inductive Edit (α : Type) where
  | keep (a : α)
  | remove (a : α)
  | add (a : α)
  deriving DecidableEq, Repr

namespace Edit

variable {α : Type}

def isKeep : Edit α → Bool
  | keep _ => true
  | _ => false

def old? : Edit α → Option α
  | keep a | remove a => some a
  | add _ => none

def new? : Edit α → Option α
  | keep a | add a => some a
  | remove _ => none

end Edit

variable {α : Type}

def oldSide (script : List (Edit α)) : List α :=
  script.filterMap Edit.old?

def newSide (script : List (Edit α)) : List α :=
  script.filterMap Edit.new?

def replace (old new : List α) : List (Edit α) :=
  old.map .remove ++ new.map .add

theorem oldSide_append (s t : List (Edit α)) : oldSide (s ++ t) = oldSide s ++ oldSide t :=
  List.filterMap_append

theorem newSide_append (s t : List (Edit α)) : newSide (s ++ t) = newSide s ++ newSide t :=
  List.filterMap_append

theorem oldSide_keep (xs : List α) : oldSide (xs.map .keep) = xs := by
  simp [oldSide, List.filterMap_map, Function.comp_def, Edit.old?]

theorem newSide_keep (xs : List α) : newSide (xs.map .keep) = xs := by
  simp [newSide, List.filterMap_map, Function.comp_def, Edit.new?]

theorem oldSide_replace (old new : List α) : oldSide (replace old new) = old := by
  simp [replace, oldSide, List.filterMap_map, Function.comp_def, Edit.old?]

theorem newSide_replace (old new : List α) : newSide (replace old new) = new := by
  simp [replace, newSide, List.filterMap_map, Function.comp_def, Edit.new?]

end EventBench.Diff
