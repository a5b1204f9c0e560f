import EventBench.Pass

namespace EventBench

namespace Script

/-- One item of a pass: an event from fields, an entry of fields as they are, or a fault. -/
inductive Item
  | checked (fields : Fields)
  | unchecked (fields : Fields)
  | fault (f : Fault)

def Item.step : Item → Except Fault Entry
  | .checked fields => Entry.build fields
  | .unchecked fields => .ok (.ofFields fields)
  | .fault f => .error f

end Script

/-- A parser by its passes. -/
structure Script where
  name : String := "Scripted"
  label : String := "parser"
  passes : List (List Script.Item)

namespace Script

def items (s : Script) (k : Nat) : List Item :=
  match s.passes[k]? with
  | some items => items
  | none => s.passes.getLast?.getD []

def toClass (s : Script) (home : String) : ParserClass where
  name := s.name
  label := s.label
  home := home
  pass := fun k _ => Pass.ofSteps ((s.items k).map Item.step)

def silent : Script where
  passes := [[]]

end Script

end EventBench
