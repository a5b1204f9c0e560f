import Mathlib.Tactic.SplitIfs
import EventBench.Target.Catalog

namespace EventBench

namespace Target

/-- The module of a target is named, and not relative to another. -/
def IsAbsolute (target : Target) : Prop :=
  target.moduleName ≠ "" ∧ target.moduleName.toList.head? ≠ some '.'

end Target

namespace Catalog

/-- The beginning of a name in front of its last dot. -/
def Cut (name before : String) : Prop :=
  ∃ last, '.' ∉ last ∧ name.toList = before.toList ++ '.' :: last

/-- A module that has a path, and so may have modules below it. -/
def Module.IsPackage (m : Module) : Prop :=
  ∃ found, m.attribute "__path__" = .ok found ∧ found ≠ .nothing

/-- A module that is found under a name and does not break off. -/
def Provides (catalog : Catalog) (name : String) (m : Module) : Prop :=
  catalog.find? name = some m ∧ ∃ attributes, m.body = .attributes attributes

/-- A name leads to a module, and so many modules are entered for it: none for a module in use; or the module that is
found under the name, which has no dot, or is below a package that the name in front of its last dot leads to. -/
inductive Leads (catalog : Catalog) : Nat → String → Module → Prop
  | used {name : String} {m : Module} (used : catalog.used? name = some m) : Leads catalog 0 name m
  | top {name : String} {m : Module} (unused : catalog.used? name = none) (undotted : '.' ∉ name.toList)
    (provides : catalog.Provides name m) : Leads catalog 1 name m
  | inside {n : Nat} {name before : String} {p m : Module} (unused : catalog.used? name = none) (cut : Cut name before)
    (leads : Leads catalog n before p) (package : p.IsPackage) (provides : catalog.Provides name m) :
    Leads catalog (n + 1) name m

/-- From a name up to one of its beginnings, in front of so many dots, by names that are not in use. -/
inductive Climbs (catalog : Catalog) : Nat → String → String → Prop
  | here (name : String) : Climbs catalog 0 name name
  | up {n : Nat} {name before top : String} (unused : catalog.used? name = none) (cut : Cut name before)
    (climbs : Climbs catalog n before top) : Climbs catalog (n + 1) name top

/-- A fault that is none of importing comes out when a module is to be entered, the last of so many: from its body, or
from asking the module that it is below for its path. -/
inductive Raises (catalog : Catalog) : Nat → String → Fault → Prop
  | body {name : String} {m : Module} {kind : Fault.Kind} {text : String} (unused : catalog.used? name = none)
    (undotted : '.' ∉ name.toList) (found : catalog.find? name = some m) (breaks : m.body = .broken kind text)
    (foreign : kind ≠ .importing) : Raises catalog 1 name (.raised kind text)
  | path {n : Nat} {name before : String} {p : Module} {f : Fault} (unused : catalog.used? name = none)
    (cut : Cut name before) (leads : Leads catalog n before p) (asks : p.attribute "__path__" = .error f)
    (foreign : f.kind ≠ .importing) : Raises catalog (n + 1) name f
  | inside {n : Nat} {name before : String} {p m : Module} {kind : Fault.Kind} {text : String}
    (unused : catalog.used? name = none) (cut : Cut name before) (leads : Leads catalog n before p)
    (package : p.IsPackage) (found : catalog.find? name = some m) (breaks : m.body = .broken kind text)
    (foreign : kind ≠ .importing) : Raises catalog (n + 1) name (.raised kind text)

section

variable {catalog : Catalog}

end

/-- Which fault comes out of a target in place of its being told to be unloadable: that of a name that is relative to
nothing, that of a name with more parts to be entered than there is room for, one of a module on the way, or one of the
module that is asked for the class. -/
inductive Escapes (catalog : Catalog) (target : Target) : Fault → Prop
  | relative (dot : target.moduleName.toList.head? = some '.') :
    Escapes catalog target (.relativeModule target.moduleName)
  | deep (top : String) (absolute : target.IsAbsolute) (climbs : catalog.Climbs catalog.room target.moduleName top)
    (unused : catalog.used? top = none) : Escapes catalog target .tooDeep
  | entering (n k : Nat) (top : String) (f : Fault) (absolute : target.IsAbsolute) (room : n + k ≤ catalog.room)
    (climbs : catalog.Climbs n target.moduleName top) (raises : catalog.Raises k top f) : Escapes catalog target f
  | asking (n : Nat) (m : Module) (f : Fault) (absolute : target.IsAbsolute) (room : n ≤ catalog.room)
    (leads : catalog.Leads n target.moduleName m) (asks : m.attribute target.className = .error f) :
    Escapes catalog target f

section

variable {catalog : Catalog}

end

example :
    let lazy : Module :=
      { name := "lazy"
        body := .attributes []
        missing := fun name => .error (.importing, name ++ " has been moved") }
    load { modules := [lazy] } "lazy:Settings" = .error (.raised .importing "Settings has been moved") := rfl

example : load { modules := [], room := 2 } "a.b.c" = .error .tooDeep := rfl

end Catalog

end EventBench
