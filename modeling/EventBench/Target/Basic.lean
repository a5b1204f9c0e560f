import EventBench.Log
import EventBench.Pass
import EventBench.Text.Blank

namespace EventBench

/-- A target, split at its first colon. -/
structure Target where
  moduleName : String
  className : String
  deriving DecidableEq, Repr

/-- The class that is meant when a target names none. -/
def Target.defaultClass : String := "Parser"

/-- Splits a target; blanks around it do not count. -/
def Target.parse (text : String) : Target :=
  let cs := Text.trim Text.isBlank text.toList
  let name := (cs.dropWhile (· != ':')).drop 1
  ⟨String.ofList (cs.takeWhile (· != ':')),
    if name.isEmpty then Target.defaultClass else String.ofList name⟩

namespace Catalog

/-- What a name in a module stands for. -/
inductive Attribute
  | parser (parser : ParserClass)
  | other
  | nothing

/-- What a module holds, or the fault with which it breaks off when it is first used. -/
inductive Body
  | attributes (attributes : List (String × Attribute))
  | broken (kind : Fault.Kind) (text : String)

/-- A module. For a name that its body does not define it may answer on its own, or raise a fault. A module that is
in use was entered before. -/
structure Module where
  name : String
  body : Body
  missing : String → Except (Fault.Kind × String) Attribute := fun _ => .ok .nothing
  isUsed : Bool := false
  used_works : isUsed = true → ∃ attributes, body = .attributes attributes := by simp

/-- What a name in a module stands for. A fault of a missing attribute says that there is nothing. -/
def Module.attribute (m : Module) (name : String) : Except Fault Attribute :=
  match m.body with
  | .broken .. => .ok .nothing
  | .attributes attributes =>
    match attributes.lookup name with
    | some found => .ok found
    | none =>
      match m.missing name with
      | .ok found => .ok found
      | .error (kind, text) => if kind = .attribute then .ok .nothing else .error (.raised kind text)

end Catalog

/-- The modules that there are, and the room for entering one from inside the other: how many that can be. -/
structure Catalog where
  modules : List Catalog.Module
  room : Nat := 248

namespace Catalog

def find? (catalog : Catalog) (name : String) : Option Module :=
  catalog.modules.find? fun m => m.name == name

def used? (catalog : Catalog) (name : String) : Option Module :=
  (catalog.find? name).filter (·.isUsed)

/-- Why a module is not there: a reason for the target, or a fault of another kind. -/
inductive Absence
  | reason (r : LoadReason)
  | fault (f : Fault)

/-- A module that breaks off says why; only a fault of importing is a reason. -/
def absenceOf (f : Fault) : Absence :=
  if f.kind = .importing then .reason (.broken f.message) else .fault f

/-- Enters a module that is not in use, where it is found. -/
def enter (catalog : Catalog) (name : String) : Except Absence Module :=
  match catalog.find? name with
  | none => .error (.reason (.noModule name))
  | some m =>
    match m.body with
    | .broken kind text => .error (absenceOf (.raised kind text))
    | .attributes _ => .ok m

/-- Only a module with a path is a package, and has modules below it. -/
def Module.admit (m : Module) (name : String) : Except Absence Unit :=
  match m.attribute "__path__" with
  | .error f => .error (absenceOf f)
  | .ok .nothing => .error (.reason (.notPackage name m.name))
  | .ok _ => .ok ()

/-- The beginnings of a name in front of a dot, the longest first. The name is read from its end. -/
def beginnings : List Char → List String
  | [] => []
  | c :: before => if c = '.' then String.ofList before.reverse :: beginnings before else beginnings before

/-- The module of a name, whose beginnings are given. One that is not in use is entered behind the module of its
longest beginning, as far as there is room. -/
def reach (catalog : Catalog) (room : Nat) (name : String) (above : List String) : Except Absence Module :=
  match catalog.used? name with
  | some m => .ok m
  | none =>
    match room, above with
    | 0, _ => .error (.fault .tooDeep)
    | _ + 1, [] => catalog.enter name
    | room + 1, before :: above => do
      let m ← reach catalog room before above
      m.admit name
      catalog.enter name

/-- The module of a dotted name. -/
def follow (catalog : Catalog) (room : Nat) (name : String) : Except Absence Module :=
  catalog.reach room name (beginnings name.toList.reverse)

end Catalog

/-- A class that was loaded, and the name of the module it was asked from. -/
structure Loaded where
  parser : ParserClass
  source : String

def Loaded.record (l : Loaded) : Log.Record where
  level := .debug
  logger := "descent_harness.parsers.loader"
  message := "Loaded parser " ++ l.parser.name ++ " from " ++ l.source

namespace Catalog

/-- How it is told that there is no module for a target, whose text is given. -/
def Absence.told (text : String) : Absence → Fault
  | .reason r => .unloadable text r
  | .fault f => f

/-- The class that a target names in its module. -/
def Module.select (m : Module) (text : String) (target : Target) : Except Fault Loaded :=
  match m.attribute target.className with
  | .error f => .error f
  | .ok (.parser p) => .ok ⟨p, target.moduleName⟩
  | .ok .other => .error (.unloadable text (.notParser target.className))
  | .ok .nothing => .error (.unloadable text (.noAttribute target.className))

/-- Loads the class that a target names. -/
def load (catalog : Catalog) (text : String) : Except Fault Loaded :=
  let target := Target.parse text
  if target.moduleName.isEmpty then .error (.unloadable text .emptyModule)
  else if target.moduleName.toList.head? = some '.' then .error (.relativeModule target.moduleName)
  else
    match catalog.follow catalog.room target.moduleName with
    | .error absence => .error (absence.told text)
    | .ok m => m.select text target

end Catalog

end EventBench
