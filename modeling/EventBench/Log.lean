import EventBench.Text.Quoted

namespace EventBench.Log

/-- The names of the levels; two of them are second names. -/
inductive Level
  | critical
  | fatal
  | error
  | warn
  | warning
  | info
  | debug
  | notset
  deriving DecidableEq, Repr

namespace Level

def all : List Level := [critical, fatal, error, warn, warning, info, debug, notset]

def name : Level → String
  | critical => "CRITICAL"
  | fatal => "FATAL"
  | error => "ERROR"
  | warn => "WARN"
  | warning => "WARNING"
  | info => "INFO"
  | debug => "DEBUG"
  | notset => "NOTSET"

def ofName? (s : String) : Option Level :=
  all.find? fun level => level.name == s

def severity : Level → Nat
  | critical | fatal => 50
  | error => 40
  | warn | warning => 30
  | info => 20
  | debug => 10
  | notset => 0

/-- The name that records show; a second name is shown as the first. -/
def shown : Level → String
  | fatal => "CRITICAL"
  | warn => "WARNING"
  | level => level.name

theorem ofName?_name (level : Level) : ofName? level.name = some level := by
  cases level <;> decide

theorem name_of_ofName? {s : String} {level : Level} (h : ofName? s = some level) : level.name = s := by
  have := List.find?_some h
  simpa using this

end Level

/-- One record: its level, the logger it comes from, and its message. -/
structure Record where
  level : Level
  logger : String
  message : String
  deriving DecidableEq, Repr

/-- What every line about the program itself begins with. -/
def program : String := "run-parser"

def Record.line (r : Record) : String :=
  program ++ ": " ++ r.level.shown ++ ": " ++ r.logger ++ ": " ++ r.message ++ "\n"

/-- The logger of the package, above all others of it. -/
def package : String := "descent_harness"

def inPackage (logger : String) : Bool :=
  logger == package || (package ++ ".").toList.isPrefixOf logger.toList

/-- Where the records of the package go, if anywhere, and the level that was set. -/
structure Setup where
  level : Level := .notset
  stream : Option String := none
  deriving DecidableEq, Repr

namespace Setup

/-- The least severity that is written. Without a level of its own the package has that of a
warning. -/
def threshold (s : Setup) : Nat :=
  if s.level.severity = 0 then Level.warning.severity else s.level.severity

/-- Whether a record is written. A record without a severity never is. -/
def accepts (s : Setup) (r : Record) : Bool :=
  inPackage r.logger && r.level.severity != 0 && s.threshold ≤ r.level.severity

def written (s : Setup) (records : List Record) : String :=
  String.join ((records.filter s.accepts).map Record.line)

/-- Sends records to another stream. The level is changed last, and an unknown one stays unset: the
stream is replaced all the same. -/
def configure (s : Setup) (level stream : String) : Except String Setup × Setup :=
  match Level.ofName? level with
  | some level => (.ok ⟨level, some stream⟩, ⟨level, some stream⟩)
  | none => (.error level, ⟨s.level, some stream⟩)

end Setup

def unknownLevel (level : String) : String :=
  "Unknown level: " ++ Text.quoted level

end EventBench.Log
