import EventBench.Log
import EventBench.Text.Integer
import EventBench.Text.Upper

namespace EventBench

abbrev Environment := String → Option String

/-- A configuration. The number of passes is at least one and the level is a known one. -/
structure Config where
  parser : String
  iterations : Int
  level : Log.Level
  deriving DecidableEq, Repr

namespace Config

def defaultParser : String := "descent_harness.generated:Parser"

def defaultIterations : Int := 10

def defaultLevel : String := "WARNING"

def parserVariable : String := "DESCENT_HARNESS_PARSER"

def iterationsVariable : String := "DESCENT_HARNESS_BENCH_ITERATIONS"

def levelVariable : String := "DESCENT_HARNESS_LOG_LEVEL"

/-- Why there is no configuration. -/
inductive Problem
  | notAnInteger (text : String)
  | tooFewIterations (n : Int)
  | unknownLevel (name : String)
  deriving DecidableEq, Repr

def Problem.message : Problem → String
  | .notAnInteger text => iterationsVariable ++ " must be an integer, got " ++ Text.quoted text
  | .tooFewIterations n =>
    Text.Integer.telling [n] ("bench_iterations must be >= 1, got " ++ String.ofList (Text.Numeral.ofInt n))
  | .unknownLevel name => "unknown log level " ++ Text.quoted name

/-- Checks the values of a configuration; a level may be named in any case. -/
def make (parser : String) (iterations : Int) (level : String) : Except Problem Config :=
  if iterations < 1 then .error (.tooFewIterations iterations)
  else
    match Log.Level.ofName? (Text.upper level) with
    | some level => .ok ⟨parser, iterations, level⟩
    | none => .error (.unknownLevel (Text.upper level))

/-- The value of a variable without blanks around it; unset and blank are the same. -/
def setting (env : Environment) (name : String) : Option String :=
  match env name with
  | none => none
  | some value => if (Text.strip value).isEmpty then none else some (Text.strip value)

def iterationsOf (env : Environment) : Except Problem Int :=
  match setting env iterationsVariable with
  | none => .ok defaultIterations
  | some text =>
    match Text.Integer.read? text with
    | some n => .ok n
    | none => .error (.notAnInteger text)

def ofEnvironment (env : Environment) : Except Problem Config :=
  match iterationsOf env with
  | .error problem => .error problem
  | .ok iterations =>
    make ((setting env parserVariable).getD defaultParser) iterations
      ((setting env levelVariable).getD defaultLevel)

/-- The environment that holds the values of a configuration. -/
def toEnvironment (c : Config) : Environment := fun name =>
  if name = parserVariable then some c.parser
  else if name = iterationsVariable then some (String.ofList (Text.Numeral.ofInt c.iterations))
  else if name = levelVariable then some c.level.name
  else none

end Config

end EventBench
