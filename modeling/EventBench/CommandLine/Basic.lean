import EventBench.Text.Numeral
import EventBench.Text.Quoted

namespace EventBench.CommandLine

/-- What a switch asks for: the help text, a flag, or a value of its own. -/
inductive Role (κ : Type) where
  | help
  | flag (key : κ)
  | text (key : κ)
  | integer (key : κ)
  deriving DecidableEq, Repr

def Role.takesValue {κ : Type} : Role κ → Bool
  | help | flag _ => false
  | text _ | integer _ => true

/-- A switch with all its names. -/
structure Switch (κ : Type) where
  names : List String
  role : Role κ
  deriving DecidableEq, Repr

/-- The switch for the help text, which every program has first. -/
def Switch.help {κ : Type} : Switch κ := ⟨["-h", "--help"], .help⟩

/-- What the use of a switch sets. -/
inductive Given (κ : Type) where
  | flag (key : κ)
  | text (key : κ) (value : String)
  | integer (key : κ) (value : Int)
  /-- The mark `--` was attached as the value, and it stands for none. -/
  | blank (key : κ)
  deriving DecidableEq, Repr

/-- What is wrong with a list of arguments. -/
inductive Mistake
  | ambiguous (argument : String) (names : List String)
  | valueMissing (names : List String)
  | valueIgnored (names : List String) (value : String)
  | notAnInteger (names : List String) (value : String)
  | unrecognized (arguments : List String)
  deriving DecidableEq, Repr

def about (names : List String) : String :=
  "argument " ++ "/".intercalate names ++ ": "

def Mistake.message : Mistake → String
  | ambiguous argument names =>
    "ambiguous option: " ++ argument ++ " could match " ++ ", ".intercalate names
  | valueMissing names => about names ++ "expected one argument"
  | valueIgnored names value => about names ++ "ignored explicit argument " ++ Text.quoted value
  | notAnInteger names value => about names ++ "invalid int value: " ++ Text.quoted value
  | unrecognized arguments => "unrecognized arguments: " ++ " ".intercalate arguments

/-- Why a program ends before it begins: it was asked for help, or its arguments are wrong. -/
inductive Stop
  | help
  | mistake (m : Mistake)
  deriving DecidableEq, Repr

def Stop.status : Stop → Nat
  | help => 0
  | mistake _ => 2

/-- The texts that a program has about itself. -/
structure Program where
  name : String
  usage : String
  help : String

def Program.output (p : Program) : Stop → String
  | .help => p.help
  | .mistake _ => ""

def Program.errors (p : Program) : Stop → String
  | .help => ""
  | .mistake m => p.usage ++ p.name ++ ": error: " ++ m.message ++ "\n"

end EventBench.CommandLine
