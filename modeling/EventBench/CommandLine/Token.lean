import EventBench.CommandLine.Basic
import EventBench.Text.Digit

namespace EventBench.CommandLine

variable {κ : Type}

/-- An argument by what it is. -/
inductive Token (κ : Type) where
  | operand (text : String)
  | mark
  | unknown (text : String)
  | switch (switch : Switch κ) (name : List Char) (value : Option (List Char))
  deriving DecidableEq, Repr

/-- The names of switches, in order, each with its switch. -/
abbrev Names (κ : Type) := List (List Char × Switch κ)

def namesOf (switches : List (Switch κ)) : Names κ :=
  switches.flatMap fun s => s.names.map fun name => (name.toList, s)

def Names.find? (names : Names κ) (name : List Char) : Option (Switch κ) :=
  names.lookup name

def splitValue (cs : List Char) : List Char × Option (List Char) :=
  (cs.takeWhile (· != '='), (cs.dropWhile (· != '=')).tail?)

/-- The readings of an argument that is no full name. One with two dashes may be the beginning of a
name, with a value behind an equal sign. One with a single dash may be a short name with a value
right behind it, or the beginning of a name. -/
def readings (names : Names κ) (cs : List Char) : List (List Char × Switch κ × Option (List Char)) :=
  if ['-', '-'].isPrefixOf cs then
    let (stem, value) := splitValue cs
    names.filterMap fun (name, s) => if stem.isPrefixOf name then some (name, s, value) else none
  else
    names.filterMap fun (name, s) =>
      if name = cs.take 2 then some (name, s, some (cs.drop 2))
      else if cs.isPrefixOf name then some (name, s, none)
      else none

/-- Whether a text is a run of digits of any script, or digits with a point before the last of
them. -/
def isDecimal (cs : List Char) : Bool :=
  let isDigit := fun c => (Text.digitValue? c).isSome
  match cs.dropWhile isDigit with
  | [] => !cs.isEmpty
  | '.' :: places => !places.isEmpty && places.all isDigit
  | _ => false

/-- Whether an argument is a negative number; a line feed at its end does not count. -/
def isNegativeNumber : List Char → Bool
  | '-' :: cs => isDecimal cs || (cs.getLast? == some '\n' && isDecimal cs.dropLast)
  | _ => false

def dashed (names : Names κ) (argument : String) (cs : List Char) : Except Mistake (Token κ) :=
  match names.find? cs with
  | some s => .ok (.switch s cs none)
  | none =>
    let (stem, value) := splitValue cs
    match value, names.find? stem with
    | some value, some s => .ok (.switch s stem (some value))
    | _, _ =>
      match readings names cs with
      | [(name, s, value)] => .ok (.switch s name value)
      | [] => .ok (if isNegativeNumber cs || cs.contains ' ' then .operand argument else .unknown argument)
      | several => .error (.ambiguous argument (several.map fun r => String.ofList r.1))

def token (names : Names κ) (argument : String) : Except Mistake (Token κ) :=
  match argument.toList with
  | '-' :: c :: cs => dashed names argument ('-' :: c :: cs)
  | _ => .ok (.operand argument)

/-- What the arguments are; all behind the mark are operands. -/
def tokens (names : Names κ) : List String → Except Mistake (List (Token κ))
  | [] => .ok []
  | argument :: rest =>
    if argument = "--" then .ok (.mark :: rest.map .operand)
    else
      match token names argument with
      | .error m => .error m
      | .ok t => (tokens names rest).map (t :: ·)

end EventBench.CommandLine
