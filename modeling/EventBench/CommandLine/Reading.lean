import EventBench.CommandLine.Token
import EventBench.Text.Integer

namespace EventBench.CommandLine

variable {κ : Type}

/-- The use of a switch: its value, empty if it takes none. -/
abbrev Use (κ : Type) := Switch κ × String

/-- The use of a switch without an attached value, which takes the next operand if it needs one; the
flag tells whether it took it. -/
def detached (s : Switch κ) (next : Option String) : Except Mistake (List (Use κ) × Bool) :=
  if s.role.takesValue then
    match next with
    | some value => .ok ([(s, value)], true)
    | none => .error (.valueMissing s.names)
  else .ok ([(s, "")], false)

/-- The uses of a switch with a text attached. A switch that takes a value takes the text; else, if
its name is a short one, the text goes on with further short names. -/
def attached (names : Names κ) (next : Option String) (s : Switch κ) (isShort : Bool) (value : List Char) :
    Except Mistake (List (Use κ) × Bool) :=
  if s.role.takesValue then .ok ([(s, String.ofList value)], false)
  else
    match value with
    | [] => .error (.valueIgnored s.names "")
    | c :: rest =>
      match isShort, names.find? ['-', c] with
      | true, some t =>
        (if rest.isEmpty then detached t next else attached names next t true rest).map
          fun (uses, took) => ((s, "") :: uses, took)
      | _, _ => .error (.valueIgnored s.names (String.ofList value))

def isShortName : List Char → Bool
  | _ :: '-' :: _ => false
  | _ => true

def usesOf (names : Names κ) (next : Option String) (s : Switch κ) (name : List Char) :
    Option (List Char) → Except Mistake (List (Use κ) × Bool)
  | none => detached s next
  | some value => attached names next s (isShortName name) value

def Switch.give (s : Switch κ) (value : String) : Except Stop (Given κ) :=
  match s.role with
  | .help => .error .help
  | .flag key => .ok (.flag key)
  | .text key => .ok (if value = "--" then .blank key else .text key value)
  | .integer key =>
    if value = "--" then .ok (.blank key)
    else
      match Text.Integer.read? value with
      | some n => .ok (.integer key n)
      | none => .error (.mistake (.notAnInteger s.names value))

def giveAll : List (Use κ) → Except Stop (List (Given κ))
  | [] => .ok []
  | (s, value) :: rest =>
    match s.give value with
    | .error stop => .error stop
    | .ok given => (giveAll rest).map (given :: ·)

def nextOperand : List (Token κ) → Option String
  | .operand text :: _ => some text
  | _ => none

/-- What the arguments set, and those that no switch takes. -/
def readTokens (names : Names κ) : List (Token κ) → Except Stop (List (Given κ) × List String)
  | [] => .ok ([], [])
  | .operand text :: rest | .unknown text :: rest =>
    (readTokens names rest).map fun (given, extra) => (given, text :: extra)
  | .mark :: rest => (readTokens names rest).map fun (given, extra) => (given, "--" :: extra)
  | .switch s name value :: rest =>
    match usesOf names (nextOperand rest) s name value with
    | .error m => .error (.mistake m)
    | .ok (uses, took) =>
      match giveAll uses with
      | .error stop => .error stop
      | .ok given =>
        (readTokens names (rest.drop took.toNat)).map fun (more, extra) => (given ++ more, extra)
termination_by tokens => tokens.length
decreasing_by all_goals simp only [List.length_cons, List.length_drop]; omega

def read (switches : List (Switch κ)) (arguments : List String) : Except Stop (List (Given κ)) :=
  let names := namesOf switches
  match tokens names arguments with
  | .error m => .error (.mistake m)
  | .ok tokens =>
    match readTokens names tokens with
    | .error stop => .error stop
    | .ok (given, []) => .ok given
    | .ok (_, extra) => .error (.mistake (.unrecognized extra))

end EventBench.CommandLine
