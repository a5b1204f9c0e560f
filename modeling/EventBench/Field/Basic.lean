import EventBench.Field.Value
import EventBench.Text.LooseInteger

namespace EventBench

namespace Field

/-- Why a value is refused. -/
inductive Cause
  | missing
  | notText
  | notUtf8
  | notIdentifier
  | notBytes
  | notInteger
  | unreadableInteger
  | integerTooLong
  | fractional
  | notFinite
  | notNumber
  | unreadableNumber
  | negative
  | reversedSpan (start stop : Int)
  | frozen
  deriving DecidableEq, Repr

def Cause.code : Cause → String
  | .missing => "missing"
  | .notText => "string_type"
  | .notUtf8 => "string_unicode"
  | .notIdentifier => "string_pattern_mismatch"
  | .notBytes => "bytes_type"
  | .notInteger => "int_type"
  | .unreadableInteger => "int_parsing"
  | .integerTooLong => "int_parsing_size"
  | .fractional => "int_from_float"
  | .notFinite => "finite_number"
  | .notNumber => "float_type"
  | .unreadableNumber => "float_parsing"
  | .negative => "greater_than_equal"
  | .reversedSpan .. => "value_error"
  | .frozen => "frozen_instance"

def Cause.message : Cause → String
  | .missing => "Field required"
  | .notText => "Input should be a valid string"
  | .notUtf8 => "Input should be a valid string, unable to parse raw data as a unicode string"
  | .notIdentifier => "String should match pattern '^[A-Za-z_][A-Za-z0-9_]*$'"
  | .notBytes => "Input should be a valid bytes"
  | .notInteger => "Input should be a valid integer"
  | .unreadableInteger => "Input should be a valid integer, unable to parse string as an integer"
  | .integerTooLong => "Unable to parse input string as an integer, exceeded maximum size"
  | .fractional => "Input should be a valid integer, got a number with a fractional part"
  | .notFinite => "Input should be a finite number"
  | .notNumber => "Input should be a valid number"
  | .unreadableNumber => "Input should be a valid number, unable to parse string as a number"
  | .negative => "Input should be greater than or equal to 0"
  | .reversedSpan start stop =>
    "Value error, " ++ Text.Integer.telling [start, stop]
      (String.ofList ("Event span reversed: ".toList ++ Text.Numeral.ofInt start ++ "..".toList
        ++ Text.Numeral.ofInt stop))
  | .frozen => "Instance is frozen"

/-- A refused field; the empty name stands for the record as a whole. -/
structure Rejection where
  field : String
  cause : Cause
  deriving DecidableEq, Repr

def readInteger (cs : List Char) : Except Cause Int :=
  match Text.LooseInteger.read cs with
  | .ok n => .ok n
  | .error .tooLong => .error .integerTooLong
  | .error .unreadable => .error .unreadableInteger

/-- The integer that a double is; it has to lie strictly between -2⁶³ and 2⁶³. -/
def integerOfDouble : Double → Except Cause Int
  | .finite negative units =>
    match Double.toInteger? negative units with
    | none => .error .fractional
    | some n => if n.natAbs < Double.weight 63 then .ok n else .error .integerTooLong
  | _ => .error .notFinite

def Value.toInteger : Value → Except Cause Int
  | .integer n => .ok n
  | .flag b => .ok b.toNat
  | .double x => integerOfDouble x
  | .text s => readInteger s.toList
  | .bytes b =>
    match Text.Utf8.decode b with
    | some cs => readInteger cs
    | none => .error .unreadableInteger
  | .null | .list _ | .dictionary _ => .error .notInteger

def Value.toOffset (v : Value) : Except Cause Int :=
  match v.toInteger with
  | .ok n => if n < 0 then .error .negative else .ok n
  | .error cause => .error cause

def readDouble (cs : List Char) : Except Cause Double :=
  match Double.read? cs with
  | some x => .ok x
  | none => .error .unreadableNumber

/-- Reads a double; an integer beyond the largest double is no number. -/
def Value.toDouble : Value → Except Cause Double
  | .double x => .ok x
  | .integer n =>
    let x := Double.ofInt n
    if x.isFinite then .ok x else .error .notNumber
  | .flag b => .ok (Double.ofInt b.toNat)
  | .text s => readDouble s.toList
  | .bytes b =>
    match Text.Utf8.decode b with
    | some cs => readDouble cs
    | none => .error .unreadableNumber
  | .null | .list _ | .dictionary _ => .error .notNumber

/-- Reads a double that is at least zero; `nan` is not. -/
def Value.toMagnitude (v : Value) : Except Cause Double :=
  match v.toDouble with
  | .ok x => if x = .nan ∨ x.lt Double.zero then .error .negative else .ok x
  | .error cause => .error cause

def Value.toText : Value → Except Cause (List Char)
  | .text s => .ok s.toList
  | .bytes b =>
    match Text.Utf8.decode b with
    | some cs => .ok cs
    | none => .error .notUtf8
  | _ => .error .notText

def isIdentifierStart (c : Char) : Bool :=
  c.isAlpha || c == '_'

def isIdentifierRest (c : Char) : Bool :=
  c.isAlphanum || c == '_'

def isIdentifier : List Char → Bool
  | [] => false
  | c :: cs => isIdentifierStart c && cs.all isIdentifierRest

def Value.toIdentifier (v : Value) : Except Cause String :=
  match v.toText with
  | .ok cs => if isIdentifier cs then .ok (String.ofList cs) else .error .notIdentifier
  | .error cause => .error cause

/-- Reads bytes or their absence; a text stands for its UTF-8 spelling. -/
def Value.toContent : Value → Except Cause (Option Bytes)
  | .null => .ok none
  | .bytes b => .ok (some b)
  | .text s => .ok (some (Text.Utf8.encode s.toList))
  | _ => .error .notBytes

end Field

/-- The fields that a record is built from, by name. -/
abbrev Fields := List (String × Field.Value)

namespace Fields

def read {α : Type} (fields : Fields) (name : String) (absent : Except Field.Cause α)
    (reader : Field.Value → Except Field.Cause α) : Except Field.Rejection α :=
  match (match fields.lookup name with | some v => reader v | none => absent) with
  | .ok a => .ok a
  | .error cause => .error ⟨name, cause⟩

def refusal {α : Type} : Except Field.Rejection α → List Field.Rejection
  | .ok _ => []
  | .error rejection => [rejection]

def put (name : String) (v : Field.Value) : Fields → Fields
  | [] => [(name, v)]
  | (other, w) :: fields => if other = name then (name, v) :: fields else (other, w) :: put name v fields

end Fields

end EventBench
