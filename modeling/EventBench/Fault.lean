import EventBench.Field.Basic
import EventBench.Text.Integer
import EventBench.Text.Quoted

namespace EventBench

namespace Fault

/-- Sorts of faults, each with the sorts that descend from it; `other` descends from none of these. -/
inductive Kind
  | value
  | validation
  | runtime
  | system
  | importing
  | harness
  | inputRead
  | load
  | type
  | attribute
  | overflow
  | encoding
  | recursion
  | other (name : String)
  deriving DecidableEq, Repr

end Fault

/-- Why a target names no parser class. -/
inductive LoadReason
  | emptyModule
  | noModule (name : String)
  | notPackage (name parent : String)
  | broken (text : String)
  | noAttribute (name : String)
  | notParser (name : String)
  deriving DecidableEq, Repr

def LoadReason.message : LoadReason → String
  | .emptyModule => "empty module name"
  | .noModule name => "No module named " ++ Text.quoted name
  | .notPackage name parent =>
    "No module named " ++ Text.quoted name ++ "; " ++ Text.quoted parent ++ " is not a package"
  | .broken text => text
  | .noAttribute name => "module has no attribute '" ++ name ++ "'"
  | .notParser name => "'" ++ name ++ "' is not a BaseParser subclass"

/-- The options of the micro-benchmark that take a value. -/
inductive Setting
  | iterations
  | warmup
  | parser
  | input
  deriving DecidableEq, Repr

/-- What every record holds besides its fields: its class, all that is kept in it, the references to it
that do not keep it alive, its fields as they are declared, and those of them that were given. -/
inductive Inner
  | type
  | contents
  | references
  | declared
  | given
  deriving DecidableEq, Repr

def Inner.name : Inner → String
  | .type => "__class__"
  | .contents => "__dict__"
  | .references => "__weakref__"
  | .declared => "__fields__"
  | .given => "__fields_set__"

def Inner.all : List Inner := [.type, .contents, .references, .declared, .given]

/-- What stops a run. -/
inductive Fault
  /-- Raised by a parser, a module or an input stream, with a text of its own. -/
  | raised (kind : Fault.Kind) (text : String)
  /-- A record was refused. -/
  | invalid (rejections : List Field.Rejection)
  /-- A target names no parser class. -/
  | unloadable (target : String) (reason : LoadReason)
  /-- A module name that starts with a dot, which is relative to nothing. -/
  | relativeModule (name : String)
  /-- A module name of more parts than there is room to enter. -/
  | tooDeep
  /-- An integer with more digits than a line may hold. -/
  | overlongNumeral (limit : Nat)
  /-- The class that all parsers extend has no events of its own. -/
  | abstractParser
  /-- The consumer of the events failed. -/
  | consumer
  /-- The input could not be read. -/
  | unreadableInput (text : String)
  /-- A count of iterations below one. -/
  | tooFewIterations (n : Int)
  /-- A quotient or a root beyond the largest double. -/
  | quotientTooLarge
  /-- An integer beyond the largest double. -/
  | integerTooLarge
  /-- Elapsed times that are not all finite have no standard deviation. -/
  | noDeviation
  /-- An option was given the mark `--` in place of a value. -/
  | blankSetting (setting : Setting)
  /-- Characters in a row, from a place in a text on, that the console cannot show. -/
  | unencodable (run : List Char) (place : Nat)
  /-- An event that was never given a kind. -/
  | nameless
  /-- Content that is no bytes. -/
  | undecodable (content : Field.Value)
  /-- Two values that have no order, and the sign that stood between them. -/
  | unordered (sign : Char) (left right : Field.Value)
  /-- A value for what no value can be assigned to. -/
  | unassignable (inner : Inner) (value : Field.Value)
  deriving DecidableEq, Repr

namespace Fault

def kind : Fault → Kind
  | .raised kind _ => kind
  | .invalid _ => .validation
  | .unloadable .. => .load
  | .relativeModule _ => .type
  | .tooDeep => .recursion
  | .overlongNumeral _ => .value
  | .abstractParser => .type
  | .consumer => .runtime
  | .unreadableInput _ => .inputRead
  | .tooFewIterations _ => .value
  | .quotientTooLarge => .overflow
  | .integerTooLarge => .overflow
  | .noDeviation => .attribute
  | .blankSetting .iterations => .type
  | .blankSetting .warmup => .type
  | .blankSetting .parser => .attribute
  | .blankSetting .input => .attribute
  | .unencodable .. => .encoding
  | .nameless => .attribute
  | .undecodable _ => .attribute
  | .unordered .. => .type
  | .unassignable .type _ | .unassignable .contents _ => .type
  | .unassignable .. => .attribute

/-- What of a text a console in ASCII cannot show: a character by its number, or several in a row by
their first and last place. -/
def unencodableMessage (run : List Char) (place : Nat) : String :=
  String.ofList ("'ascii' codec can't encode character".toList
    ++ (match run with
      | [c] => " '".toList ++ Text.Quoted.numeric c ++ "' in position ".toList ++ Text.Numeral.decimal place
      | run => "s in position ".toList ++ Text.Numeral.decimal place ++ '-'
          :: Text.Numeral.decimal (place + run.length - 1))
    ++ ": ordinal not in range(128)".toList)

/-- The text of a fault. A record that a pass is refused tells its refusals and no text. -/
def message : Fault → String
  | .raised _ text => text
  | .invalid _ => ""
  | .unloadable target reason => "cannot load parser '" ++ target ++ "': " ++ reason.message
  | .relativeModule name =>
    "the 'package' argument is required to perform a relative import for " ++ Text.quoted name
  | .tooDeep => "maximum recursion depth exceeded while calling a Python object"
  | .overlongNumeral limit => Text.Integer.overlong limit
  | .abstractParser => "Can't instantiate abstract class BaseParser with abstract method iter_events"
  | .consumer => "callback failed"
  | .unreadableInput text => "failed to read stdin: " ++ text
  | .tooFewIterations n =>
    Text.Integer.telling [n] ("iterations must be >= 1, got " ++ String.ofList (Text.Numeral.ofInt n))
  | .quotientTooLarge => "integer division result too large for a float"
  | .integerTooLarge => "int too large to convert to float"
  | .noDeviation => "'float' object has no attribute 'numerator'"
  | .blankSetting .iterations => "'<' not supported between instances of 'list' and 'int'"
  | .blankSetting .warmup => "'list' object cannot be interpreted as an integer"
  | .blankSetting .parser => "'list' object has no attribute 'strip'"
  | .blankSetting .input => "'list' object has no attribute 'encode'"
  | .unencodable run place => unencodableMessage run place
  | .nameless => "'Event' object has no attribute 'kind'"
  | .undecodable content => "'" ++ content.sort ++ "' object has no attribute 'decode'"
  | .unordered sign left right =>
    "'" ++ sign.toString ++ "' not supported between instances of '" ++ left.sort ++ "' and '"
      ++ right.sort ++ "'"
  | .unassignable .type value => "__class__ must be set to a class, not '" ++ value.sort ++ "' object"
  | .unassignable .contents value =>
    "__dict__ must be set to a dictionary, not a '" ++ value.sort ++ "'"
  | .unassignable .references _ => "attribute '__weakref__' of 'Event' objects is not writable"
  | .unassignable inner _ => "property '" ++ inner.name ++ "' of 'Event' object has no setter"

/-- The faults of the harness itself: an unusable target, an unreadable input, or one that says so. -/
def isHarness (f : Fault) : Bool :=
  match f.kind with
  | .harness | .inputRead | .load => true
  | _ => false

/-- The faults that are a bad value; a refused record is one of them. -/
def isValue (f : Fault) : Bool :=
  match f.kind with
  | .value | .validation | .encoding => true
  | _ => false

end Fault

end EventBench
