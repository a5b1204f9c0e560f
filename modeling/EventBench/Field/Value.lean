import EventBench.Double.Decimal
import EventBench.Double.Shortest
import EventBench.Text.Integer
import EventBench.Text.Quoted

namespace EventBench.Field

/-- A value of any kind that a field may be given. -/
inductive Value
  | null
  | flag (b : Bool)
  | integer (n : Int)
  | double (x : Double)
  | text (s : String)
  | bytes (b : Bytes)
  | list (items : List Value)
  | dictionary (entries : List (String × Value))
  deriving Repr

namespace Value

mutual

/-- Whether two values are the same, doubles by what they are and not by their order. -/
def same : Value → Value → Bool
  | .null, .null => true
  | .flag b, .flag c => decide (b = c)
  | .integer m, .integer n => decide (m = n)
  | .double x, .double y => decide (x = y)
  | .text s, .text t => decide (s = t)
  | .bytes b, .bytes c => decide (b = c)
  | .list vs, .list ws => sameItems vs ws
  | .dictionary vs, .dictionary ws => sameEntries vs ws
  | _, _ => false

def sameItems : List Value → List Value → Bool
  | [], [] => true
  | v :: vs, w :: ws => same v w && sameItems vs ws
  | _, _ => false

def sameEntries : List (String × Value) → List (String × Value) → Bool
  | [], [] => true
  | (s, v) :: vs, (t, w) :: ws => decide (s = t) && same v w && sameEntries vs ws
  | _, _ => false

end

mutual

theorem same_iff : ∀ v w : Value, same v w = true ↔ v = w
  | .null, w | .flag _, w | .integer _, w | .double _, w | .text _, w | .bytes _, w => by
    cases w <;> simp [same]
  | .list vs, w => by cases w <;> simp [same, sameItems_iff vs]
  | .dictionary vs, w => by cases w <;> simp [same, sameEntries_iff vs]

theorem sameItems_iff : ∀ vs ws : List Value, sameItems vs ws = true ↔ vs = ws
  | [], ws => by cases ws <;> simp [sameItems]
  | v :: vs, ws => by cases ws <;> simp [sameItems, same_iff v, sameItems_iff vs]

theorem sameEntries_iff : ∀ vs ws : List (String × Value), sameEntries vs ws = true ↔ vs = ws
  | [], ws => by cases ws <;> simp [sameEntries]
  | (s, v) :: vs, ws => by
    cases ws <;> simp [sameEntries, same_iff v, sameEntries_iff vs, Prod.ext_iff]

end

instance : DecidableEq Value := fun v w => decidable_of_iff _ (same_iff v w)

def sort : Value → String
  | .null => "NoneType"
  | .flag _ => "bool"
  | .integer _ => "int"
  | .double _ => "float"
  | .text _ => "str"
  | .bytes _ => "bytes"
  | .list _ => "list"
  | .dictionary _ => "dict"

mutual

def quoted : Value → List Char
  | .null => "None".toList
  | .flag b => if b then "True".toList else "False".toList
  | .integer n => Text.Numeral.ofInt n
  | .double x => x.shortest
  | .text s => Text.Quoted.encode s.toList
  | .bytes b => Text.Quoted.encodeBytes b
  | .list items => '[' :: quotedItems items ++ [']']
  | .dictionary entries => '\x7b' :: quotedEntries entries ++ ['\x7d']

def quotedItems : List Value → List Char
  | [] => []
  | [v] => quoted v
  | v :: vs => quoted v ++ ", ".toList ++ quotedItems vs

def quotedEntries : List (String × Value) → List Char
  | [] => []
  | [(s, v)] => Text.Quoted.encode s.toList ++ ": ".toList ++ quoted v
  | (s, v) :: vs => Text.Quoted.encode s.toList ++ ": ".toList ++ quoted v ++ ", ".toList ++ quotedEntries vs

end

mutual

/-- Whether the numerals of all integers in a value keep to a limit of digits. -/
def fits (limit : Nat) : Value → Bool
  | .integer n => Text.Integer.digits n ≤ limit
  | .list items => itemsFit limit items
  | .dictionary entries => entriesFit limit entries
  | _ => true

def itemsFit (limit : Nat) : List Value → Bool
  | [] => true
  | v :: vs => fits limit v && itemsFit limit vs

def entriesFit (limit : Nat) : List (String × Value) → Bool
  | [] => true
  | (_, v) :: vs => fits limit v && entriesFit limit vs

end

def shown : Value → List Char
  | .text s => s.toList
  | v => v.quoted

def integer? : Value → Option Int
  | .integer n => some n
  | .flag b => some b.toNat
  | _ => none

def less? (v w : Value) : Option Bool :=
  match v, v.integer?, w, w.integer? with
  | _, some m, _, some n => some (decide (m < n))
  | _, some m, .double y, _ => some (y.isAbove m)
  | .double x, _, _, some n => some (x.isBelow n)
  | .double x, _, .double y, _ => some (x.lt y)
  | _, _, _, _ => none

theorem less?_integer (m n : Int) : less? (.integer m) (.integer n) = some (decide (m < n)) := rfl

end Value

end EventBench.Field
