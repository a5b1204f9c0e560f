import EventBench.Text.Numeral
import EventBench.Text.Utf8

namespace EventBench.Literal

def short? (n : Nat) : Option (List Char) :=
  if n = 0x5C then some ['\\', '\\']
  else if n = 0x22 then some ['\\', '"']
  else if n = 0x0A then some ['\\', 'n']
  else if n = 0x0D then some ['\\', 'r']
  else if n = 0x09 then some ['\\', 't']
  else none

/-- The characters that a text shows by their number: controls of ASCII and the line boundaries
above it. -/
def isHidden (c : Char) : Bool :=
  let n := c.toNat
  n < 0x20 || n == 0x7F || n == 0x85 || n == 0x2028 || n == 0x2029

def escapeChar (c : Char) : List Char :=
  match short? c.toNat with
  | some cs => cs
  | none => if isHidden c then ['\\', 'u', '\x7b'] ++ Text.Numeral.hex c.toNat ++ ['\x7d'] else [c]

def escapeByte (b : UInt8) : List Char :=
  match short? b.toNat with
  | some cs => cs
  | none =>
    if 0x20 ≤ b.toNat ∧ b.toNat < 0x7F then [Char.ofNat b.toNat]
    else ['\\', 'x'] ++ Text.Numeral.padded 2 (Text.Numeral.hex b.toNat)

def ofText (cs : List Char) : List Char :=
  '"' :: cs.flatMap escapeChar ++ ['"']

def ofBytes (b : Bytes) : List Char :=
  'b' :: '"' :: b.flatMap escapeByte ++ ['"']

def encode (b : Bytes) : List Char :=
  match Text.Utf8.decode b with
  | some cs => ofText cs
  | none => ofBytes b

end EventBench.Literal
