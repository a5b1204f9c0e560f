import EventBench.Text.Numeral
import EventBench.Text.Printable
import EventBench.Text.Utf8

namespace EventBench.Text.Quoted

def mark (cs : List Char) : Char :=
  if cs.contains '\'' && !cs.contains '"' then '"' else '\''

/-- The numeric escape of a character: two, four or eight hexadecimal digits after a letter that
tells how many. -/
def numeric (c : Char) : List Char :=
  let digits := Numeral.hex c.toNat
  if c.toNat ≤ 0xFF then '\\' :: 'x' :: Numeral.padded 2 digits
  else if c.toNat ≤ 0xFFFF then '\\' :: 'u' :: Numeral.padded 4 digits
  else '\\' :: 'U' :: Numeral.padded 8 digits

def escape (quote c : Char) : List Char :=
  if c = quote ∨ c = '\\' then ['\\', c]
  else if c = '\t' then ['\\', 't']
  else if c = '\n' then ['\\', 'n']
  else if c = '\r' then ['\\', 'r']
  else if isPrintable c then [c]
  else numeric c

def encode (cs : List Char) : List Char :=
  mark cs :: cs.flatMap (escape (mark cs)) ++ [mark cs]

def escapeByte (quote : Char) (b : UInt8) : List Char :=
  let c := Char.ofNat b.toNat
  if b < 0x7F then escape quote c else numeric c

def encodeBytes (b : Bytes) : List Char :=
  let quote := mark (b.map fun x => Char.ofNat x.toNat)
  'b' :: quote :: b.flatMap (escapeByte quote) ++ [quote]

end EventBench.Text.Quoted

namespace EventBench.Text

def quoted (s : String) : String :=
  String.ofList (Quoted.encode s.toList)

end EventBench.Text
