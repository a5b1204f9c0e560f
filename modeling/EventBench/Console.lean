import EventBench.Fault

namespace EventBench

inductive Encoding
  | ascii
  | utf8
  deriving DecidableEq, Repr

def isAscii (c : Char) : Bool :=
  c.toNat < 0x80

def Encoding.encode (e : Encoding) (cs : List Char) : Except Fault Bytes :=
  match e with
  | .utf8 => .ok (Text.Utf8.encode cs)
  | .ascii =>
    let before := cs.takeWhile isAscii
    match cs.dropWhile isAscii with
    | [] => .ok (before.map fun c => UInt8.ofNat c.toNat)
    | rest => .error (.unencodable (rest.takeWhile fun c => !isAscii c) before.length)

/-- A console: its encoding, and what was written, the last piece first. -/
structure Console where
  encoding : Encoding := .ascii
  pieces : List Bytes := []
  deriving DecidableEq, Repr

namespace Console

def bytes (c : Console) : Bytes :=
  c.pieces.reverse.flatten

def write (c : Console) (text : String) : Except Fault Console :=
  match c.encoding.encode text.toList with
  | .ok piece => .ok { c with pieces := piece :: c.pieces }
  | .error f => .error f

/-- Writes lines, each followed by a line feed, up to the first that cannot be spelt. -/
def writeLines (c : Console) : List String → Console × Option Fault
  | [] => (c, none)
  | line :: rest =>
    match c.write (line ++ "\n") with
    | .ok c => writeLines c rest
    | .error f => (c, some f)

def recode (c : Console) (e : Encoding) : Console :=
  { c with encoding := e }

/-- No text is too much for a console in UTF-8. -/
theorem write_utf8 (c : Console) (text : String) (h : c.encoding = .utf8) :
    c.write text = .ok { c with pieces := Text.Utf8.encode text.toList :: c.pieces } := by
  simp [write, h, Encoding.encode]

end Console

/-- A stream of text in memory: its pieces, the last one first. -/
abbrev TextStream := List String

def TextStream.text (s : TextStream) : String :=
  String.join s.reverse

/-- How text is written: what is done to a stream before the first of it, and how it takes a text. -/
structure Sink (σ : Type) where
  prepare : σ → σ
  write : σ → String → Except Fault σ

def Sink.text : Sink TextStream where
  prepare := id
  write := fun s text => .ok (text :: s)

def Sink.console : Sink Console where
  prepare := fun c => c.recode .utf8
  write := Console.write

end EventBench
