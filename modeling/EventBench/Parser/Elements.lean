import EventBench.Parser.Lines

namespace EventBench.Parser.Elements

def bar : UInt8 := 0x7C

def space : UInt8 := 0x20

def inName (b : UInt8) : Bool :=
  b != space

/-- The events of an element whose name starts at `pos` and whose line goes on at `next`; `rest` is
the line behind the bar. -/
def element (pos next : Nat) (rest : Bytes) : List Event :=
  let name := rest.takeWhile inName
  let text := rest.drop (name.length + 1)
  let nameEnd := pos + name.length
  [⟨"ElementStart", none, pos, pos⟩, ⟨"Name", some name, pos, nameEnd⟩]
    ++ (if text.isEmpty then [] else [⟨"Text", some text, nameEnd + 1, nameEnd + 1 + text.length⟩])
    ++ [⟨"ElementEnd", none, next, next⟩]

/-- The events of a line without its line feed, from `pos` to `next`. -/
def line (pos next : Nat) (body : Bytes) : List Event :=
  match body with
  | [] => []
  | b :: rest =>
    if b = bar then element (pos + 1) next rest
    else [⟨"Text", some body, pos, pos + body.length⟩]

/-- The events of the input from `pos` on; `done` holds those before, the last one first. -/
def eventsFrom (pos : Nat) (done : List Event) (data : Bytes) : List Event :=
  if data.isEmpty then done.reverse
  else
    let body := data.takeWhile Lines.inLine
    match h : data.dropWhile Lines.inLine with
    | [] => ((line pos (pos + body.length) body).reverse ++ done).reverse
    | _ :: rest =>
      have := Lines.length_after_lt h
      let next := pos + body.length + 1
      eventsFrom next ((line pos next body).reverse ++ done) rest
termination_by data.length

def events (data : Bytes) : List Event :=
  eventsFrom 0 [] data

/-- What was reported before stands in front of what is still to come. -/
theorem eventsFrom_append (pos : Nat) (done before : List Event) (data : Bytes) :
    eventsFrom pos (done ++ before) data = before.reverse ++ eventsFrom pos done data := by
  fun_induction eventsFrom pos done data with
  | case1 pos done data h => rw [eventsFrom, if_pos h, List.reverse_append]
  | case2 pos done data h body hd =>
    rw [eventsFrom, if_neg h]
    split
    · simp [body]
    · simp_all
  | case3 pos done data h body b rest hd _ next ih =>
    rw [eventsFrom, if_neg h]
    split
    · simp_all
    · rename_i b' rest' hd'
      obtain ⟨rfl, rfl⟩ : b = b' ∧ rest = rest' := by simpa [hd] using hd'
      rw [List.append_assoc] at ih
      exact ih

end Elements

def elements : ParserClass where
  name := "ElementParser"
  label := "elements"
  home := "conftest"
  pass := fun _ data => .ofDrafts (Elements.events data)

end EventBench.Parser
