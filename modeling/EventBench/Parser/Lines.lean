import EventBench.Pass

namespace EventBench.Parser.Lines

def lineFeed : UInt8 := 0x0A

def inLine (b : UInt8) : Bool :=
  b != lineFeed

theorem length_after_lt {b : UInt8} {data rest : Bytes} (h : data.dropWhile inLine = b :: rest) :
    rest.length < data.length := by
  have := (List.dropWhile_suffix (p := inLine) (l := data)).length_le
  rw [h] at this
  simp at this
  omega

def event (pos : Nat) (line : Bytes) : Event :=
  ⟨"Text", some line, pos, pos + line.length⟩

/-- The events of the input from `pos` on; `done` holds those before, the last one first. -/
def eventsFrom (pos : Nat) (done : List Event) (data : Bytes) : List Event :=
  if data.isEmpty then done.reverse
  else
    let body := data.takeWhile inLine
    match h : data.dropWhile inLine with
    | [] => (event pos body :: done).reverse
    | b :: rest =>
      have := length_after_lt h
      eventsFrom (pos + body.length + 1) (event pos (body ++ [b]) :: done) rest
termination_by data.length

def events (data : Bytes) : List Event :=
  eventsFrom 0 [] data

theorem eventsFrom_append (pos : Nat) (done before : List Event) (data : Bytes) :
    eventsFrom pos (done ++ before) data = before.reverse ++ eventsFrom pos done data := by
  fun_induction eventsFrom pos done data with
  | case1 pos done data h => rw [eventsFrom, if_pos h, List.reverse_append]
  | case2 pos done data h body hd =>
    rw [eventsFrom, if_neg h]
    split
    · simp [body]
    · simp_all
  | case3 pos done data h body b rest hd _ ih =>
    rw [eventsFrom, if_neg h]
    split
    · simp_all
    · rename_i b' rest' hd'
      obtain ⟨rfl, rfl⟩ : b = b' ∧ rest = rest' := by simpa [hd] using hd'
      exact ih

end Lines

def lines : ParserClass where
  name := "Parser"
  label := "lines"
  home := "descent_harness.generated"
  pass := fun _ data => .ofDrafts (Lines.events data)

end EventBench.Parser
