import EventBench.Proofs.Limit
import EventBench.Proofs.Event.Line
import EventBench.Proofs.Pass

namespace EventBench.Stream

def decode (text : String) : Option (List Event) :=
  (Text.lines text.toList).mapM Event.ofLine?

theorem toList_text (events : List Event) (failure : Option Fault) :
    (ofPass (.ofEvents events failure)).1.1.toList
      = (events.map Event.render).flatMap fun l => l ++ ['\n'] := by
  simp [ofPass_ofEvents, String.toList_join, List.flatMap_map, Event.toList_line]

theorem lines_text (events : List Event) (failure : Option Fault) (h : ∀ e ∈ events, e.Valid) :
    Text.lines (ofPass (.ofEvents events failure)).1.1.toList = events.map Event.render := by
  rw [toList_text]
  apply Text.lines_flatMap_lineFeed
  intro l hl c hc
  obtain ⟨e, he, rfl⟩ := List.mem_map.mp hl
  exact Text.isLineBreak_of_isInline c (Event.isInline_of_mem_render e c (h e he) hc)

/-- A console and a text stream hold the same: behind the bytes that the console began with, it spells the text. -/
structure Spells (before : Bytes) (c : Console × Nat) (s : TextStream × Nat) : Prop where
  encoding : c.1.encoding = .utf8
  bytes : c.1.bytes = before ++ Text.Utf8.encode (TextStream.text s.1).toList
  count : c.2 = s.2

theorem spells_begin (c : Console) (h : c.encoding = .utf8) : Spells c.bytes (c, 0) ([], 0) where
  encoding := h
  bytes := by simp [TextStream.text, Text.Utf8.encode]
  count := rfl

theorem Spells.write {before : Bytes} {c : Console} {s : TextStream} {n m : Nat} (h : Spells before (c, n) (s, m))
    (line : String) :
    ∃ d : Console, c.write line = .ok d ∧ Spells before (d, n + 1) (line :: s, m + 1) := by
  have htext : (TextStream.text (line :: s)).toList = (TextStream.text s).toList ++ line.toList := by
    simp [TextStream.text, String.toList_join]
  refine ⟨_, Console.write_utf8 c line h.encoding, h.encoding, ?_, congrArg (· + 1) h.count⟩
  rw [htext, Text.Utf8.encode_append, ← List.append_assoc, ← h.bytes]
  simp only [Console.bytes, List.reverse_cons, List.flatten_append, List.flatten_singleton]

/-- No entry tells a console in UTF-8 from a text stream: what has no line is refused by both, and the line of any
other is written to both, whatever it holds. -/
theorem spells_visit (before : Bytes) (limit : Option Nat) :
    Pass.InStep (Spells before) (visit limit Console.write) (visit limit Sink.text.write) := by
  rintro ⟨c, n⟩ ⟨s, m⟩ e h
  cases hline : e.line limit with
  | error f =>
    simp only [visit, hline]
    exact ⟨h, trivial⟩
  | ok line =>
    obtain ⟨d, hwrite, hd⟩ := h.write (line ++ "\n")
    simp only [visit, hline, hwrite]
    exact ⟨hd, rfl⟩

theorem run_spells (p : Pass) (c : Console) (h : c.encoding = .utf8) (limit : Option Nat) :
    Spells c.bytes (run Console.write c p limit).1 (run Sink.text.write [] p limit).1 ∧
      (run Console.write c p limit).2 = (run Sink.text.write [] p limit).2 :=
  (spells_visit c.bytes limit).run p (spells_begin c h)

/-- A console in UTF-8 gets what a stream of text gets, and the pass ends as it does there. -/
theorem run_console (most : Nat) (events : List Event) (failure : Option Fault) (c : Console)
    (h : c.encoding = .utf8) :
    ∃ d : Console, run Console.write c (.ofEvents events failure) (some most)
        = ((d, (events.takeWhile (·.fits most)).length), (Pass.within most events failure).failure) ∧
      d.bytes = c.bytes ++ Text.Utf8.encode
        (String.join ((events.takeWhile (·.fits most)).map fun e => e.line ++ "\n")).toList := by
  obtain ⟨hspells, hfailure⟩ := run_spells (.ofEvents events failure) c h (some most)
  rw [run_text_within] at hspells hfailure
  have hbytes := hspells.bytes
  rw [TextStream.text, List.reverse_reverse] at hbytes
  exact ⟨_, Prod.ext (Prod.ext rfl hspells.count) hfailure, hbytes⟩

theorem mapM_ofLine?_render (events : List Event) (h : ∀ e ∈ events, e.Valid) :
    (events.map Event.render).mapM Event.ofLine? = some events := by
  induction events with
  | nil => rfl
  | cons e es ih =>
    have hes := ih fun f hf => h f (List.mem_cons_of_mem e hf)
    rw [List.map_cons, List.mapM_cons, Event.ofLine?_render e (h e List.mem_cons_self), hes]
    rfl

theorem decode_text (events : List Event) (failure : Option Fault) (h : ∀ e ∈ events, e.Valid) :
    decode (ofPass (.ofEvents events failure)).1.1 = some events := by
  rw [decode, lines_text events failure h, mapM_ofLine?_render events h]

/-- The text of a pass tells its events, whatever their contents hold: it is read back as them, so no
other events have the same text. -/
theorem text_uniquely_decodable (events : List Event) (failure : Option Fault)
    (h : ∀ e ∈ events, e.Valid) :
    (ofPass (.ofEvents events failure)).1.1 = String.join (events.map fun e => e.line ++ "\n") ∧
    decode (ofPass (.ofEvents events failure)).1.1 = some events ∧
    ∀ (others : List Event) (failure' : Option Fault), (∀ e ∈ others, e.Valid) →
      (ofPass (.ofEvents others failure')).1.1 = (ofPass (.ofEvents events failure)).1.1 →
      others = events := by
  have hdecode := decode_text events failure h
  refine ⟨by rw [ofPass_ofEvents], hdecode, ?_⟩
  intro others failure' ho htext
  have hother := decode_text others failure' ho
  rw [htext, hdecode] at hother
  exact (Option.some.inj hother).symm

/-- Contents that look like the frame around them, bytes that are no text, empty content and none. -/
theorem text_uniquely_decodable_frames :
    let events : List Event := [⟨"Text", some "\" @ 0..1\\n".toUTF8.toList, 0, 10⟩,
      ⟨"_b1", some [0xFF, 0x22, 0x0A, 0x5C], 10, 14⟩, ⟨"Name", some [], 14, 14⟩, ⟨"Name", none, 14, 14⟩]
    (∀ e ∈ events, e.Valid) ∧ decode (ofPass (.ofEvents events)).1.1 = some events := by
  intro events
  have h : ∀ e ∈ events, e.Valid := by decide
  exact ⟨h, (text_uniquely_decodable events none h).2.1⟩

/-- Every event is one line: nothing that ends a line stands in its line, and the text of a pass is cut
into the lines of its events. -/
theorem text_one_line_each (events : List Event) (h : ∀ e ∈ events, e.Valid) :
    (∀ e ∈ events, (∀ c ∈ e.line.toList, Text.IsInline c) ∧ Text.lines e.line.toList = [e.line.toList]) ∧
    (Text.lines (ofPass (.ofEvents events)).1.1.toList).map String.ofList = events.map Event.line ∧
    (Pass.ofEvents events).lines = (events.map Event.line, none) := by
  refine ⟨?_, ?_, Pass.lines_ofEvents events none⟩
  · intro e he
    rw [Event.toList_line]
    exact ⟨fun c hc => Event.isInline_of_mem_render e c (h e he) hc, Event.lines_render e (h e he)⟩
  · rw [lines_text events none h, List.map_map]
    rfl

theorem text_one_line_each_breaks :
    let events : List Event := [⟨"Text", some [0x0A, 0x0D, 0xE2, 0x80, 0xA8, 0xC2, 0x85], 0, 7⟩,
      ⟨"Text", some [0x0B, 0x0C, 0x1E, 0x85], 7, 11⟩, ⟨"ElementEnd", none, 11, 11⟩]
    (∀ e ∈ events, e.Valid) ∧
      (Text.lines (ofPass (.ofEvents events)).1.1.toList).map String.ofList = events.map Event.line := by
  intro events
  have h : ∀ e ∈ events, e.Valid := by decide
  exact ⟨h, (text_one_line_each events h).2.1⟩

end EventBench.Stream
