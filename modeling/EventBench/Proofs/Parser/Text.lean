import EventBench.Proofs.Event.Literal
import EventBench.Proofs.Parser.Elements

namespace EventBench

open Text.Utf8 (IsText isText_nil isText_append_ascii)

/-- The content of an event, if it has any, is shown between plain quotes. -/
def Event.ShowsText (e : Event) : Prop :=
  ∀ b ∈ e.content, (Literal.encode b).head? = some '"'

theorem Event.showsText_bracket (kind : String) (start stop : Int) : ShowsText ⟨kind, none, start, stop⟩ := by
  intro b hb
  cases hb

theorem Event.showsText_content_iff (kind : String) (b : Bytes) (start stop : Int) :
    ShowsText ⟨kind, some b, start, stop⟩ ↔ IsText b := by
  rw [← Literal.head?_encode_eq_quote_iff]
  constructor
  · intro h
    exact h b rfl
  · rintro h c ⟨⟩
    exact h

namespace Parser

namespace Lines

theorem isText_line_append_iff (line rest : Bytes) :
    IsText (line ++ lineFeed :: rest) ↔ IsText (line ++ [lineFeed]) ∧ IsText rest := by
  have hfeed : lineFeed.toNat < 0x80 := by decide
  have hline := isText_append_ascii line [] lineFeed hfeed
  rw [isText_append_ascii line rest lineFeed hfeed, hline, and_iff_left isText_nil]

theorem showsText_eventsFrom_iff (pos : Nat) (data : Bytes) :
    (∀ e ∈ eventsFrom pos [] data, e.ShowsText) ↔ IsText data := by
  induction data using line_induction generalizing pos with
  | nil => simp [eventsFrom_nil, isText_nil]
  | last line hne hlast =>
    rw [eventsFrom_last pos line hne hlast, List.forall_mem_singleton]
    exact Event.showsText_content_iff _ line _ _
  | cons line rest hfeed ih =>
    have hhead : (event pos (line ++ [lineFeed])).ShowsText ↔ IsText (line ++ [lineFeed]) :=
      Event.showsText_content_iff _ _ _ _
    rw [eventsFrom_line pos line rest hfeed, List.forall_mem_cons, ih, hhead]
    exact (isText_line_append_iff line rest).symm

end Lines

namespace Elements

open Lines (lineFeed line_induction)

theorem exists_name (r : Bytes) :
    ∃ name rest, r = name ++ rest ∧ space ∉ name ∧ ∀ b ∈ rest.head?, b = space := by
  by_cases h : space ∈ r
  · obtain ⟨name, rest, hr, hname⟩ := List.eq_append_cons_of_mem h
    exact ⟨name, space :: rest, hr, hname, by rintro b ⟨⟩; rfl⟩
  · exact ⟨r, [], (List.append_nil r).symm, h, by simp⟩

theorem showsText_element_iff (pos next : Nat) (r : Bytes) :
    (∀ e ∈ element pos next r, e.ShowsText) ↔ IsText r := by
  have hspace : space.toNat < 0x80 := by decide
  obtain ⟨name, rest, rfl, hname, hrest⟩ := exists_name r
  rw [element_eq pos next name rest hname hrest]
  simp only [List.forall_mem_append, List.forall_mem_cons, List.not_mem_nil, IsEmpty.forall_iff,
    implies_true, and_true, Event.showsText_bracket, true_and, Event.showsText_content_iff]
  cases rest with
  | nil => simp
  | cons b text =>
    obtain rfl := hrest b rfl
    rw [isText_append_ascii name text space hspace]
    split_ifs with hempty
    · have htext : IsText text := by
        rw [List.tail_cons] at hempty
        rw [hempty]
        exact isText_nil
      simp [htext]
    · rw [List.forall_mem_singleton, Event.showsText_content_iff]
      rfl

theorem showsText_line_iff (pos next : Nat) (body : Bytes) :
    (∀ e ∈ line pos next body, e.ShowsText) ↔ IsText body := by
  have hbar : bar.toNat < 0x80 := by decide
  cases body with
  | nil => simp [line, isText_nil]
  | cons b rest =>
    rw [line]
    split_ifs with hb
    · have hcut := isText_append_ascii [] rest bar hbar
      rw [and_iff_right isText_nil] at hcut
      rw [showsText_element_iff, hb]
      exact hcut.symm
    · rw [List.forall_mem_singleton]
      exact Event.showsText_content_iff _ _ _ _

theorem showsText_eventsFrom_iff (pos : Nat) (data : Bytes) :
    (∀ e ∈ eventsFrom pos [] data, e.ShowsText) ↔ IsText data := by
  induction data using line_induction generalizing pos with
  | nil => simp [eventsFrom_nil, isText_nil]
  | last body hne hlast => rw [eventsFrom_last pos body hne hlast, showsText_line_iff]
  | cons body rest hline ih =>
    have hfeed : lineFeed.toNat < 0x80 := by decide
    rw [eventsFrom_line pos body rest hline, List.forall_mem_append, showsText_line_iff, ih,
      isText_append_ascii body rest lineFeed hfeed]

end Elements

theorem unquoted_contents (data : Bytes) (h : IsText data) :
    ((Lines.events data).filterMap Event.content).flatMap (fun b => Literal.unquoted (Literal.encode b))
      = Literal.unquoted (Literal.encode data) := by
  have htexts : ∀ b ∈ (Lines.events data).filterMap Event.content, IsText b := by
    intro b hb
    obtain ⟨e, he, hcontent⟩ := List.mem_filterMap.mp hb
    have hshow := (Lines.showsText_eventsFrom_iff 0 data).mpr h e he b hcontent
    exact (Literal.head?_encode_eq_quote_iff b).mp hshow
  have hall : ((Lines.events data).filterMap Event.content).flatten = data := Lines.flatten_contents 0 data
  rw [← (Literal.unquoted_encode_flatten _ htexts).2, hall]

/-- Cutting never breaks text and never repairs it: an input is text exactly if all is that either parser
shows of it, and then the literals of its lines are the literal of the input. -/
theorem text_kept_by_cutting (data : Bytes) :
    (∀ k, lines.pass k data = .ofEvents (Lines.events data) ∧
      elements.pass k data = .ofEvents (Elements.events data)) ∧
    (IsText data ↔ ∀ e ∈ Lines.events data, e.ShowsText) ∧
    (IsText data ↔ ∀ e ∈ Elements.events data, e.ShowsText) ∧
    (IsText data → ((Lines.events data).filterMap Event.content).flatMap
      (fun b => Literal.unquoted (Literal.encode b)) = Literal.unquoted (Literal.encode data)) :=
  ⟨fun k => ⟨Lines.pass_eq k data, Elements.pass_eq k data⟩,
    (Lines.showsText_eventsFrom_iff 0 data).symm, (Elements.showsText_eventsFrom_iff 0 data).symm,
    unquoted_contents data⟩

/-- A bar, an umlaut, and a separator of lines that must be escaped. -/
theorem text_kept_by_cutting_wide :
    let data : Bytes := Text.Utf8.encode ['|', 'ü', ' ', '\u2028', '\n', '"', 'é']
    IsText data ∧ (∀ e ∈ Elements.events data, e.ShowsText) ∧
    ((Lines.events data).filterMap Event.content).flatMap
      (fun b => Literal.unquoted (Literal.encode b)) = Literal.unquoted (Literal.encode data) := by
  intro data
  have h : IsText data := ⟨_, rfl⟩
  obtain ⟨-, -, helements, hbody⟩ := text_kept_by_cutting data
  exact ⟨h, helements.mp h, hbody h⟩

end Parser

end EventBench
