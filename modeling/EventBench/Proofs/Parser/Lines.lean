import Mathlib.Data.List.Chain
import EventBench.Parser.Lines
import EventBench.Proofs.Event.Ordered
import EventBench.Proofs.Text.Span

namespace EventBench.Parser.Lines

theorem inLine_iff (b : UInt8) : inLine b = true ↔ b ≠ lineFeed := by
  simp [inLine]

theorem inLine_of_not_mem (line : Bytes) (h : lineFeed ∉ line) : ∀ b ∈ line, inLine b = true := by
  intro b hb
  rw [inLine_iff]
  rintro rfl
  exact h hb

theorem span_line (line rest : Bytes) (h : lineFeed ∉ line) :
    (line ++ lineFeed :: rest).takeWhile inLine = line ∧
    (line ++ lineFeed :: rest).dropWhile inLine = lineFeed :: rest :=
  Text.span_append inLine line (lineFeed :: rest) (inLine_of_not_mem line h) (by rintro b ⟨⟩; rfl)

theorem span_last (line : Bytes) (h : lineFeed ∉ line) :
    line.takeWhile inLine = line ∧ line.dropWhile inLine = [] := by
  have hs := Text.span_append inLine line [] (inLine_of_not_mem line h) (by simp)
  rw [List.append_nil] at hs
  exact hs

theorem line_cases (data : Bytes) :
    data = [] ∨ (data ≠ [] ∧ lineFeed ∉ data) ∨
      ∃ line rest, lineFeed ∉ line ∧ data = line ++ lineFeed :: rest := by
  by_cases h : lineFeed ∈ data
  · obtain ⟨line, rest, hdata, hline⟩ := List.eq_append_cons_of_mem h
    exact Or.inr (Or.inr ⟨line, rest, hline, hdata⟩)
  · by_cases hnil : data = []
    · exact Or.inl hnil
    · exact Or.inr (Or.inl ⟨hnil, h⟩)

@[elab_as_elim]
theorem line_induction {motive : Bytes → Prop} (data : Bytes) (nil : motive [])
    (last : ∀ line, line ≠ [] → lineFeed ∉ line → motive line)
    (cons : ∀ line rest, lineFeed ∉ line → motive rest → motive (line ++ lineFeed :: rest)) :
    motive data := by
  rcases line_cases data with rfl | ⟨hne, h⟩ | ⟨line, rest, h, rfl⟩
  · exact nil
  · exact last data hne h
  · exact cons line rest h (line_induction rest nil last cons)
termination_by data.length
decreasing_by
  subst_vars
  simp only [List.length_append, List.length_cons]
  omega

theorem eventsFrom_nil (pos : Nat) : eventsFrom pos [] [] = [] := by
  rw [eventsFrom]
  rfl

theorem eventsFrom_last (pos : Nat) (line : Bytes) (hne : line ≠ []) (h : lineFeed ∉ line) :
    eventsFrom pos [] line = [event pos line] := by
  obtain ⟨ht, hd⟩ := span_last line h
  rw [eventsFrom, if_neg (by simpa using hne)]
  split
  · rw [ht]
    rfl
  · simp_all

theorem eventsFrom_line (pos : Nat) (line rest : Bytes) (h : lineFeed ∉ line) :
    eventsFrom pos [] (line ++ lineFeed :: rest)
      = event pos (line ++ [lineFeed]) :: eventsFrom (pos + (line.length + 1)) [] rest := by
  obtain ⟨ht, hd⟩ := span_line line rest h
  rw [eventsFrom, if_neg (by simp)]
  split
  · simp_all
  · rename_i b rest' hd'
    obtain ⟨rfl, rfl⟩ : lineFeed = b ∧ rest = rest' := by simpa [hd] using hd'
    rw [ht]
    exact eventsFrom_append _ [] [event pos (line ++ [lineFeed])] rest

theorem ordered_event (pos : Nat) (line : Bytes) :
    Event.Ordered pos (pos + line.length) [event pos line] :=
  .single "Text" (some line) pos (pos + line.length) (by decide) (Nat.le_add_right _ _)

theorem ordered_eventsFrom (pos : Nat) (data : Bytes) :
    Event.Ordered pos (pos + data.length) (eventsFrom pos [] data) := by
  induction data using line_induction generalizing pos with
  | nil =>
    rw [eventsFrom_nil]
    exact .nil _ _
  | last line hne hlast =>
    rw [eventsFrom_last pos line hne hlast]
    exact ordered_event pos line
  | cons line rest hfeed ih =>
    rw [eventsFrom_line pos line rest hfeed]
    have hhead := ordered_event pos (line ++ [lineFeed])
    have htail := ih (pos + (line ++ [lineFeed]).length)
    have hlen : pos + (line ++ lineFeed :: rest).length
        = pos + (line ++ [lineFeed]).length + rest.length := by
      simp only [List.length_append, List.length_cons, List.length_nil]
      omega
    rw [hlen]
    have hboth := hhead.append _ _ _ _ _ htail (Nat.le_add_right _ _) (Nat.le_add_right _ _)
    simpa using hboth

theorem pass_eq (k : Nat) (data : Bytes) : lines.pass k data = .ofEvents (events data) :=
  Pass.ofDrafts_eq (events data) (ordered_eventsFrom 0 data).valid

theorem flatten_contents (pos : Nat) (data : Bytes) :
    ((eventsFrom pos [] data).filterMap Event.content).flatten = data := by
  induction data using line_induction generalizing pos with
  | nil => simp [eventsFrom_nil]
  | last line hne hline => simp [eventsFrom_last pos line hne hline, event]
  | cons line rest hline ih => simp [eventsFrom_line pos line rest hline, event, ih]

/-- The bytes of the input that an event spans. -/
def covered (data : Bytes) (e : Event) : Bytes :=
  data.extract e.start.toNat e.stop.toNat

/-- An event that shows the bytes it spans, with a line feed at most at their end. -/
structure IsLine (data : Bytes) (e : Event) : Prop where
  text : e.kind = "Text"
  content : e.content = some (covered data e)
  nonempty : covered data e ≠ []
  feed : lineFeed ∉ (covered data e).dropLast

/-- A list of events that cuts the input from `pos` on into its lines: they stand side by side from `pos`
to the end, and each but the last one ends with a line feed. -/
structure IsPartition (data : Bytes) (pos : Nat) (events : List Event) : Prop where
  line : ∀ e ∈ events, IsLine data e
  present : pos < data.length → events ≠ []
  first : ∀ e ∈ events.head?, e.start = pos
  next : events.IsChain fun e f => f.start = e.stop
  last : ∀ e ∈ events.getLast?, e.stop = data.length
  ended : ∀ e ∈ events.dropLast, (covered data e).getLast? = some lineFeed

theorem covered_at (data content rest : Bytes) (pos : Nat) (e : Event) (h : data.drop pos = content ++ rest)
    (hstart : e.start = pos) (hstop : e.stop = pos + content.length) : covered data e = content := by
  have hfirst : e.start.toNat = pos := by omega
  have hend : e.stop.toNat = pos + content.length := by omega
  rw [covered, List.extract_eq_take_drop, hfirst, hend, h, Nat.add_sub_cancel_left, List.take_left]

theorem covered_event (data line rest : Bytes) (pos : Nat) (h : data.drop pos = line ++ rest) :
    covered data (event pos line) = line :=
  covered_at data line rest pos _ h rfl rfl

theorem length_of_drop_eq (data rest : Bytes) (pos : Nat) (hpos : pos ≤ data.length)
    (h : data.drop pos = rest) : data.length = pos + rest.length := by
  have hl := congrArg List.length h
  rw [List.length_drop] at hl
  omega

theorem isLine_event (data line rest : Bytes) (pos : Nat) (h : data.drop pos = line ++ rest)
    (hne : line ≠ []) (hfeed : lineFeed ∉ line.dropLast) : IsLine data (event pos line) := by
  have hc := covered_event data line rest pos h
  refine ⟨rfl, ?_, ?_, ?_⟩
  · rw [hc]
    rfl
  · rw [hc]
    exact hne
  · rw [hc]
    exact hfeed

theorem IsPartition.nil (data : Bytes) (pos : Nat) (h : pos = data.length) : IsPartition data pos [] :=
  ⟨by simp, by omega, by simp, .nil, by simp, by simp⟩

theorem IsPartition.cons (data line rest : Bytes) (pos : Nat) (events : List Event)
    (h : IsPartition data (pos + line.length) events) (hdata : data.drop pos = line ++ rest)
    (hne : line ≠ []) (hfeed : lineFeed ∉ line.dropLast)
    (hend : if events = [] then pos + line.length = data.length else line.getLast? = some lineFeed) :
    IsPartition data pos (event pos line :: events) := by
  have hc := covered_event data line rest pos hdata
  have hline := isLine_event data line rest pos hdata hne hfeed
  have hlines : ∀ e ∈ event pos line :: events, IsLine data e := List.forall_mem_cons.mpr ⟨hline, h.line⟩
  cases events with
  | nil =>
    rw [if_pos rfl] at hend
    refine ⟨hlines, fun _ => List.cons_ne_nil _ _, ?_, .singleton _, ?_, by simp⟩
    · rintro e ⟨⟩
      rfl
    · rintro e ⟨⟩
      rw [← hend]
      rfl
  | cons f events =>
    rw [if_neg (List.cons_ne_nil f events)] at hend
    refine ⟨hlines, fun _ => List.cons_ne_nil _ _, ?_, .cons_cons (h.first f rfl) h.next, ?_, ?_⟩
    · rintro e ⟨⟩
      rfl
    · intro e he
      exact h.last e (by simpa using he)
    · rw [← hc] at hend
      rw [List.dropLast_cons_of_ne_nil (List.cons_ne_nil f events)]
      exact List.forall_mem_cons.mpr ⟨hend, h.ended⟩

theorem isPartition_eventsFrom (data rest : Bytes) (pos : Nat) (hpos : pos ≤ data.length)
    (h : data.drop pos = rest) : IsPartition data pos (eventsFrom pos [] rest) := by
  have hlen := length_of_drop_eq data rest pos hpos h
  induction rest using line_induction generalizing pos with
  | nil =>
    rw [eventsFrom_nil]
    exact .nil data pos (by simpa using hlen.symm)
  | last line hne hline =>
    rw [eventsFrom_last pos line hne hline]
    refine .cons data line [] pos [] (.nil data _ hlen.symm) (by rw [h, List.append_nil]) hne ?_ ?_
    · exact fun hm => hline (List.dropLast_subset line hm)
    · rw [if_pos rfl, hlen]
  | cons line rest hline ih =>
    rw [eventsFrom_line pos line rest hline]
    simp only [List.length_append, List.length_cons] at hlen
    have htail : data.drop (pos + (line.length + 1)) = rest := by
      rw [← List.drop_drop, h, List.drop_append]
      simp
    have hrest := ih (pos + (line.length + 1)) (by omega) htail (by omega)
    have hl : (line ++ [lineFeed]).length = line.length + 1 := by simp
    rw [← hl] at hrest ⊢
    refine .cons data (line ++ [lineFeed]) rest pos _ hrest (by simpa using h) (by simp)
      (by simpa using hline) ?_
    split_ifs with he
    · have hp : ¬ pos + (line ++ [lineFeed]).length < data.length := fun hlt => hrest.present hlt he
      rw [hl] at hp ⊢
      omega
    · simp

theorem IsPartition.stop_le (data : Bytes) (pos : Nat) (e : Event) (events : List Event)
    (h : IsPartition data pos (e :: events)) : e.stop ≤ data.length := by
  cases events with
  | nil => exact Int.le_of_eq (h.last e rfl)
  | cons f events =>
    have hnext : f.start = e.stop := (List.isChain_cons_cons.mp h.next).1
    have hf : data.extract f.start.toNat f.stop.toNat ≠ [] := (h.line f (by simp)).nonempty
    rw [List.extract_eq_take_drop] at hf
    have hlt : f.start.toNat < data.length := by
      by_contra hge
      exact hf (by rw [List.drop_eq_nil_of_le (Nat.not_lt.mp hge), List.take_nil])
    omega

theorem IsPartition.tail (data : Bytes) (pos stop : Nat) (e : Event) (events : List Event)
    (h : IsPartition data pos (e :: events)) (hstop : e.stop = stop) :
    IsPartition data stop events := by
  have hline := (List.forall_mem_cons.mp h.line).2
  cases events with
  | nil =>
    have hlast : e.stop = data.length := h.last e rfl
    exact .nil data stop (by omega)
  | cons f events =>
    obtain ⟨hnext, hchain⟩ := List.isChain_cons_cons.mp h.next
    have hended := h.ended
    rw [List.dropLast_cons_of_ne_nil (List.cons_ne_nil f events)] at hended
    refine ⟨hline, fun _ => List.cons_ne_nil _ _, ?_, hchain, ?_, (List.forall_mem_cons.mp hended).2⟩
    · rintro g ⟨⟩
      rw [hnext, hstop]
    · intro g hg
      exact h.last g (by simpa using hg)

theorem IsPartition.covered_head (data rest : Bytes) (pos : Nat) (e : Event) (events : List Event)
    (h : IsPartition data pos (e :: events)) (hd : data.drop pos = rest) :
    covered data e = rest.take (e.stop.toNat - pos) := by
  have hstart : e.start.toNat = pos := by
    rw [h.first e rfl]
    rfl
  rw [covered, List.extract_eq_take_drop, hstart, hd]

theorem IsPartition.feed_mem_head (data : Bytes) (pos : Nat) (e : Event) (events : List Event)
    (h : IsPartition data pos (e :: events)) (hne : events ≠ []) : lineFeed ∈ covered data e := by
  apply List.mem_of_getLast?
  apply h.ended
  rw [List.dropLast_cons_of_ne_nil hne]
  exact List.mem_cons_self

/-- An event of a partition is determined by where it starts and what it spans. -/
theorem IsPartition.head_eq (data line : Bytes) (pos : Nat) (e : Event) (events : List Event)
    (h : IsPartition data pos (e :: events)) (hc : covered data e = line)
    (hstop : e.stop = pos + line.length) : e = event pos line := by
  obtain ⟨kind, content, start, stop⟩ := e
  have hline := h.line _ List.mem_cons_self
  have hkind : kind = "Text" := hline.text
  have hcontent : content = some line := by
    rw [← hc]
    exact hline.content
  have hstart : start = pos := h.first _ rfl
  dsimp only at hstop
  rw [hkind, hcontent, hstart, hstop]
  rfl

/-- A last line without line feed is spanned by one event as a whole. -/
theorem IsPartition.of_last (data line : Bytes) (pos : Nat) (e : Event) (events : List Event)
    (h : IsPartition data pos (e :: events)) (hline : lineFeed ∉ line) (hd : data.drop pos = line)
    (hlen : data.length = pos + line.length) : e = event pos line ∧ events = [] := by
  have hc := h.covered_head data line pos e events hd
  have hnil : events = [] := by
    by_contra hne
    have hm := h.feed_mem_head data pos e events hne
    rw [hc] at hm
    exact hline (List.mem_of_mem_take hm)
  subst hnil
  have hstop : e.stop = data.length := h.last e rfl
  refine ⟨h.head_eq data line pos e [] ?_ (by omega), rfl⟩
  rw [hc]
  exact List.take_of_length_le (by omega)

/-- What takes in a line feed does not end before the first one. -/
theorem le_of_feed_mem_take (line rest : Bytes) (k : Nat) (hline : lineFeed ∉ line)
    (h : lineFeed ∈ (line ++ lineFeed :: rest).take k) : line.length + 1 ≤ k := by
  by_contra hshort
  rw [List.take_append_of_le_length (by omega)] at h
  exact hline (List.mem_of_mem_take h)

/-- What has no line feed before its end does not end behind the first one. -/
theorem le_of_feed_not_mem_dropLast (line rest : Bytes) (k : Nat)
    (hk : k ≤ (line ++ lineFeed :: rest).length)
    (h : lineFeed ∉ ((line ++ lineFeed :: rest).take k).dropLast) : k ≤ line.length + 1 := by
  by_contra hlong
  apply h
  rw [List.dropLast_eq_take, List.length_take, Nat.min_eq_left hk, List.take_take,
    Nat.min_eq_left (Nat.sub_le k 1), List.take_append, List.mem_append]
  obtain ⟨n, hn⟩ : ∃ n, k - 1 - line.length = n + 1 := ⟨k - line.length - 2, by omega⟩
  rw [hn, List.take_succ_cons]
  exact Or.inr List.mem_cons_self

theorem take_line (line rest : Bytes) :
    (line ++ lineFeed :: rest).take (line.length + 1) = line ++ [lineFeed] := by
  rw [List.take_append, List.take_of_length_le (Nat.le_succ _)]
  simp

/-- A line is spanned by one event up to its line feed: an event that ends before has no line feed and
one that ends behind has one inside. -/
theorem IsPartition.of_line (data line rest : Bytes) (pos : Nat) (e : Event) (events : List Event)
    (h : IsPartition data pos (e :: events)) (hline : lineFeed ∉ line)
    (hd : data.drop pos = line ++ lineFeed :: rest)
    (hlen : data.length = pos + (line ++ lineFeed :: rest).length) :
    e = event pos (line ++ [lineFeed]) ∧ IsPartition data (pos + (line.length + 1)) events := by
  have hc := h.covered_head data _ pos e events hd
  have hle := h.stop_le data pos e events
  have hfeed : lineFeed ∉ (covered data e).dropLast := (h.line e List.mem_cons_self).feed
  have hne : covered data e ≠ [] := (h.line e List.mem_cons_self).nonempty
  have hwhole : (line ++ lineFeed :: rest).length = line.length + (rest.length + 1) := by
    rw [List.length_append, List.length_cons]
  generalize hk : e.stop.toNat - pos = k at hc
  have hpositive : k ≠ 0 := by
    rintro rfl
    exact hne (by rw [hc, List.take_zero])
  rw [hc] at hfeed
  have hhigh := le_of_feed_not_mem_dropLast line rest k (by omega) hfeed
  have hlow : line.length + 1 ≤ k := by
    by_cases hnil : events = []
    · subst hnil
      have hstop : e.stop = data.length := h.last e rfl
      omega
    · have hm := h.feed_mem_head data pos e events hnil
      rw [hc] at hm
      exact le_of_feed_mem_take line rest k hline hm
  obtain rfl : k = line.length + 1 := by omega
  rw [take_line] at hc
  have hstop : e.stop = (pos + (line.length + 1) : Nat) := by omega
  have hstop' : e.stop = pos + (line ++ [lineFeed]).length := by
    rw [hstop, List.length_append]
    rfl
  exact ⟨h.head_eq data _ pos e events hc hstop', h.tail data pos _ e events hstop⟩

theorem eq_eventsFrom_of_isPartition (data rest : Bytes) (pos : Nat) (events : List Event)
    (hpos : pos ≤ data.length) (hd : data.drop pos = rest) (h : IsPartition data pos events) :
    events = eventsFrom pos [] rest := by
  have hlen := length_of_drop_eq data rest pos hpos hd
  induction rest using line_induction generalizing pos events with
  | nil =>
    rw [eventsFrom_nil]
    cases events with
    | nil => rfl
    | cons e events =>
      have hc := h.covered_head data [] pos e events hd
      rw [List.take_nil] at hc
      exact absurd hc ((h.line e List.mem_cons_self).nonempty)
  | last line hne hline =>
    rw [eventsFrom_last pos line hne hline]
    have hleft : 0 < line.length := List.length_pos_iff.mpr hne
    cases events with
    | nil => exact absurd rfl (h.present (by omega))
    | cons e events =>
      obtain ⟨rfl, rfl⟩ := h.of_last data line pos e events hline hd hlen
      rfl
  | cons line rest hline ih =>
    rw [eventsFrom_line pos line rest hline]
    have hleft : data.length = pos + (line.length + (rest.length + 1)) := by
      rw [hlen, List.length_append, List.length_cons]
    cases events with
    | nil => exact absurd rfl (h.present (by omega))
    | cons e events =>
      obtain ⟨rfl, htail⟩ := h.of_line data line rest pos e events hline hd hlen
      have hdrop : data.drop (pos + (line.length + 1)) = rest := by
        rw [← List.drop_drop, hd, List.drop_append]
        simp
      rw [ih _ events (by omega) hdrop htail (by omega)]

/-- Every pass reports the one list of events that cuts the input into its lines, and nothing of the
input is lost. -/
theorem lines_unique_partition (data : Bytes) :
    (∀ k, lines.pass k data = .ofEvents (events data)) ∧
    (∀ cut, IsPartition data 0 cut ↔ cut = events data) ∧
    ((events data).filterMap Event.content).flatten = data ∧
    events [] = [] := by
  refine ⟨fun k => pass_eq k data, ?_, flatten_contents 0 data, eventsFrom_nil 0⟩
  intro cut
  constructor
  · exact eq_eventsFrom_of_isPartition data data 0 cut (Nat.zero_le _) rfl
  · rintro rfl
    exact isPartition_eventsFrom data data 0 (Nat.zero_le _) rfl

end EventBench.Parser.Lines
