import EventBench.Parser.Elements
import EventBench.Proofs.Parser.Lines

namespace EventBench.Parser.Elements

open Lines (lineFeed line_induction span_line span_last covered covered_at)

theorem eventsFrom_nil (pos : Nat) : eventsFrom pos [] [] = [] := by
  rw [eventsFrom]
  rfl

theorem eventsFrom_last (pos : Nat) (body : Bytes) (hne : body ≠ []) (h : lineFeed ∉ body) :
    eventsFrom pos [] body = line pos (pos + body.length) body := by
  obtain ⟨ht, hd⟩ := span_last body h
  rw [eventsFrom, if_neg (by simpa using hne)]
  split
  · simp [ht]
  · simp_all

theorem eventsFrom_line (pos : Nat) (body rest : Bytes) (h : lineFeed ∉ body) :
    eventsFrom pos [] (body ++ lineFeed :: rest)
      = line pos (pos + body.length + 1) body ++ eventsFrom (pos + body.length + 1) [] rest := by
  obtain ⟨ht, hd⟩ := span_line body rest h
  rw [eventsFrom, if_neg (by simp)]
  split
  · simp_all
  · rename_i b rest' hd'
    obtain ⟨rfl, rfl⟩ : lineFeed = b ∧ rest = rest' := by simpa [hd] using hd'
    have happend := eventsFrom_append (pos + body.length + 1) []
      (line pos (pos + body.length + 1) body).reverse rest
    rw [List.reverse_reverse, List.nil_append] at happend
    simpa [ht] using happend

/-- An element stands between its name's place and the place of the next line. -/
theorem ordered_element (pos next : Nat) (rest : Bytes) (h : pos + rest.length ≤ next) :
    Event.Ordered pos next (element pos next rest) := by
  have hname : (rest.takeWhile inName).length ≤ rest.length := (List.takeWhile_prefix inName).length_le
  unfold element
  dsimp only
  generalize rest.takeWhile inName = name at hname ⊢
  generalize htext : rest.drop (name.length + 1) = text
  have htextLen : text.length = rest.length - (name.length + 1) := by
    rw [← htext, List.length_drop]
  have hopen := Event.Ordered.single "ElementStart" none pos pos (by decide) (Nat.le_refl _)
  have hnamed := Event.Ordered.single "Name" (some name) pos (pos + name.length) (by decide)
    (Nat.le_add_right _ _)
  have hclose := Event.Ordered.single "ElementEnd" none next next (by decide) (Nat.le_refl _)
  have htexted : Event.Ordered (pos + name.length) next
      (if text.isEmpty then []
        else [⟨"Text", some text, pos + name.length + 1, pos + name.length + 1 + text.length⟩]) := by
    split_ifs with hempty
    · exact .nil _ _
    · have hpositive : 0 < text.length := List.length_pos_iff.mpr (by simpa using hempty)
      have hone := Event.Ordered.single "Text" (some text) (pos + name.length + 1)
        (pos + name.length + 1 + text.length) (by decide) (Nat.le_add_right _ _)
      exact hone.mono _ _ _ _ _ (Nat.le_succ _) (by omega)
  have hhead := hopen.append _ _ _ _ _ hnamed (Nat.le_refl _) (Nat.le_add_right _ _)
  have hbody := hhead.append _ _ _ _ _ htexted (Nat.le_add_right _ _) (by omega)
  exact hbody.append _ _ _ _ _ hclose (by omega) (Nat.le_refl _)

theorem ordered_line (pos next : Nat) (body : Bytes) (h : pos + body.length ≤ next) :
    Event.Ordered pos next (line pos next body) := by
  cases body with
  | nil => exact .nil _ _
  | cons b rest =>
    rw [line]
    split_ifs with hb
    · have he := ordered_element (pos + 1) next rest (by rw [List.length_cons] at h; omega)
      exact he.mono _ _ _ _ _ (Nat.le_succ _) (Nat.le_refl _)
    · have hone := Event.Ordered.single "Text" (some (b :: rest)) pos (pos + (b :: rest).length) (by decide)
        (Nat.le_add_right _ _)
      exact hone.mono _ _ _ _ _ (Nat.le_refl _) h

theorem ordered_eventsFrom (pos : Nat) (data : Bytes) :
    Event.Ordered pos (pos + data.length) (eventsFrom pos [] data) := by
  induction data using line_induction generalizing pos with
  | nil =>
    rw [eventsFrom_nil]
    exact .nil _ _
  | last body hne hlast =>
    rw [eventsFrom_last pos body hne hlast]
    exact ordered_line pos _ body (Nat.le_refl _)
  | cons body rest hfeed ih =>
    rw [eventsFrom_line pos body rest hfeed]
    have hlen : pos + (body ++ lineFeed :: rest).length = pos + body.length + 1 + rest.length := by
      simp only [List.length_append, List.length_cons]
      omega
    rw [hlen]
    have hhead := ordered_line pos (pos + body.length + 1) body (Nat.le_succ _)
    exact hhead.append _ _ _ _ _ (ih _) (by omega) (Nat.le_add_right _ _)

theorem pass_eq (k : Nat) (data : Bytes) : elements.pass k data = .ofEvents (events data) :=
  Pass.ofDrafts_eq (events data) (ordered_eventsFrom 0 data).valid

theorem element_shift (n pos next : Nat) (rest : Bytes) :
    element (n + pos) (n + next) rest = (element pos next rest).map (Event.shift n) := by
  unfold element
  dsimp only
  split_ifs <;> simp [Event.shift, Int.add_assoc]

theorem line_shift (n pos next : Nat) (body : Bytes) :
    line (n + pos) (n + next) body = (line pos next body).map (Event.shift n) := by
  cases body with
  | nil => rfl
  | cons b rest =>
    simp only [line]
    split_ifs with hb
    · rw [Nat.add_assoc]
      exact element_shift n (pos + 1) next rest
    · simp [Event.shift, Int.add_assoc]

/-- What stands in front of an input moves its events, and changes nothing else of them. -/
theorem eventsFrom_shift (n pos : Nat) (data : Bytes) :
    eventsFrom (n + pos) [] data = (eventsFrom pos [] data).map (Event.shift n) := by
  induction data using line_induction generalizing pos with
  | nil =>
    rw [eventsFrom_nil, eventsFrom_nil]
    rfl
  | last body hne hlast =>
    rw [eventsFrom_last _ body hne hlast, eventsFrom_last _ body hne hlast, Nat.add_assoc]
    exact line_shift n pos (pos + body.length) body
  | cons body rest hfeed ih =>
    have hline := line_shift n pos (pos + body.length + 1) body
    have hrest := ih (pos + body.length + 1)
    rw [eventsFrom_line _ body rest hfeed, eventsFrom_line _ body rest hfeed, List.map_append]
    simp only [Nat.add_assoc] at hline hrest ⊢
    rw [hline, hrest]

/-- Behind a line feed the parser starts anew. -/
theorem eventsFrom_whole_append (pos : Nat) (a b : Bytes) (h : ∀ c ∈ a.getLast?, c = lineFeed) :
    eventsFrom pos [] (a ++ b) = eventsFrom pos [] a ++ eventsFrom (pos + a.length) [] b := by
  induction a using line_induction generalizing pos with
  | nil => simp [eventsFrom_nil]
  | last body hne hlast =>
    have hfeed := h _ (List.getLast?_eq_some_getLast hne)
    exact absurd (hfeed ▸ List.getLast_mem hne) hlast
  | cons body rest hfeed ih =>
    have hrest : ∀ c ∈ rest.getLast?, c = lineFeed := by
      intro c hc
      apply h c
      cases rest with
      | nil => cases hc
      | cons d rest => simpa using hc
    have htail := ih (pos + body.length + 1) hrest
    have hlen : pos + body.length + 1 + rest.length = pos + (body ++ lineFeed :: rest).length := by
      simp only [List.length_append, List.length_cons]
      omega
    rw [hlen] at htail
    rw [List.append_assoc, List.cons_append, eventsFrom_line _ body _ hfeed, eventsFrom_line _ body _ hfeed,
      htail, List.append_assoc]

theorem events_whole_append (a b : Bytes) (h : a.getLast? = some lineFeed) :
    events (a ++ b) = events a ++ (events b).map (Event.shift a.length) := by
  have hfeed : ∀ c ∈ a.getLast?, c = lineFeed := by
    intro c hc
    rw [h] at hc
    exact (Option.some.inj hc).symm
  rw [events, eventsFrom_whole_append 0 a b hfeed, Nat.zero_add, ← Nat.add_zero a.length,
    eventsFrom_shift a.length 0 b]
  rfl

def body (w : Bytes) : Bytes :=
  if w.getLast? = some lineFeed then w.dropLast else w

theorem body_cases (w : Bytes) (h : lineFeed ∉ w.dropLast) :
    lineFeed ∉ body w ∧ (w = body w ∨ w = body w ++ [lineFeed]) := by
  unfold body
  split_ifs with hlast
  · exact ⟨h, Or.inr (List.dropLast_append_getLast? lineFeed hlast).symm⟩
  · refine ⟨?_, Or.inl rfl⟩
    intro hm
    have hne : w ≠ [] := List.ne_nil_of_mem hm
    rw [← List.dropLast_append_getLast hne] at hm
    rcases List.mem_append.mp hm with hm | hm
    · exact h hm
    · rw [List.mem_singleton.mp hm] at hlast
      exact hlast (List.getLast?_eq_some_getLast hne)

theorem events_single (w : Bytes) (h : lineFeed ∉ w.dropLast) : events w = line 0 w.length (body w) := by
  obtain ⟨hfeed, hw⟩ := body_cases w h
  generalize body w = text at hfeed hw ⊢
  rcases hw with rfl | rfl
  · cases w with
    | nil => exact eventsFrom_nil 0
    | cons b rest =>
      have hl := eventsFrom_last 0 (b :: rest) (List.cons_ne_nil b rest) hfeed
      rw [Nat.zero_add] at hl
      exact hl
  · have hl := eventsFrom_line 0 text [] hfeed
    rw [eventsFrom_nil, List.append_nil, Nat.zero_add] at hl
    rw [List.length_append]
    exact hl

theorem element_eq (pos next : Nat) (name rest : Bytes) (hname : space ∉ name)
    (hrest : ∀ b ∈ rest.head?, b = space) :
    element pos next (name ++ rest)
      = [⟨"ElementStart", none, pos, pos⟩, ⟨"Name", some name, pos, pos + name.length⟩]
        ++ (if rest.tail = [] then []
          else [⟨"Text", some rest.tail, pos + name.length + 1, pos + (name ++ rest).length⟩])
        ++ [⟨"ElementEnd", none, next, next⟩] := by
  have hin : ∀ b ∈ name, inName b = true := by
    intro b hb
    have hne : b ≠ space := fun heq => hname (heq ▸ hb)
    simpa [inName] using hne
  have hout : ∀ b ∈ rest.head?, inName b = false := by
    intro b hb
    rw [hrest b hb]
    rfl
  obtain ⟨ht, -⟩ := Text.span_append inName name rest hin hout
  have hdrop : (name ++ rest).drop (name.length + 1) = rest.tail := by
    rw [List.drop_append, List.drop_eq_nil_of_le (Nat.le_succ _), Nat.add_sub_cancel_left, List.drop_one]
    rfl
  simp only [element, ht, hdrop, List.isEmpty_iff]
  split_ifs with hempty
  · rfl
  · have hpositive : 0 < rest.tail.length := List.length_pos_iff.mpr hempty
    have hstop : ((pos + name.length : Nat) : Int) + 1 + rest.tail.length
        = pos + (name ++ rest).length := by
      rw [List.length_tail] at hpositive ⊢
      rw [List.length_append]
      omega
    rw [hstop]
    rfl

theorem shown_element (data rest more : Bytes) (pos next : Nat) (h : data.drop pos = rest ++ more) :
    ∀ e ∈ element pos next rest, ∀ b ∈ e.content, b = covered data e := by
  have hsplit := List.takeWhile_append_dropWhile (p := inName) (l := rest)
  intro e he b hb
  unfold element at he
  dsimp only at he
  generalize rest.takeWhile inName = name at hsplit he
  simp only [List.mem_append, List.mem_cons, List.not_mem_nil, or_false] at he
  rcases he with ((rfl | rfl) | he) | rfl
  · cases hb
  · obtain rfl := Option.mem_some_iff.mp hb
    refine (covered_at data _ (rest.dropWhile inName ++ more) pos _ ?_ rfl rfl).symm
    rw [h, ← List.append_assoc, hsplit]
  · split_ifs at he with hempty
    · cases he
    · obtain rfl := List.mem_singleton.mp he
      obtain rfl := Option.mem_some_iff.mp hb
      refine (covered_at data _ more (pos + name.length + 1) _ ?_ rfl rfl).symm
      have hlong : name.length + 1 ≤ rest.length := by
        by_contra hshort
        exact hempty (by simp; omega)
      rw [Nat.add_assoc, ← List.drop_drop, h, List.drop_append_of_le_length hlong]
  · cases hb

theorem shown_line (data body more : Bytes) (pos next : Nat) (h : data.drop pos = body ++ more) :
    ∀ e ∈ line pos next body, ∀ b ∈ e.content, b = covered data e := by
  intro e he b hb
  cases body with
  | nil => cases he
  | cons c rest =>
    rw [line] at he
    split_ifs at he with hbar
    · apply shown_element data rest more (pos + 1) next _ e he b hb
      rw [← List.drop_drop, h]
      rfl
    · obtain rfl := List.mem_singleton.mp he
      obtain rfl := Option.mem_some_iff.mp hb
      exact (covered_at data (c :: rest) more pos _ h rfl rfl).symm

theorem shown_eventsFrom (data rest : Bytes) (pos : Nat) (h : data.drop pos = rest) :
    ∀ e ∈ eventsFrom pos [] rest, ∀ b ∈ e.content, b = covered data e := by
  induction rest using line_induction generalizing pos with
  | nil =>
    rw [eventsFrom_nil]
    simp
  | last body hne hlast =>
    rw [eventsFrom_last pos body hne hlast]
    exact shown_line data body [] pos _ (by rw [h, List.append_nil])
  | cons body rest hfeed ih =>
    rw [eventsFrom_line pos body rest hfeed]
    have htail : data.drop (pos + body.length + 1) = rest := by
      rw [Nat.add_assoc, ← List.drop_drop, h, List.drop_append]
      simp
    intro e he
    rcases List.mem_append.mp he with he | he
    · exact shown_line data body (lineFeed :: rest) pos _ h e he
    · exact ih (pos + body.length + 1) htail e he

/-- The parser works line by line: what ends with a line feed is followed by the events of the rest, moved
behind it. A single line is an element if it begins with a bar, else text if it is not empty; and content
is what the input has at its place. -/
theorem elements_line_by_line :
    (∀ k data, elements.pass k data = .ofEvents (events data)) ∧
    (∀ a b, a.getLast? = some lineFeed →
      events (a ++ b) = events a ++ (events b).map (Event.shift a.length)) ∧
    (∀ w, lineFeed ∉ w.dropLast →
      (∀ name, space ∉ name → body w = bar :: name →
        events w = [⟨"ElementStart", none, 1, 1⟩, ⟨"Name", some name, 1, 1 + name.length⟩,
          ⟨"ElementEnd", none, w.length, w.length⟩]) ∧
      (∀ name text, space ∉ name → body w = bar :: (name ++ space :: text) →
        events w = [⟨"ElementStart", none, 1, 1⟩, ⟨"Name", some name, 1, 1 + name.length⟩]
          ++ (if text = [] then [] else [⟨"Text", some text, 1 + name.length + 1, (body w).length⟩])
          ++ [⟨"ElementEnd", none, w.length, w.length⟩]) ∧
      ((body w).head? ≠ some bar →
        events w = if body w = [] then [] else [⟨"Text", some (body w), 0, (body w).length⟩])) ∧
    ∀ data, ∀ e ∈ events data, ∀ b ∈ e.content, b = covered data e := by
  refine ⟨pass_eq, events_whole_append, ?_, fun data => shown_eventsFrom data data 0 rfl⟩
  intro w hw
  rw [events_single w hw]
  refine ⟨?_, ?_, ?_⟩
  · intro name hname hbody
    have he := element_eq 1 w.length name [] hname (by simp)
    rw [List.append_nil] at he
    rw [hbody, line, if_pos rfl, he]
    rfl
  · intro name text hname hbody
    have he := element_eq 1 w.length name (space :: text) hname (by rintro b ⟨⟩; rfl)
    rw [hbody, line, if_pos rfl, he, List.length_cons, Nat.add_comm _ 1]
    rfl
  · intro hhead
    cases hb : body w with
    | nil => rfl
    | cons c rest =>
      have hc : c ≠ bar := by
        rintro rfl
        exact hhead (by rw [hb]; rfl)
      rw [line, if_neg hc, if_neg (List.cons_ne_nil c rest)]
      simp

/-- A name, two spaces, and a bar inside the text; then a bar alone without a line feed. -/
theorem elements_line_by_line_bars :
    let a : Bytes := [bar, 0x62, space, space, bar, lineFeed]
    let b : Bytes := [bar]
    events (a ++ b) = events a ++ (events b).map (Event.shift a.length) ∧
    events a = [⟨"ElementStart", none, 1, 1⟩, ⟨"Name", some [0x62], 1, 2⟩,
      ⟨"Text", some [space, bar], 3, 5⟩, ⟨"ElementEnd", none, 6, 6⟩] ∧
    events b = [⟨"ElementStart", none, 1, 1⟩, ⟨"Name", some [], 1, 1⟩, ⟨"ElementEnd", none, 1, 1⟩] ∧
    events [space, bar] = [⟨"Text", some [space, bar], 0, 2⟩] := by
  intro a b
  obtain ⟨-, happend, hline, -⟩ := elements_line_by_line
  refine ⟨happend a b (by decide), ?_, ?_, ?_⟩
  · exact (hline a (by decide)).2.1 [0x62] [space, bar] (by decide) (by decide)
  · exact (hline b (by decide)).1 [] (by decide) (by decide)
  · exact (hline [space, bar] (by decide)).2.2 (by decide)

end EventBench.Parser.Elements
