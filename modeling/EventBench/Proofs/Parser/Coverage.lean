import EventBench.Proofs.Parser.Text

namespace EventBench

/-- Whether a place of the input lies in the span of an event. -/
def Event.spans (e : Event) (i : Nat) : Bool :=
  decide (e.start ≤ i ∧ i < e.stop)

namespace Parser.Elements

open Lines (lineFeed line_induction covered)

variable {data : Bytes}

def Begins (data : Bytes) (i : Nat) : Prop :=
  i = 0 ∨ data[i - 1]? = some lineFeed

/-- The places of an input that no content shows: those of a line feed, of a bar at the beginning of a line, and of
the first space of a line that begins with a bar. -/
inductive Skipped (data : Bytes) : Nat → Prop
  | feed (i : Nat) (h : data[i]? = some lineFeed) : Skipped data i
  | opening (i : Nat) (hi : Begins data i) (h : data[i]? = some bar) : Skipped data i
  | separator (s i : Nat) (hs : Begins data s) (hbar : data[s]? = some bar) (hi : s ≤ i)
      (hbetween : ∀ j, s ≤ j → j < i → data[j]? ≠ some lineFeed ∧ data[j]? ≠ some space)
      (h : data[i]? = some space) : Skipped data i

/-- The places where no content goes on: those that are skipped, and the end. -/
def Ends (data : Bytes) (i : Nat) : Prop :=
  Skipped data i ∨ i = data.length

/-- Contents between two places that stand apart and in order, and take in every place there but those where no
content goes on. -/
structure Spread (data : Bytes) (low high : Nat) (contents : List Event) : Prop where
  within : ∀ e ∈ contents, low ≤ e.start ∧ e.stop < high
  apart : contents.Pairwise fun e f => e.stop < f.start
  skipped : ∀ i, low ≤ i → i < high → Ends data i → contents.countP (·.spans i) = 0
  shown : ∀ i, low ≤ i → i < high → ¬ Ends data i → contents.countP (·.spans i) = 1

theorem Spread.gap {i : Nat} (h : Ends data i) : Spread data i (i + 1) [] := by
  refine ⟨by simp, .nil, by simp, ?_⟩
  intro j hlow hhigh hj
  obtain rfl : j = i := by omega
  exact absurd h hj

/-- One content, and the place at which it ends. -/
theorem Spread.content (kind : String) (b : Bytes) {start stop : Nat} (h : start ≤ stop) (hstop : Ends data stop)
    (hinside : ∀ i, start ≤ i → i < stop → ¬ Ends data i) :
    Spread data start (stop + 1) [⟨kind, some b, start, stop⟩] := by
  refine ⟨?_, List.pairwise_singleton _ _, ?_, ?_⟩
  · intro e he
    obtain rfl := List.mem_singleton.mp he
    exact ⟨Int.le_refl _, by dsimp only; omega⟩
  · intro i hlow hhigh hi
    obtain rfl : i = stop := by
      by_contra hne
      exact hinside i hlow (by omega) hi
    simp [Event.spans]
  · intro i hlow hhigh hi
    have hlt : i < stop := by
      by_contra hge
      obtain rfl : i = stop := by omega
      exact hi hstop
    simp [Event.spans, hlow, hlt]

/-- Outside the places between which contents stand there is none of them. -/
theorem Spread.countP_outside {low high : Nat} {es : List Event} (h : Spread data low high es) (i : Nat)
    (hi : i < low ∨ high ≤ i) : es.countP (·.spans i) = 0 := by
  rw [List.countP_eq_zero]
  intro e he
  have hw := h.within e he
  simp only [Event.spans, decide_eq_true_eq]
  omega

theorem Spread.append {low mid high : Nat} {es fs : List Event} (he : Spread data low mid es)
    (hf : Spread data mid high fs) (hlow : low ≤ mid) (hhigh : mid ≤ high) : Spread data low high (es ++ fs) := by
  have hcount (i : Nat) (hi : low ≤ i) (hi' : i < high) :
      (i < mid ∧ (es ++ fs).countP (·.spans i) = es.countP (·.spans i)) ∨
        (mid ≤ i ∧ (es ++ fs).countP (·.spans i) = fs.countP (·.spans i)) := by
    rw [List.countP_append]
    rcases Nat.lt_or_ge i mid with hlt | hge
    · rw [hf.countP_outside i (Or.inl hlt)]
      exact Or.inl ⟨hlt, rfl⟩
    · rw [he.countP_outside i (Or.inr hge), Nat.zero_add]
      exact Or.inr ⟨hge, rfl⟩
  refine ⟨?_, List.pairwise_append.mpr ⟨he.apart, hf.apart, ?_⟩, ?_, ?_⟩
  · intro e hm
    rcases List.mem_append.mp hm with hm | hm
    · have hw := he.within e hm
      omega
    · have hw := hf.within e hm
      omega
  · intro e hme f hmf
    have hwe := he.within e hme
    have hwf := hf.within f hmf
    omega
  · intro i hi hi' hends
    rcases hcount i hi hi' with ⟨hlt, hc⟩ | ⟨hge, hc⟩
    · rw [hc, he.skipped i hi hlt hends]
    · rw [hc, hf.skipped i hge hi' hends]
  · intro i hi hi' hends
    rcases hcount i hi hi' with ⟨hlt, hc⟩ | ⟨hge, hc⟩
    · rw [hc, he.shown i hi hlt hends]
    · rw [hc, hf.shown i hge hi' hends]

section

variable {body more : Bytes} {pos : Nat}

/-- A line that begins at a place, and what follows it there. -/
structure LineAt (data : Bytes) (pos : Nat) (body more : Bytes) : Prop where
  begins : Begins data pos
  drop : data.drop pos = body ++ more
  line : lineFeed ∉ body
  feed : ∀ b ∈ more.head?, b = lineFeed
  le : pos ≤ data.length

theorem LineAt.getElem? (h : LineAt data pos body more) (k : Nat) : data[pos + k]? = (body ++ more)[k]? := by
  rw [← h.drop, List.getElem?_drop]

theorem LineAt.getElem?_body (h : LineAt data pos body more) {k : Nat} (hk : k < body.length) :
    data[pos + k]? = body[k]? := by
  rw [h.getElem?, List.getElem?_append_left hk]

theorem LineAt.ne_feed (h : LineAt data pos body more) {k : Nat} (hk : k < body.length) :
    data[pos + k]? ≠ some lineFeed := by
  rw [h.getElem?_body hk]
  intro hfeed
  exact h.line (List.mem_of_getElem? hfeed)

theorem LineAt.length_eq (h : LineAt data pos body more) : data.length = pos + (body ++ more).length :=
  Lines.length_of_drop_eq data _ pos h.le h.drop

/-- The end of a line is at a line feed, or else it is that of the input. -/
theorem LineAt.ends (h : LineAt data pos body more) : Ends data (pos + body.length) := by
  have hlength := h.length_eq
  cases more with
  | nil =>
    rw [List.append_nil] at hlength
    exact Or.inr hlength.symm
  | cons b more =>
    obtain rfl := h.feed b rfl
    apply Or.inl
    apply Skipped.feed
    rw [h.getElem?]
    simp

/-- No line but that which begins at `pos` reaches a place of it without a line feed in between. -/
theorem LineAt.eq_of_begins (h : LineAt data pos body more) {s k : Nat} (hk : k < body.length) (hs : Begins data s)
    (hle : s ≤ pos + k) (hbetween : ∀ j, s ≤ j → j < pos + k → data[j]? ≠ some lineFeed) : s = pos := by
  rcases Nat.lt_trichotomy s pos with hlt | heq | hgt
  · rcases h.begins with hzero | hfeed
    · omega
    · exact absurd hfeed (hbetween (pos - 1) (by omega) (by omega))
  · exact heq
  · rcases hs with hzero | hfeed
    · omega
    · have hplace : s - 1 = pos + (s - 1 - pos) := by omega
      rw [hplace] at hfeed
      exact absurd hfeed (h.ne_feed (by omega))

/-- Inside a line only the bar in front and the first space behind it are skipped. -/
theorem LineAt.ends_iff (h : LineAt data pos body more) {k : Nat} (hk : k < body.length) :
    Ends data (pos + k) ↔
      body.head? = some bar ∧ (k = 0 ∨ (body[k]? = some space ∧ ∀ j < k, body[j]? ≠ some space)) := by
  have hlength := h.length_eq
  rw [List.length_append] at hlength
  have hhead : data[pos]? = body.head? := by
    have hfirst := h.getElem?_body (Nat.lt_of_le_of_lt (Nat.zero_le k) hk)
    rwa [Nat.add_zero, ← List.head?_eq_getElem?] at hfirst
  constructor
  · rintro (hskipped | hend)
    · cases hskipped with
      | feed _ hfeed => exact absurd hfeed (h.ne_feed hk)
      | opening _ hi hbar =>
        have hpos := h.eq_of_begins hk hi (Nat.le_refl _) fun j hj hj' => by omega
        obtain rfl : k = 0 := by omega
        rw [hpos, hhead] at hbar
        exact ⟨hbar, Or.inl rfl⟩
      | separator s _ hs hbar hi hbetween hspace =>
        obtain rfl := h.eq_of_begins hk hs hi fun j hj hj' => (hbetween j hj hj').1
        rw [hhead] at hbar
        rw [h.getElem?_body hk] at hspace
        refine ⟨hbar, Or.inr ⟨hspace, ?_⟩⟩
        intro j hj
        rw [← h.getElem?_body (Nat.lt_trans hj hk)]
        exact (hbetween (s + j) (by omega) (by omega)).2
    · omega
  · rintro ⟨hbar, rfl | ⟨hspace, hbefore⟩⟩
    · exact Or.inl (.opening pos h.begins (hhead.trans hbar))
    · refine Or.inl (.separator pos _ h.begins (hhead.trans hbar) (Nat.le_add_right _ _) ?_ ?_)
      · intro j hj hj'
        obtain ⟨l, rfl⟩ := Nat.exists_eq_add_of_le hj
        have hl : l < body.length := by omega
        refine ⟨h.ne_feed hl, ?_⟩
        rw [h.getElem?_body hl]
        exact hbefore l (by omega)
      · rw [h.getElem?_body hk, hspace]

def contents (events : List Event) : List Event :=
  events.filter fun e => !e.isBracket

theorem contents_append (es fs : List Event) : contents (es ++ fs) = contents es ++ contents fs :=
  List.filter_append es fs

/-- The contents of an element are its name and what stands behind the first space. -/
theorem contents_element (pos next : Nat) (name rest : Bytes) (hname : space ∉ name)
    (hrest : ∀ b ∈ rest.head?, b = space) :
    contents (element pos next (name ++ rest))
      = ⟨"Name", some name, pos, (pos + name.length : Nat)⟩ :: (if rest.tail = [] then []
          else [⟨"Text", some rest.tail, (pos + name.length + 1 : Nat), (pos + (name ++ rest).length : Nat)⟩]) := by
  rw [element_eq pos next name rest hname hrest]
  split_ifs <;> rfl

theorem LineAt.ends_behind_bar_iff {r : Bytes} (h : LineAt data pos (bar :: r) more) {k : Nat} (hk : k < r.length) :
    Ends data (pos + 1 + k) ↔ r[k]? = some space ∧ ∀ j < k, r[j]? ≠ some space := by
  rw [Nat.add_assoc, Nat.add_comm 1 k, h.ends_iff (by rw [List.length_cons]; omega), List.getElem?_cons_succ]
  constructor
  · rintro ⟨-, hzero | ⟨hspace, hbefore⟩⟩
    · omega
    · exact ⟨hspace, fun j hj => hbefore (j + 1) (by omega)⟩
  · rintro ⟨hspace, hbefore⟩
    refine ⟨rfl, Or.inr ⟨hspace, ?_⟩⟩
    intro j hj
    cases j with
    | zero => exact fun hbar => absurd (Option.some.inj hbar) (by decide)
    | succ j => exact hbefore j (by omega)

theorem spread_element (next : Nat) {name rest : Bytes} (h : LineAt data pos (bar :: (name ++ rest)) more)
    (hname : space ∉ name) (hrest : ∀ b ∈ rest.head?, b = space) :
    Spread data (pos + 1) (pos + 1 + (name ++ rest).length + 1) (contents (element (pos + 1) next (name ++ rest))) := by
  have hend := h.ends
  rw [List.length_cons, Nat.add_comm _ 1, ← Nat.add_assoc] at hend
  have hinside : ∀ i, pos + 1 ≤ i → i < pos + 1 + name.length → ¬ Ends data i := by
    intro i hlow hhigh hi
    obtain ⟨k, rfl⟩ := Nat.exists_eq_add_of_le hlow
    have hk : k < name.length := by omega
    have hspace := ((h.ends_behind_bar_iff (by rw [List.length_append]; omega)).mp hi).1
    rw [List.getElem?_append_left hk] at hspace
    exact hname (List.mem_of_getElem? hspace)
  rw [contents_element (pos + 1) next name rest hname hrest]
  cases rest with
  | nil =>
    rw [List.append_nil] at hend ⊢
    exact .content "Name" name (Nat.le_add_right _ _) hend hinside
  | cons b text =>
    obtain rfl := hrest b rfl
    have hlength : (name ++ space :: text).length = name.length + (text.length + 1) := by
      rw [List.length_append, List.length_cons]
    have hspace : (name ++ space :: text)[name.length]? = some space := by simp
    have hfirst : Ends data (pos + 1 + name.length) := by
      rw [h.ends_behind_bar_iff (by rw [hlength]; omega)]
      refine ⟨hspace, ?_⟩
      intro j hj hat
      rw [List.getElem?_append_left hj] at hat
      exact hname (List.mem_of_getElem? hat)
    have hnamed := Spread.content "Name" name (Nat.le_add_right _ _) hfirst hinside
    rw [hlength] at hend ⊢
    rw [List.tail_cons]
    split_ifs with hempty
    · subst hempty
      exact hnamed.append (.gap hend) (by omega) (by omega)
    · refine hnamed.append (.content "Text" text (by omega) hend ?_) (by omega) (by omega)
      intro i hlow hhigh hi
      obtain ⟨k, rfl⟩ := Nat.exists_eq_add_of_le (Nat.le_trans (Nat.le_add_right (pos + 1) (name.length + 1)) hlow)
      exact ((h.ends_behind_bar_iff (by rw [hlength]; omega)).mp hi).2 name.length (by omega) hspace

theorem spread_line (next : Nat) (h : LineAt data pos body more) :
    Spread data pos (pos + body.length + 1) (contents (line pos next body)) := by
  have hend := h.ends
  cases body with
  | nil => exact .gap hend
  | cons b r =>
    rw [line]
    split_ifs with hb
    · subst hb
      obtain ⟨name, rest, rfl, hname, hrest⟩ := exists_name r
      have hbar : Ends data pos := (h.ends_iff (k := 0) (by simp)).mpr ⟨rfl, Or.inl rfl⟩
      have hlength : pos + (bar :: (name ++ rest)).length = pos + 1 + (name ++ rest).length := by
        rw [List.length_cons]
        omega
      have hall := (Spread.gap hbar).append (spread_element next h hname hrest) (by omega) (by omega)
      rwa [hlength, ← List.nil_append (contents _)]
    · refine .content "Text" (b :: r) (Nat.le_add_right _ _) hend ?_
      intro i hlow hhigh hi
      obtain ⟨k, rfl⟩ := Nat.exists_eq_add_of_le hlow
      obtain ⟨hbar, -⟩ := (h.ends_iff (by omega)).mp hi
      exact hb (Option.some.inj hbar)

end

theorem begins_of_lineFeed {body rest : Bytes} {pos : Nat} (h : data.drop pos = body ++ lineFeed :: rest) :
    Begins data (pos + body.length + 1) := by
  refine Or.inr ?_
  rw [Nat.add_sub_cancel, ← List.getElem?_drop, h]
  simp

/-- The contents of the lines from a place on, up to the end of the input. -/
theorem spread_eventsFrom (rest : Bytes) (pos : Nat) (hbegins : Begins data pos) (hle : pos ≤ data.length)
    (h : data.drop pos = rest) : Spread data pos (data.length + 1) (contents (eventsFrom pos [] rest)) := by
  have hlength := Lines.length_of_drop_eq data rest pos hle h
  induction rest using line_induction generalizing pos with
  | nil =>
    rw [eventsFrom_nil, hlength]
    exact .gap (Or.inr hlength.symm)
  | last body hne hlast =>
    have hline : LineAt data pos body [] := ⟨hbegins, by rw [h, List.append_nil], hlast, by simp, hle⟩
    rw [eventsFrom_last pos body hne hlast, hlength]
    exact spread_line _ hline
  | cons body rest hfeed ih =>
    have hline : LineAt data pos body (lineFeed :: rest) := ⟨hbegins, h, hfeed, by rintro b ⟨⟩; rfl, hle⟩
    have htail : data.drop (pos + body.length + 1) = rest := by
      rw [Nat.add_assoc, ← List.drop_drop, h, List.drop_append]
      simp
    rw [List.length_append, List.length_cons] at hlength
    have hrest := ih (pos + body.length + 1) (begins_of_lineFeed h) (by omega) htail (by omega)
    rw [eventsFrom_line pos body rest hfeed, contents_append]
    exact (spread_line _ hline).append hrest (by omega) (by omega)

theorem forall_mem_eventsFrom (P : Event → Prop) (h : ∀ pos next body, ∀ e ∈ line pos next body, P e) (pos : Nat)
    (data : Bytes) : ∀ e ∈ eventsFrom pos [] data, P e := by
  induction data using line_induction generalizing pos with
  | nil => simp [eventsFrom_nil]
  | last body hne hlast =>
    rw [eventsFrom_last pos body hne hlast]
    exact h pos _ body
  | cons body rest hfeed ih =>
    rw [eventsFrom_line pos body rest hfeed, List.forall_mem_append]
    exact ⟨h pos _ body, ih _⟩

/-- An event with content is a name or a text, and a bracket is the start or the end of an element, at one place. -/
def Shaped (e : Event) : Prop :=
  if e.isBracket then (e.kind = "ElementStart" ∨ e.kind = "ElementEnd") ∧ e.start = e.stop
  else e.kind = "Name" ∨ e.kind = "Text"

theorem shaped_line (pos next : Nat) (body : Bytes) : ∀ e ∈ line pos next body, Shaped e := by
  cases body with
  | nil => simp [line]
  | cons b r =>
    obtain ⟨name, rest, rfl, hname, hrest⟩ := exists_name r
    rw [line, element_eq (pos + 1) next name rest hname hrest]
    split_ifs <;> simp [Shaped, Event.isBracket]

/-- No text is lost. The contents are what the input has where they stand, they stand apart and in order, and every
byte of the input lies in exactly one of them, unless it is one of those that are skipped, which lie in none. All other
events are brackets at one place of the input. -/
theorem contents_cover_input (data : Bytes) :
    (∀ k, elements.pass k data = .ofEvents (events data)) ∧
    (∀ e ∈ contents (events data), (e.kind = "Name" ∨ e.kind = "Text") ∧ e.content = some (covered data e) ∧
      0 ≤ e.start ∧ e.start ≤ e.stop ∧ e.stop ≤ data.length) ∧
    ((contents (events data)).Pairwise fun e f => e.stop < f.start) ∧
    (∀ i < data.length,
      (Skipped data i → (contents (events data)).countP (·.spans i) = 0) ∧
      (¬ Skipped data i → (contents (events data)).countP (·.spans i) = 1)) ∧
    ∀ e ∈ events data, e.isBracket = true →
      (e.kind = "ElementStart" ∨ e.kind = "ElementEnd") ∧ e.start = e.stop ∧ 0 ≤ e.start ∧ e.stop ≤ data.length := by
  have hspread : Spread data 0 (data.length + 1) (contents (events data)) :=
    spread_eventsFrom data 0 (Or.inl rfl) (Nat.zero_le _) rfl
  have hordered := ordered_eventsFrom 0 data
  have hshaped := forall_mem_eventsFrom Shaped shaped_line 0 data
  refine ⟨fun k => pass_eq k data, ?_, hspread.apart, ?_, ?_⟩
  · intro e he
    obtain ⟨hmem, hfull⟩ := List.mem_filter.mp he
    have hsome : e.content.isSome = true := by simpa [Event.isBracket] using hfull
    obtain ⟨b, hb⟩ := Option.isSome_iff_exists.mp hsome
    have hshape := hshaped e hmem
    rw [Shaped, if_neg (by simpa using hfull)] at hshape
    have hvalid := hordered.valid e hmem
    have hw := hordered.within e hmem
    rw [hb, shown_eventsFrom data data 0 rfl e hmem b hb]
    exact ⟨hshape, rfl, hvalid.start, hvalid.span, by omega⟩
  · intro i hi
    have hends : Ends data i ↔ Skipped data i := or_iff_left (by omega)
    rw [← hends]
    exact ⟨hspread.skipped i (Nat.zero_le _) (by omega), hspread.shown i (Nat.zero_le _) (by omega)⟩
  · intro e he hbracket
    have hw := hordered.within e he
    have hshape := hshaped e he
    rw [Shaped, if_pos hbracket] at hshape
    exact ⟨hshape.1, hshape.2, by omega, by omega⟩

/-- An element with two spaces behind its name, and a bar inside a line: the second space and that bar are shown. -/
theorem contents_cover_input_bars :
    let data : Bytes := [bar, 0x62, space, space, lineFeed, space, bar]
    let shown := contents (events data)
    let text : Event := ⟨"Text", some [space, bar], 5, 7⟩
    let close : Event := ⟨"ElementEnd", none, 5, 5⟩
    (Skipped data 2 ∧ shown.countP (·.spans 2) = 0) ∧
    (¬ Skipped data 3 ∧ shown.countP (·.spans 3) = 1) ∧
    (¬ Skipped data 6 ∧ shown.countP (·.spans 6) = 1) ∧
    (text ∈ shown ∧ text.content = some (covered data text)) ∧
    close ∈ events data ∧ close.start = close.stop := by
  intro data shown text close
  obtain ⟨-, hcontents, -, hplaces, hbrackets⟩ := contents_cover_input data
  have hevents : events data = [⟨"ElementStart", none, 1, 1⟩, ⟨"Name", some [0x62], 1, 2⟩,
      ⟨"Text", some [space], 3, 4⟩, close, text] := by decide +kernel
  have helement : LineAt data 0 [bar, 0x62, space, space] [lineFeed, space, bar] :=
    ⟨Or.inl rfl, rfl, by decide, by rintro b ⟨⟩; rfl, by decide⟩
  have hline : LineAt data 5 [space, bar] [] := ⟨Or.inr rfl, rfl, by decide, by simp, by decide⟩
  have hfirst : Skipped data 2 :=
    .separator 0 2 (Or.inl rfl) rfl (by decide) (by decide) rfl
  have hsecond : ¬ Skipped data 3 := by
    intro h
    obtain ⟨-, hzero | ⟨-, hbefore⟩⟩ := (helement.ends_iff (k := 3) (by decide)).mp (Or.inl h)
    · cases hzero
    · exact hbefore 2 (by decide) rfl
  have hinner : ¬ Skipped data 6 := by
    intro h
    obtain ⟨hbar, -⟩ := (hline.ends_iff (k := 1) (by decide)).mp (Or.inl h)
    exact absurd hbar (by decide)
  have htext : text ∈ shown := by
    simp only [shown, hevents]
    decide
  have hclose : close ∈ events data := by simp [hevents]
  exact ⟨⟨hfirst, (hplaces 2 (by decide)).1 hfirst⟩, ⟨hsecond, (hplaces 3 (by decide)).2 hsecond⟩,
    ⟨hinner, (hplaces 6 (by decide)).2 hinner⟩, ⟨htext, (hcontents text htext).2.1⟩, hclose,
    (hbrackets close hclose rfl).2.1⟩

end Parser.Elements

end EventBench
