import EventBench.Diff.Unified
import EventBench.Proofs.Diff.Hunk
import EventBench.Proofs.Text.Numeral

namespace EventBench.Diff.Patch

open Text

/-- A range as a header tells it: a line, counted from one, and a size. An empty range is told by the line
before it. -/
structure Range where
  line : Nat
  size : Nat
  deriving DecidableEq, Repr

def Range.start (r : Range) : Nat :=
  if r.size = 0 then r.line else r.line - 1

structure Section where
  old : Range
  new : Range
  edits : List (Edit String)
  deriving DecidableEq, Repr

def readRange (cs : List Char) : Range × List Char :=
  match Numeral.readDecimal cs with
  | (line, ',' :: cs) => (⟨line, (Numeral.readDecimal cs).1⟩, (Numeral.readDecimal cs).2)
  | (line, cs) => (⟨line, 1⟩, cs)

def readHeader? : List Char → Option (Range × Range)
  | '@' :: '@' :: ' ' :: '-' :: cs =>
    match readRange cs with
    | (old, ' ' :: '+' :: cs) =>
      match readRange cs with
      | (new, [' ', '@', '@']) => some (old, new)
      | _ => none
    | _ => none
  | _ => none

def readEdit? : List Char → Option (Edit String)
  | ' ' :: cs => some (.keep (String.ofList cs))
  | '-' :: cs => some (.remove (String.ofList cs))
  | '+' :: cs => some (.add (String.ofList cs))
  | _ => none

/-- Reads lines: the steps that stand in front of the first header, and the sections. -/
def readLines? : List (List Char) → Option (List (Edit String) × List Section)
  | [] => some ([], [])
  | l :: ls =>
    match readLines? ls with
    | none => none
    | some (edits, sections) =>
      match readEdit? l, readHeader? l with
      | some e, _ => some (e :: edits, sections)
      | none, some (old, new) => some ([], ⟨old, new, edits⟩ :: sections)
      | none, none => none

def read? (text : String) : Option (List Section) :=
  match readLines? ((text.toList.splitOn '\n').drop 2) with
  | some ([], sections) => some sections
  | _ => none

/-- Applies sections to the lines of `old` from `i` on; each must find its old side where its range says. -/
def replay? (i : Nat) (old : List String) : List Section → Option (List String)
  | [] => some (old.drop i)
  | s :: ss =>
    if i ≤ s.old.start ∧ (old.drop s.old.start).take s.old.size = oldSide s.edits then
      (replay? (s.old.start + s.old.size) old ss).map fun rest =>
        (old.drop i).take (s.old.start - i) ++ newSide s.edits ++ rest
    else none

/-- Each side of a section is what its list has in the range that is told for it. -/
structure Section.Fits (s : Section) (old new : List String) : Prop where
  oldLines : (old.drop s.old.start).take s.old.size = oldSide s.edits
  oldSize : s.old.size = (oldSide s.edits).length
  newLines : (new.drop s.new.start).take s.new.size = newSide s.edits
  newSize : s.new.size = (newSide s.edits).length

/-- Sections follow one another on both sides, and outside of them the lists agree, from `i` and `j` on. -/
def Agree (old new : List String) (i j : Nat) : List Section → Prop
  | [] => old.drop i = new.drop j
  | s :: ss =>
    i ≤ s.old.start ∧ j ≤ s.new.start ∧
      (old.drop i).take (s.old.start - i) = (new.drop j).take (s.new.start - j) ∧
      Agree old new (s.old.start + s.old.size) (s.new.start + s.new.size) ss

/-- The range of `size` lines behind `start` others, as it is told. -/
def told (start size : Nat) : Range :=
  ⟨if size = 0 then start else start + 1, size⟩

theorem start_told (start size : Nat) : (told start size).start = start := by
  unfold told Range.start
  dsimp only
  split_ifs
  · rfl
  · exact Nat.add_sub_cancel start 1

def ofHunk (h : Hunk String) : Section :=
  ⟨told h.oldStart (oldSide h.edits).length, told h.newStart (newSide h.edits).length, h.edits⟩

theorem readRange_range (start size : Nat) (rest : List Char) :
    readRange (Unified.range start size ++ ' ' :: rest) = (told start size, ' ' :: rest) := by
  have hblank : ∀ c ∈ (' ' :: rest).head?, c.isDigit = false := by
    rintro c ⟨⟩
    rfl
  have hcomma (cs : List Char) : ∀ c ∈ (',' :: cs).head?, c.isDigit = false := by
    rintro c ⟨⟩
    rfl
  unfold Unified.range told
  split_ifs with hone hzero hzero
  · omega
  · rw [readRange, Numeral.readDecimal_decimal _ _ hblank, hone]
    rfl
  · rw [readRange, List.append_assoc, List.cons_append, Numeral.readDecimal_decimal _ _ (hcomma _)]
    simp only [Numeral.readDecimal_decimal _ _ hblank]
  · rw [readRange, List.append_assoc, List.cons_append, Numeral.readDecimal_decimal _ _ (hcomma _)]
    simp only [Numeral.readDecimal_decimal _ _ hblank]

theorem header_eq (h : Hunk String) :
    Unified.header h = '@' :: '@' :: ' ' :: '-' ::
      (Unified.range h.oldStart (oldSide h.edits).length ++ ' ' :: '+' ::
        (Unified.range h.newStart (newSide h.edits).length ++ [' ', '@', '@'])) := by
  have hparts : Unified.header h = "@@ -".toList ++ Unified.range h.oldStart (oldSide h.edits).length
      ++ " +".toList ++ Unified.range h.newStart (newSide h.edits).length ++ " @@".toList := rfl
  rw [hparts]
  simp

theorem readHeader?_header (h : Hunk String) :
    readHeader? (Unified.header h) = some ((ofHunk h).old, (ofHunk h).new) := by
  rw [header_eq, readHeader?]
  simp only [readRange_range]
  rfl

theorem readEdit?_header (h : Hunk String) : readEdit? (Unified.header h) = none := by
  rw [header_eq]
  rfl

theorem readEdit?_editLine (e : Edit String) : readEdit? (Unified.editLine e) = some e := by
  cases e <;> simp [Unified.editLine, readEdit?]

theorem readLines?_edits (edits more : List (Edit String)) (ls : List (List Char)) (sections : List Section)
    (h : readLines? ls = some (more, sections)) :
    readLines? (edits.map Unified.editLine ++ ls) = some (edits ++ more, sections) := by
  induction edits with
  | nil => exact h
  | cons e edits ih =>
    rw [List.map_cons, List.cons_append, readLines?, ih]
    simp only [readEdit?_editLine, List.cons_append]

theorem readLines?_hunkLines (hs : List (Hunk String)) :
    readLines? (hs.flatMap Unified.hunkLines) = some ([], hs.map ofHunk) := by
  induction hs with
  | nil => rfl
  | cons h hs ih =>
    have hedits := readLines?_edits h.edits [] _ _ ih
    rw [List.append_nil] at hedits
    rw [List.flatMap_cons, Unified.hunkLines, List.cons_append, readLines?, hedits]
    simp only [readEdit?_header, readHeader?_header]
    rfl

theorem lineFeed_not_mem_decimal (n : Nat) : '\n' ∉ Numeral.decimal n := by
  intro h
  have hdigit := Numeral.isDigit_of_mem_decimal h
  cases hdigit

theorem lineFeed_not_mem_range (start size : Nat) : '\n' ∉ Unified.range start size := by
  unfold Unified.range
  split_ifs <;> simp [lineFeed_not_mem_decimal]

theorem lineFeed_not_mem_header (h : Hunk String) : '\n' ∉ Unified.header h := by
  simp [header_eq, lineFeed_not_mem_range]

theorem lineFeed_not_mem_editLine (script : List (Edit String))
    (hold : ∀ s ∈ oldSide script, '\n' ∉ s.toList) (hnew : ∀ s ∈ newSide script, '\n' ∉ s.toList) :
    ∀ e ∈ script, '\n' ∉ Unified.editLine e := by
  intro e he
  cases e with
  | keep s =>
    have hs := hold s (List.mem_filterMap.mpr ⟨_, he, rfl⟩)
    simpa [Unified.editLine] using hs
  | remove s =>
    have hs := hold s (List.mem_filterMap.mpr ⟨_, he, rfl⟩)
    simpa [Unified.editLine] using hs
  | add s =>
    have hs := hnew s (List.mem_filterMap.mpr ⟨_, he, rfl⟩)
    simpa [Unified.editLine] using hs

theorem lineFeed_not_mem_lines (hs : List (Hunk String))
    (h : ∀ hunk ∈ hs, ∀ e ∈ hunk.edits, '\n' ∉ Unified.editLine e) :
    ∀ l ∈ Unified.lines hs, '\n' ∉ l := by
  intro l hl
  unfold Unified.lines at hl
  split_ifs at hl
  · cases hl
  · rcases List.mem_cons.mp hl with rfl | hl
    · decide
    · rcases List.mem_cons.mp hl with rfl | hl
      · decide
      · obtain ⟨hunk, hh, hl⟩ := List.mem_flatMap.mp hl
        rcases List.mem_cons.mp hl with rfl | hl
        · exact lineFeed_not_mem_header hunk
        · obtain ⟨e, he, rfl⟩ := List.mem_map.mp hl
          exact h hunk hh e he

theorem lines_eq_cons_cons (hs : List (Hunk String)) (h : hs ≠ []) :
    Unified.lines hs
      = "--- expected".toList :: "+++ actual".toList :: hs.flatMap Unified.hunkLines := by
  rw [Unified.lines, if_neg (by simpa using h)]

theorem read?_render (hs : List (Hunk String)) (hne : hs ≠ [])
    (h : ∀ hunk ∈ hs, ∀ e ∈ hunk.edits, '\n' ∉ Unified.editLine e) :
    read? (Unified.render hs) = some (hs.map ofHunk) := by
  have hlines := lines_eq_cons_cons hs hne
  have hsplit := List.splitOn_intercalate '\n' (lineFeed_not_mem_lines hs h) (by simp [hlines])
  rw [read?, Unified.render, String.toList_ofList, hsplit, hlines, List.drop_succ_cons, List.drop_succ_cons,
    List.drop_zero, readLines?_hunkLines]

theorem render_eq_empty_iff (hs : List (Hunk String)) : Unified.render hs = "" ↔ hs = [] := by
  constructor
  · intro h
    by_contra hne
    have hempty := congrArg String.toList h
    rw [Unified.render, String.toList_ofList, lines_eq_cons_cons hs hne] at hempty
    simp [List.intercalate] at hempty
  · rintro rfl
    rfl

theorem drop_take_of_drop_eq (xs front rest : List String) (i : Nat) (h : xs.drop i = front ++ rest) :
    (xs.drop i).take front.length = front ∧ xs.drop (i + front.length) = rest := by
  constructor
  · rw [h, List.take_left]
  · rw [← List.drop_drop, h, List.drop_left]

theorem of_replay (old new : List String) (i j : Nat) (hs : List (Hunk String)) (olds news : List String)
    (h : Replay i j hs olds news) (hold : old.drop i = olds) (hnew : new.drop j = news) :
    replay? i old (hs.map ofHunk) = some news ∧ (∀ s ∈ hs.map ofHunk, s.Fits old new) ∧
    Agree old new i j (hs.map ofHunk) := by
  induction h with
  | done i j rest =>
    refine ⟨?_, by simp, ?_⟩
    · rw [List.map_nil, replay?, hold]
    · rw [List.map_nil, Agree, hold, hnew]
  | hunk i j gap olds news h hs oldStart newStart rest ih =>
    obtain ⟨holdGap, holdAt⟩ := drop_take_of_drop_eq old gap _ i hold
    obtain ⟨hnewGap, hnewAt⟩ := drop_take_of_drop_eq new gap _ j hnew
    rw [← oldStart] at holdAt
    rw [← newStart] at hnewAt
    obtain ⟨holdSide, holdRest⟩ := drop_take_of_drop_eq old _ _ _ holdAt
    obtain ⟨hnewSide, hnewRest⟩ := drop_take_of_drop_eq new _ _ _ hnewAt
    obtain ⟨happly, hfits, hagree⟩ := ih holdRest hnewRest
    have holdStart : (ofHunk h).old.start = h.oldStart := start_told _ _
    have hnewStart : (ofHunk h).new.start = h.newStart := start_told _ _
    have holdSize : (ofHunk h).old.size = (oldSide h.edits).length := rfl
    have hnewSize : (ofHunk h).new.size = (newSide h.edits).length := rfl
    have hedits : (ofHunk h).edits = h.edits := rfl
    have holdGap' : h.oldStart - i = gap.length := by omega
    have hnewGap' : h.newStart - j = gap.length := by omega
    rw [List.map_cons]
    refine ⟨?_, ?_, ?_⟩
    · rw [replay?, holdStart, holdSize, hedits, if_pos ⟨by omega, holdSide⟩, happly, holdGap', holdGap]
      exact congrArg some (List.append_assoc gap (newSide h.edits) news)
    · refine List.forall_mem_cons.mpr ⟨⟨?_, holdSize, ?_, hnewSize⟩, hfits⟩
      · rw [holdStart, holdSize, holdSide, hedits]
      · rw [hnewStart, hnewSize, hnewSide, hedits]
    · rw [Agree, holdStart, hnewStart, holdSize, hnewSize, holdGap', hnewGap', holdGap, hnewGap]
      exact ⟨by omega, by omega, rfl, hagree⟩

end EventBench.Diff.Patch
