import Mathlib.Tactic.SplitIfs
import EventBench.Text.LineBreak

namespace EventBench.Text

/-- The characters that can stand inside a line of output: no control of ASCII and none of the line
boundaries above it. -/
def IsInline (c : Char) : Prop :=
  0x20 ≤ c.toNat ∧ c.toNat ≠ 0x7F ∧ c.toNat ≠ 0x85 ∧ c.toNat ≠ 0x2028 ∧ c.toNat ≠ 0x2029

theorem isLineBreak_of_isInline (c : Char) (h : IsInline c) : isLineBreak c = false := by
  obtain ⟨hlow, _, hnext, hline, hparagraph⟩ := h
  simp only [isLineBreak, Bool.or_eq_false_iff, Bool.and_eq_false_iff, decide_eq_false_iff_not,
    beq_eq_false_iff_ne]
  omega

theorem isInline_of_ascii (c : Char) (h : 0x20 ≤ c.toNat) (h' : c.toNat < 0x7F) : IsInline c := by
  refine ⟨h, ?_, ?_, ?_, ?_⟩ <;> omega

theorem linesFrom_inline (c : Char) (line cs : List Char) (h : isLineBreak c = false) :
    linesFrom line (c :: cs) = linesFrom (c :: line) cs := by
  have hne : c ≠ '\r' := by
    rintro rfl
    exact absurd h (by decide)
  rw [linesFrom.eq_3]
  · rw [h]
    rfl
  · intro rest hc
    exact absurd hc hne

theorem linesFrom_append (line cs rest : List Char) (h : ∀ c ∈ cs, isLineBreak c = false) :
    linesFrom line (cs ++ rest) = linesFrom (cs.reverse ++ line) rest := by
  induction cs generalizing line with
  | nil => rfl
  | cons c cs ih =>
    rw [List.cons_append, linesFrom_inline c line _ (h c List.mem_cons_self),
      ih (c :: line) (fun d hd => h d (List.mem_cons_of_mem c hd))]
    simp

theorem linesFrom_lineFeed (line rest : List Char) :
    linesFrom line ('\n' :: rest) = line.reverse :: linesFrom [] rest := rfl

theorem lines_of_inline (cs : List Char) (hne : cs ≠ []) (h : ∀ c ∈ cs, isLineBreak c = false) :
    lines cs = [cs] := by
  have hl := linesFrom_append [] cs [] h
  simp only [List.append_nil] at hl
  rw [lines, hl, linesFrom]
  simp [hne]

/-- Lines that have no boundary inside come back from a text in which a line feed follows each. -/
theorem lines_flatMap_lineFeed (ls : List (List Char)) (h : ∀ l ∈ ls, ∀ c ∈ l, isLineBreak c = false) :
    lines (ls.flatMap fun l => l ++ ['\n']) = ls := by
  induction ls with
  | nil => rfl
  | cons l ls ih =>
    have hl := linesFrom_append [] l ('\n' :: ls.flatMap fun l => l ++ ['\n']) (h l List.mem_cons_self)
    have hls := ih fun m hm => h m (List.mem_cons_of_mem l hm)
    rw [List.flatMap_cons, List.append_assoc, List.singleton_append, lines, hl, linesFrom_lineFeed]
    rw [lines] at hls
    rw [hls]
    simp

/-- Every boundary opens a further line, unless it is the last of the text. -/
theorem length_linesFrom (line cs : List Char) (hlast : ∀ c ∈ cs.getLast?, isLineBreak c = false)
    (hne : line ≠ [] ∨ cs ≠ []) :
    1 ≤ (linesFrom line cs).length ∧
      ((linesFrom line cs).length = 1 ↔ ∀ c ∈ cs, isLineBreak c = false) := by
  have hbehind (b : Char) (rest : List Char) (hb : isLineBreak b = true)
      (h : ∀ c ∈ (b :: rest).getLast?, isLineBreak c = false) :
      rest ≠ [] ∧ ∀ c ∈ rest.getLast?, isLineBreak c = false := by
    cases rest with
    | nil => simp [hb] at h
    | cons d rest =>
      rw [List.getLast?_cons_cons] at h
      exact ⟨by simp, h⟩
  induction line, cs using linesFrom.induct with
  | case1 line hempty =>
    have hnil : line = [] := by simpa using hempty
    simp [hnil] at hne
  | case2 line hfull =>
    rw [linesFrom, if_neg hfull]
    simp
  | case3 line rest ih =>
    rw [List.getLast?_cons_cons] at hlast
    obtain ⟨hrest, htail⟩ := hbehind '\n' rest (by decide) hlast
    obtain ⟨hlen, -⟩ := ih htail (.inr hrest)
    rw [linesFrom.eq_2, List.length_cons]
    refine ⟨by omega, ?_⟩
    constructor
    · intro h
      omega
    · intro h
      exact absurd (h '\r' (by simp)) (by decide)
  | case4 line c rest hother hbreak ih =>
    obtain ⟨hrest, htail⟩ := hbehind c rest hbreak hlast
    obtain ⟨hlen, -⟩ := ih htail (.inr hrest)
    rw [linesFrom.eq_3 line c rest hother, if_pos hbreak, List.length_cons]
    refine ⟨by omega, ?_⟩
    constructor
    · intro h
      omega
    · intro h
      simp [h c (by simp)] at hbreak
  | case5 line c rest hother hplain ih =>
    have htail : ∀ d ∈ rest.getLast?, isLineBreak d = false := by
      intro d hd
      apply hlast
      cases rest with
      | nil => simp at hd
      | cons e rest => simpa using hd
    have hc : isLineBreak c = false := by simpa using hplain
    rw [linesFrom.eq_3 line c rest hother, if_neg hplain]
    simpa [hc] using ih htail (.inl (by simp))

/-- A text that does not end with a boundary is one line exactly if it holds none. -/
theorem length_lines_eq_one_iff (cs : List Char) (hne : cs ≠ [])
    (hlast : ∀ c ∈ cs.getLast?, isLineBreak c = false) :
    (lines cs).length = 1 ↔ ∀ c ∈ cs, isLineBreak c = false :=
  (length_linesFrom [] cs hlast (.inr hne)).2

end EventBench.Text
