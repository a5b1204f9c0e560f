import Mathlib.Order.Bounds.Basic
import EventBench.Golden
import EventBench.Proofs.Diff.Alignment
import EventBench.Proofs.Diff.Patch
import EventBench.Proofs.Event.Line

namespace EventBench.Golden

open Diff (agreement agreement_le_left agreement_le_right take_agreement le_agreement align hunks)

/-- The first difference stands behind all that is shared from the beginning on. -/
theorem mismatchFrom_eq (n : Nat) (actual expected : List String) :
    mismatchFrom n actual expected
      = if actual = expected then none else some (n + agreement actual expected) := by
  induction actual generalizing n expected with
  | nil =>
    cases expected with
    | nil => rfl
    | cons b bs => rfl
  | cons a as ih =>
    cases expected with
    | nil => rfl
    | cons b bs =>
      rw [mismatchFrom, agreement, ih]
      by_cases hab : a = b
      · by_cases has : as = bs
        · simp [hab, has]
        · simp [hab, has, Nat.add_assoc, Nat.add_comm 1]
      · simp [hab]

theorem isGreatest_agreement (xs ys : List String) :
    IsGreatest {n | ∃ front, front <+: xs ∧ front <+: ys ∧ front.length = n} (agreement xs ys) := by
  constructor
  · refine ⟨xs.take (agreement xs ys), List.take_prefix _ _, ?_, ?_⟩
    · rw [take_agreement]
      exact List.take_prefix _ _
    · rw [List.length_take, Nat.min_eq_left (agreement_le_left xs ys)]
  · rintro n ⟨front, hx, hy, rfl⟩
    have htake : xs.take front.length = ys.take front.length := by
      rw [← List.prefix_iff_eq_take.mp hx, ← List.prefix_iff_eq_take.mp hy]
    exact le_agreement xs ys _ hx.length_le hy.length_le htake

/-- One list begins with all of the other exactly if they share as much as there can be. -/
theorem agreement_eq_min_iff (xs ys : List String) :
    agreement xs ys = min xs.length ys.length ↔ xs <+: ys ∨ ys <+: xs := by
  have hx := agreement_le_left xs ys
  have hy := agreement_le_right xs ys
  have htake := take_agreement xs ys
  constructor
  · intro h
    rcases Nat.le_total xs.length ys.length with hle | hle
    · rw [h, Nat.min_eq_left hle, List.take_length] at htake
      exact Or.inl (List.prefix_iff_eq_take.mpr htake)
    · rw [h, Nat.min_eq_right hle, List.take_length] at htake
      exact Or.inr (List.prefix_iff_eq_take.mpr htake.symm)
  · rintro (h | h)
    · have hle := (isGreatest_agreement xs ys).2 ⟨xs, List.prefix_rfl, h, rfl⟩
      have hlen := h.length_le
      omega
    · have hle := (isGreatest_agreement xs ys).2 ⟨ys, h, List.prefix_rfl, rfl⟩
      have hlen := h.length_le
      omega

theorem diff_ofLines (actual expected : List String) :
    (ofLines actual expected).diff = Diff.Unified.render (hunks (align expected actual)) := rfl

theorem diff_ofLines_eq_empty_iff (actual expected : List String) :
    (ofLines actual expected).diff = "" ↔ actual = expected := by
  rw [diff_ofLines, Diff.Patch.render_eq_empty_iff, Diff.hunks_align_eq_nil_iff]
  exact eq_comm

theorem compare_of_lines (p : Pass) (actual expected : List String) (h : p.lines = (actual, none)) :
    compare p expected = .ok (ofLines actual expected) := by
  rw [compare, h]

/-- A comparison matches exactly if the lines are equal, if it names no first difference, and if the text of
the difference is empty. The first difference stands behind the longest beginning that both lists share. -/
theorem verdicts_agree (p : Pass) (actual expected : List String) (h : p.lines = (actual, none)) :
    ∃ c, compare p expected = .ok c ∧ c.actual = actual ∧ c.expected = expected ∧
      (c.isMatch = true ↔ actual = expected) ∧
      (c.mismatch = none ↔ actual = expected) ∧
      (c.diff = "" ↔ actual = expected) ∧
      (actual ≠ expected → ∃ k, c.mismatch = some k ∧
        IsGreatest {n | ∃ front, front <+: actual ∧ front <+: expected ∧ front.length = n} k ∧
        k ≤ min actual.length expected.length ∧
        (k = min actual.length expected.length ↔ actual <+: expected ∨ expected <+: actual)) := by
  have hmismatch : (ofLines actual expected).mismatch
      = if actual = expected then none else some (agreement actual expected) := by
    rw [ofLines, mismatchFrom_eq, Nat.zero_add]
  refine ⟨_, compare_of_lines p actual expected h, rfl, rfl, ?_, ?_, ?_, ?_⟩
  · rw [Comparison.isMatch, hmismatch]
    split_ifs with heq <;> simp [heq]
  · rw [hmismatch]
    split_ifs with heq <;> simp [heq]
  · exact diff_ofLines_eq_empty_iff actual expected
  · intro hne
    rw [hmismatch, if_neg hne]
    refine ⟨_, rfl, isGreatest_agreement actual expected, ?_, agreement_eq_min_iff actual expected⟩
    exact Nat.le_min.mpr ⟨agreement_le_left _ _, agreement_le_right _ _⟩

/-- A pass whose lines are a beginning of those expected. -/
theorem verdicts_agree_beginning :
    let p : Pass := .ofEvents [⟨"Text", none, 0, 1⟩]
    let expected := ["Text @ 0..1", "Text @ 0..1"]
    p.lines = ([(⟨"Text", none, 0, 1⟩ : Event).line], none) ∧
    ∃ c, compare p expected = .ok c ∧ ∃ k, c.mismatch = some k ∧ k ≤ 1 := by
  intro p expected
  have hlines : p.lines = ([(⟨"Text", none, 0, 1⟩ : Event).line], none) := Pass.lines_ofEvents _ none
  obtain ⟨c, hc, -, -, -, -, -, hfirst⟩ := verdicts_agree p _ expected hlines
  obtain ⟨k, hk, -, hle, -⟩ := hfirst (by decide)
  exact ⟨hlines, c, hc, k, hk, hle.trans (Nat.min_le_left _ _)⟩

theorem lineFeed_not_mem_line (e : Event) (h : e.Valid) : '\n' ∉ e.line.toList := by
  rw [Event.toList_line]
  intro hm
  have hinline := Event.isInline_of_mem_render e '\n' h hm
  exact absurd hinline.1 (by decide)

/-- The text of a difference is a patch from the expected lines to those of the pass: read back, its sections
are on either side what the lists have in the ranges told for them, the lists agree outside of the sections,
and applied to the expected lines they give the others. -/
theorem diff_is_patch (events : List Event) (expected : List String) (hevents : ∀ e ∈ events, e.Valid)
    (hexpected : ∀ l ∈ expected, '\n' ∉ l.toList) :
    ∃ c, compare (.ofEvents events) expected = .ok c ∧ c.actual = events.map Event.line ∧
      (c.diff = "" → c.actual = expected) ∧
      (c.diff ≠ "" → ∃ sections, Diff.Patch.read? c.diff = some sections ∧
        Diff.Patch.replay? 0 expected sections = some c.actual ∧
        (∀ s ∈ sections, s.Fits expected c.actual) ∧
        Diff.Patch.Agree expected c.actual 0 0 sections) := by
  have hactual : ∀ l ∈ events.map Event.line, '\n' ∉ l.toList := by
    intro l hl
    obtain ⟨e, he, rfl⟩ := List.mem_map.mp hl
    exact lineFeed_not_mem_line e (hevents e he)
  have hcompare := compare_of_lines _ _ expected (Pass.lines_ofEvents events none)
  generalize events.map Event.line = actual at hactual hcompare
  refine ⟨_, hcompare, rfl, (diff_ofLines_eq_empty_iff actual expected).mp, ?_⟩
  intro hdiff
  rw [diff_ofLines] at hdiff ⊢
  have hne : hunks (align expected actual) ≠ [] := fun hnil =>
    hdiff ((Diff.Patch.render_eq_empty_iff _).mpr hnil)
  have hfeed := Diff.Patch.lineFeed_not_mem_editLine (align expected actual)
    (by rw [Diff.oldSide_align]; exact hexpected) (by rw [Diff.newSide_align]; exact hactual)
  have hread := Diff.Patch.read?_render (hunks (align expected actual)) hne fun h hh e he =>
    hfeed e (Diff.mem_of_mem_hunks _ h hh e he)
  have hreplay := Diff.replay_hunks (align expected actual)
  rw [Diff.oldSide_align, Diff.newSide_align] at hreplay
  exact ⟨_, hread, Diff.Patch.of_replay expected actual 0 0 _ _ _ hreplay rfl rfl⟩

/-- Expected lines that look like the frame of a patch. -/
theorem diff_is_patch_frames :
    let events : List Event := [⟨"Text", none, 0, 1⟩, ⟨"Name", none, 1, 1⟩]
    let expected := ["@@ -1 +1 @@", "--- expected", ""]
    (∀ e ∈ events, e.Valid) ∧ (∀ l ∈ expected, '\n' ∉ l.toList) ∧
    ∃ c, compare (.ofEvents events) expected = .ok c ∧ ∃ sections,
      Diff.Patch.read? c.diff = some sections ∧
      Diff.Patch.replay? 0 expected sections = some (events.map Event.line) := by
  intro events expected
  have hevents : ∀ e ∈ events, e.Valid := by decide
  have hexpected : ∀ l ∈ expected, '\n' ∉ l.toList := by decide
  obtain ⟨c, hc, hactual, hempty, hpatch⟩ := diff_is_patch events expected hevents hexpected
  have hshort : events.map Event.line ≠ expected := fun heq => absurd (congrArg List.length heq) (by decide)
  have hdiff : c.diff ≠ "" := fun h => hshort (hactual.symm.trans (hempty h))
  obtain ⟨sections, hread, happly, -⟩ := hpatch hdiff
  rw [hactual] at happly
  exact ⟨hevents, hexpected, c, hc, sections, hread, happly⟩

end EventBench.Golden
