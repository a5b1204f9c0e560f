import Mathlib.Data.List.DropRight
import EventBench.Text.Blank

namespace EventBench.Text

/-- A text that neither begins nor ends with a character of a class. -/
structure Trimmed (p : Char → Bool) (cs : List Char) : Prop where
  head : ∀ c ∈ cs.head?, p c = false
  last : ∀ c ∈ cs.getLast?, p c = false

variable (p : Char → Bool)

theorem trimmed_of_all (cs : List Char) (h : (cs.all fun c => !p c) = true) : Trimmed p cs := by
  have hnone (c : Char) (hc : c ∈ cs) : p c = false := by simpa using List.all_eq_true.mp h c hc
  constructor
  · intro c hc
    exact hnone c (List.mem_of_mem_head? hc)
  · intro c hc
    exact hnone c (List.mem_of_mem_getLast? hc)

theorem trim_eq_rdropWhile (cs : List Char) : trim p cs = (cs.dropWhile p).rdropWhile p := rfl

theorem trim_of_trimmed (cs : List Char) (h : Trimmed p cs) : trim p cs = cs := by
  have hfront : cs.dropWhile p = cs := by
    cases cs with
    | nil => simp
    | cons c cs =>
      have hc := h.head c (by simp)
      simp [hc]
  rw [trim_eq_rdropWhile, hfront, List.rdropWhile_eq_self_iff]
  intro hne
  have hlast := h.last (cs.getLast hne) (by simp [List.getLast?_eq_some_getLast hne])
  simp [hlast]

theorem trimmed_trim (cs : List Char) : Trimmed p (trim p cs) := by
  rw [trim_eq_rdropWhile]
  constructor
  · intro c hc
    have hprefix := List.rdropWhile_prefix p (cs.dropWhile p)
    have hhead : (cs.dropWhile p).head? = some c := by
      obtain ⟨rest, hrest⟩ := hprefix
      rw [← hrest, List.head?_append, hc]
      simp
    have hnot := List.head?_dropWhile_not p cs
    simpa [hhead] using hnot
  · intro c hc
    by_cases hne : (cs.dropWhile p).rdropWhile p = []
    · simp [hne] at hc
    · have hnot := List.rdropWhile_last_not p (cs.dropWhile p) hne
      rw [List.getLast?_eq_some_getLast hne] at hc
      simp only [Option.mem_def, Option.some.injEq] at hc
      simpa [hc] using hnot

theorem trim_eq_nil_iff (cs : List Char) : trim p cs = [] ↔ ∀ c ∈ cs, p c = true := by
  constructor
  · intro h
    rw [trim_eq_rdropWhile, List.rdropWhile_eq_nil_iff] at h
    have hempty : cs.dropWhile p = [] := by
      cases hd : cs.dropWhile p with
      | nil => rfl
      | cons c rest =>
        have hnot := List.head?_dropWhile_not p cs
        have hc := h c (by simp [hd])
        simp [hd, hc] at hnot
    exact List.dropWhile_eq_nil_iff.mp hempty
  · intro h
    have hempty : cs.dropWhile p = [] := List.dropWhile_eq_nil_iff.mpr h
    simp [trim_eq_rdropWhile, hempty]

theorem rdropWhile_append (cs after : List Char) (h : ∀ c ∈ after, p c = true) :
    (cs ++ after).rdropWhile p = cs.rdropWhile p := by
  have hrev : ∀ c ∈ after.reverse, p c = true := by simpa using h
  simp only [List.rdropWhile, List.reverse_append, List.dropWhile_append_of_pos hrev]

theorem trim_padded (before cs after : List Char) (hbefore : ∀ c ∈ before, p c = true)
    (hafter : ∀ c ∈ after, p c = true) : trim p (before ++ cs ++ after) = trim p cs := by
  rw [trim_eq_rdropWhile, trim_eq_rdropWhile, List.append_assoc, List.dropWhile_append_of_pos hbefore,
    List.dropWhile_append]
  split
  · next hempty =>
    have hnil : cs.dropWhile p = [] := by simpa using hempty
    have hall : after.dropWhile p = [] := List.dropWhile_eq_nil_iff.mpr hafter
    rw [hnil, hall]
  · rw [rdropWhile_append p _ after hafter]

theorem toList_strip (s : String) : (strip s).toList = trim isBlank s.toList := by
  simp [strip]

theorem strip_of_trimmed (s : String) (h : Trimmed isBlank s.toList) : strip s = s := by
  rw [strip, trim_of_trimmed isBlank s.toList h]
  simp

theorem trimmed_strip (s : String) : Trimmed isBlank (strip s).toList := by
  rw [toList_strip]
  exact trimmed_trim isBlank s.toList

end EventBench.Text
