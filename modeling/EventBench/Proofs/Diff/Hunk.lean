import Mathlib.Tactic.SplitIfs
import EventBench.Diff.Hunk

namespace EventBench.Diff

variable {α : Type}

theorem oldSide_cons (e : Edit α) (script : List (Edit α)) :
    oldSide (e :: script) = e.old?.toList ++ oldSide script := by
  cases e <;> rfl

theorem newSide_cons (e : Edit α) (script : List (Edit α)) :
    newSide (e :: script) = e.new?.toList ++ newSide script := by
  cases e <;> rfl

theorem oldSide_eq_newSide (script : List (Edit α)) (h : ∀ e ∈ script, e.isKeep = true) :
    oldSide script = newSide script := by
  induction script with
  | nil => rfl
  | cons e script ih =>
    have htail := ih fun f hf => h f (List.mem_cons_of_mem e hf)
    cases e with
    | keep a => exact congrArg (a :: ·) htail
    | remove a => cases h (.remove a) List.mem_cons_self
    | add a => cases h (.add a) List.mem_cons_self

theorem length_following (left : Nat) (script : List (Edit α)) :
    (following left script).length = script.length := by
  induction script generalizing left with
  | nil => rfl
  | cons e script ih =>
    rw [following]
    split_ifs
    · rw [List.length_cons, List.length_cons, ih]
    · rw [List.length_cons, List.length_cons, ih]

theorem length_near (script : List (Edit α)) : (near script).length = script.length := by
  rw [near, List.length_zipWith, length_following, List.length_reverse, length_following,
    List.length_reverse, Nat.min_self]

theorem following_change (left i : Nat) (script : List (Edit α)) (e : Edit α) (h : script[i]? = some e)
    (he : e.isKeep = false) : (following left script)[i]? = some true := by
  induction script generalizing left i with
  | nil => cases h
  | cons f script ih =>
    rw [following]
    cases i with
    | zero =>
      obtain rfl : f = e := by simpa using h
      rw [if_neg (by simp [he])]
      rfl
    | succ i =>
      rw [List.getElem?_cons_succ] at h
      split_ifs
      · exact ih (left - 1) i h
      · exact ih context i h

theorem isKeep_of_unmarked (script : List (Edit α)) :
    ∀ p ∈ script.zip (near script), p.2 = false → p.1.isKeep = true := by
  rintro ⟨e, marked⟩ hp hmarked
  obtain ⟨i, hi⟩ := List.mem_iff_getElem?.mp hp
  obtain ⟨he, hm⟩ := List.getElem?_zip_eq_some.mp hi
  cases hkeep : e.isKeep with
  | true => rfl
  | false =>
    have hfollow := following_change 0 i script e he hkeep
    rw [near, List.getElem?_zipWith, hfollow] at hm
    split at hm
    · rename_i x y hx hy
      obtain rfl := Option.some.inj hx
      rw [Bool.true_or] at hm
      have htrue := Option.some.inj hm
      rw [← htrue] at hmarked
      cases hmarked
    · cases hm

theorem following_keeps (script : List (Edit α)) (h : ∀ e ∈ script, e.isKeep = true) :
    ∀ m ∈ following 0 script, m = false := by
  induction script with
  | nil =>
    intro m hm
    cases hm
  | cons e script ih =>
    rw [following, if_pos (h e List.mem_cons_self)]
    intro m hm
    rcases List.mem_cons.mp hm with rfl | hm
    · rfl
    · exact ih (fun f hf => h f (List.mem_cons_of_mem e hf)) m hm

theorem near_keeps (script : List (Edit α)) (h : ∀ e ∈ script, e.isKeep = true) :
    ∀ m ∈ near script, m = false := by
  intro m hm
  have hback : ∀ e ∈ script.reverse, e.isKeep = true := by
    intro e he
    exact h e (List.mem_reverse.mp he)
  obtain ⟨i, hi⟩ := List.mem_iff_getElem?.mp hm
  rw [near, List.getElem?_zipWith] at hi
  split at hi
  · rename_i x y hx hy
    have hx' := following_keeps script h x (List.mem_of_getElem? hx)
    have hy' := following_keeps _ hback y (List.mem_reverse.mp (List.mem_of_getElem? hy))
    rw [hx', hy'] at hi
    exact (Option.some.inj hi).symm
  · cases hi

theorem hunksFrom_eq_nil_iff (i j : Nat) (steps : List (Edit α × Bool)) :
    hunksFrom i j steps = [] ↔ ∀ p ∈ steps, p.2 = false := by
  induction steps generalizing i j with
  | nil => simp [hunksFrom]
  | cons p steps ih =>
    obtain ⟨e, marked⟩ := p
    rw [hunksFrom, List.forall_mem_cons]
    cases marked with
    | true =>
      dsimp only
      rw [if_pos rfl]
      split <;> simp
    | false => simp [ih]

theorem hunks_eq_nil_iff (script : List (Edit α)) : hunks script = [] ↔ ∀ e ∈ script, e.isKeep = true := by
  rw [hunks, hunksFrom_eq_nil_iff]
  constructor
  · intro h e he
    have hmem : e ∈ (script.zip (near script)).map Prod.fst := by
      rw [List.map_fst_zip (Nat.le_of_eq (length_near script).symm)]
      exact he
    obtain ⟨p, hp, rfl⟩ := List.mem_map.mp hmem
    exact isKeep_of_unmarked script p hp (h p hp)
  · intro h p hp
    exact near_keeps script h p.2 (List.of_mem_zip hp).2

theorem mem_of_mem_hunksFrom (i j : Nat) (steps : List (Edit α × Bool)) :
    ∀ h ∈ hunksFrom i j steps, ∀ e ∈ h.edits, e ∈ steps.map Prod.fst := by
  induction steps generalizing i j with
  | nil =>
    intro h hh
    cases hh
  | cons p steps ih =>
    obtain ⟨f, marked⟩ := p
    have htail := ih (i + f.old?.toList.length) (j + f.new?.toList.length)
    rw [hunksFrom]
    generalize hunksFrom (i + f.old?.toList.length) (j + f.new?.toList.length) steps = rest at htail
    intro h hh e he
    rw [List.map_cons, List.mem_cons]
    split_ifs at hh
    · split at hh
      · rename_i g hs _
        rcases List.mem_cons.mp hh with rfl | hh
        · rcases List.mem_cons.mp he with rfl | he
          · exact Or.inl rfl
          · exact Or.inr (htail g List.mem_cons_self e he)
        · exact Or.inr (htail h (List.mem_cons_of_mem g hh) e he)
      · rcases List.mem_cons.mp hh with rfl | hh
        · exact Or.inl (List.mem_singleton.mp he)
        · exact Or.inr (htail h hh e he)
    · exact Or.inr (htail h hh e he)

/-- Going through two lists by hunks, behind `i` and `j` others: what stands in front of a hunk is shared,
and each side of the hunk is taken off its list. -/
inductive Replay : Nat → Nat → List (Hunk α) → List α → List α → Prop
  | done (i j : Nat) (rest : List α) : Replay i j [] rest rest
  | hunk (i j : Nat) (gap old new : List α) (h : Hunk α) (hs : List (Hunk α))
      (oldStart : h.oldStart = i + gap.length) (newStart : h.newStart = j + gap.length)
      (rest : Replay (h.oldStart + (oldSide h.edits).length) (h.newStart + (newSide h.edits).length) hs
        old new) :
      Replay i j (h :: hs) (gap ++ (oldSide h.edits ++ old)) (gap ++ (newSide h.edits ++ new))

theorem Replay.keep (i j : Nat) (a : α) (hs : List (Hunk α)) (old new : List α)
    (h : Replay (i + 1) (j + 1) hs old new) : Replay i j hs (a :: old) (a :: new) := by
  cases h with
  | done => exact .done i j (a :: old)
  | hunk _ _ gap old new h hs oldStart newStart rest =>
    refine .hunk i j (a :: gap) old new h hs ?_ ?_ rest
    · rw [oldStart, List.length_cons]
      omega
    · rw [newStart, List.length_cons]
      omega

theorem Replay.start (i j : Nat) (e : Edit α) (hs : List (Hunk α)) (old new : List α)
    (h : Replay (i + e.old?.toList.length) (j + e.new?.toList.length) hs old new) :
    Replay i j (⟨i, j, [e]⟩ :: hs) (e.old?.toList ++ old) (e.new?.toList ++ new) := by
  have hold : oldSide [e] = e.old?.toList := by cases e <;> rfl
  have hnew : newSide [e] = e.new?.toList := by cases e <;> rfl
  rw [← hold, ← hnew] at h ⊢
  exact .hunk i j [] old new ⟨i, j, [e]⟩ hs rfl rfl h

theorem Replay.extend (i j : Nat) (e : Edit α) (edits : List (Edit α)) (hs : List (Hunk α)) (old new : List α)
    (h : Replay (i + e.old?.toList.length) (j + e.new?.toList.length)
      (⟨i + e.old?.toList.length, j + e.new?.toList.length, edits⟩ :: hs) old new) :
    Replay i j (⟨i, j, e :: edits⟩ :: hs) (e.old?.toList ++ old) (e.new?.toList ++ new) := by
  cases h with
  | hunk _ _ gap old new _ _ oldStart newStart rest =>
    obtain rfl : gap = [] := by
      apply List.length_eq_zero_iff.mp
      dsimp only at oldStart
      omega
    have hr := Replay.hunk i j [] old new ⟨i, j, e :: edits⟩ hs rfl rfl
    simp only [oldSide_cons, newSide_cons, List.length_append, ← Nat.add_assoc] at hr
    simpa using hr rest

/-- Where the first step is marked, the first hunk begins with it. -/
theorem hunksFrom_marked (i j : Nat) (steps : List (Edit α × Bool)) (e : Edit α)
    (h : steps.head? = some (e, true)) :
    ∃ edits hs, hunksFrom i j steps = ⟨i, j, edits⟩ :: hs := by
  cases steps with
  | nil => cases h
  | cons p steps =>
    obtain rfl := Option.some.inj h
    rw [hunksFrom, if_pos rfl]
    split
    · exact ⟨_, _, rfl⟩
    · exact ⟨_, _, rfl⟩

theorem replay_hunksFrom (i j : Nat) (steps : List (Edit α × Bool))
    (h : ∀ p ∈ steps, p.2 = false → p.1.isKeep = true) :
    Replay i j (hunksFrom i j steps) (oldSide (steps.map Prod.fst)) (newSide (steps.map Prod.fst)) := by
  induction steps generalizing i j with
  | nil => exact .done i j []
  | cons p steps ih =>
    obtain ⟨e, marked⟩ := p
    have htail := ih (i + e.old?.toList.length) (j + e.new?.toList.length)
      fun q hq => h q (List.mem_cons_of_mem _ hq)
    rw [hunksFrom, List.map_cons, oldSide_cons, newSide_cons]
    split_ifs with hmarked
    · split
      · rename_i f g hs hhead hhunks
        obtain ⟨edits, hs', hfirst⟩ :=
          hunksFrom_marked (i + e.old?.toList.length) (j + e.new?.toList.length) steps f hhead
        rw [hhunks] at hfirst
        obtain ⟨rfl, rfl⟩ := List.cons.inj hfirst
        rw [hhunks] at htail
        exact htail.extend i j e edits hs _ _
      · exact htail.start i j e _ _ _
    · have hkeep := h (e, marked) List.mem_cons_self (by simpa using hmarked)
      cases e with
      | keep a => exact htail.keep i j a _ _ _
      | remove a => cases hkeep
      | add a => cases hkeep

/-- The hunks of a script lead from its old side to its new one. -/
theorem replay_hunks (script : List (Edit α)) :
    Replay 0 0 (hunks script) (oldSide script) (newSide script) := by
  have h := replay_hunksFrom 0 0 _ (isKeep_of_unmarked script)
  rwa [List.map_fst_zip (Nat.le_of_eq (length_near script).symm)] at h

theorem mem_of_mem_hunks (script : List (Edit α)) (h : Hunk α) (hh : h ∈ hunks script) :
    ∀ e ∈ h.edits, e ∈ script := by
  intro e he
  have hm := mem_of_mem_hunksFrom 0 0 _ h hh e he
  rwa [List.map_fst_zip (Nat.le_of_eq (length_near script).symm)] at hm

end EventBench.Diff
