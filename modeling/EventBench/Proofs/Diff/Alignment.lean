import Mathlib.Data.List.Infix
import EventBench.Proofs.Diff.Hunk
import EventBench.Proofs.Diff.Search

namespace EventBench.Diff

variable {α : Type}

/-- A stretch inside two lists that is the same in both, be it empty. -/
structure Stretch.Shared (s : Stretch) (a b : List α) : Prop where
  old : s.old + s.size ≤ a.length
  new : s.new + s.size ≤ b.length
  same : (a.drop s.old).take s.size = (b.drop s.new).take s.size

theorem Stretch.fits_iff (s : Stretch) (a b : List α) : s.Fits a b ↔ 0 < s.size ∧ s.Shared a b :=
  ⟨fun h => ⟨h.1, h.2.1, h.2.2.1, h.2.2.2⟩, fun h => ⟨h.1, h.2.old, h.2.new, h.2.same⟩⟩

theorem take_drop_before (xs : List α) (i n : Nat) (hi : i ≤ xs.length) (hn : n ≤ i) :
    (xs.drop (i - n)).take n = ((xs.take i).reverse.take n).reverse := by
  have hlen : (xs.take i).length = i := by
    rw [List.length_take, Nat.min_eq_left hi]
  rw [List.take_reverse, List.reverse_reverse, hlen, List.drop_take, Nat.sub_sub_self hn]

/-- Rows that tell where the members of `a` stand in `whole`, and a part of `whole` that begins at `first`. -/
structure Indexed (whole : List α) (rows : List (List Nat)) (first : Nat) (a b : List α) : Prop where
  length : rows.length = a.length
  sorted : ∀ places ∈ rows, places.Pairwise (· < ·)
  same : ∀ (i : Nat) (places : List Nat), rows[i]? = some places → ∀ j ∈ places, whole[j]? = a[i]?
  part : b <+: whole.drop first

theorem Indexed.take (whole : List α) (rows : List (List Nat)) (first m n : Nat) (a b : List α)
    (h : Indexed whole rows first a b) : Indexed whole (rows.take m) first (a.take m) (b.take n) := by
  refine ⟨?_, fun places hp => h.sorted places (List.mem_of_mem_take hp), ?_,
    (List.take_prefix n b).trans h.part⟩
  · rw [List.length_take, List.length_take, h.length]
  · intro i places hplaces j hj
    rw [List.getElem?_take] at hplaces ⊢
    split_ifs at hplaces ⊢
    exact h.same i places hplaces j hj

theorem Indexed.drop (whole : List α) (rows : List (List Nat)) (first m n : Nat) (a b : List α)
    (h : Indexed whole rows first a b) : Indexed whole (rows.drop m) (first + n) (a.drop m) (b.drop n) := by
  refine ⟨?_, fun places hp => h.sorted places (List.mem_of_mem_drop hp), ?_, ?_⟩
  · rw [List.length_drop, List.length_drop, h.length]
  · intro i places hplaces j hj
    rw [List.getElem?_drop] at hplaces ⊢
    exact h.same (m + i) places hplaces j hj
  · rw [← List.drop_drop]
    exact List.IsPrefix.drop h.part n

/-- Where places are true, a stretch that is shared row by row is shared. -/
theorem Indexed.shared (whole : List α) (rows : List (List Nat)) (first : Nat) (a b : List α) (s : Stretch)
    (h : Indexed whole rows first a b) (hs : Found (rows.map (within first (first + b.length))) first s) :
    s.Shared a b := by
  rcases hs with rfl | ⟨hpositive, hshares⟩
  · exact ⟨Nat.zero_le _, Nat.zero_le _, rfl⟩
  · have hmember : ∀ t < s.size, s.old + t < a.length ∧ s.new + t < b.length ∧
        a[s.old + t]? = b[s.new + t]? := by
      intro t ht
      obtain ⟨cut, hcut, hplace⟩ := hshares t ht
      rw [List.getElem?_map] at hcut
      obtain ⟨places, hplaces, rfl⟩ := Option.map_eq_some_iff.mp hcut
      obtain ⟨hmem, -, hbound⟩ := mem_within _ _ _ places (h.sorted _ (List.mem_of_getElem? hplaces)) hplace
      obtain ⟨hrow, -⟩ := List.getElem?_eq_some_iff.mp hplaces
      have hnew : s.new + t < b.length := by omega
      have hpart : whole[first + s.new + t]? = b[s.new + t]? := by
        obtain ⟨tail, htail⟩ := h.part
        rw [Nat.add_assoc, ← List.getElem?_drop, ← htail, List.getElem?_append_left hnew]
      exact ⟨by rw [← h.length]; exact hrow, hnew, by rw [← hpart, h.same _ places hplaces _ hmem]⟩
    obtain ⟨hold, hnew, -⟩ := hmember (s.size - 1) (by omega)
    refine ⟨by omega, by omega, List.ext_getElem? fun t => ?_⟩
    rw [List.getElem?_take, List.getElem?_take]
    split_ifs with ht
    · rw [List.getElem?_drop, List.getElem?_drop]
      exact (hmember t ht).2.2
    · rfl

variable [DecidableEq α]

theorem agreement_le_left (xs ys : List α) : agreement xs ys ≤ xs.length := by
  induction xs generalizing ys with
  | nil => exact Nat.zero_le _
  | cons x xs ih =>
    cases ys with
    | nil => exact Nat.zero_le _
    | cons y ys =>
      rw [agreement]
      split_ifs
      · exact Nat.succ_le_succ (ih ys)
      · exact Nat.zero_le _

theorem take_agreement (xs ys : List α) : xs.take (agreement xs ys) = ys.take (agreement xs ys) := by
  induction xs generalizing ys with
  | nil => rfl
  | cons x xs ih =>
    cases ys with
    | nil => rfl
    | cons y ys =>
      rw [agreement]
      split_ifs with h
      · rw [List.take_succ_cons, List.take_succ_cons, ih ys, h]
      · rfl

theorem agreement_comm (xs ys : List α) : agreement xs ys = agreement ys xs := by
  induction xs generalizing ys with
  | nil => cases ys <;> rfl
  | cons x xs ih =>
    cases ys with
    | nil => rfl
    | cons y ys => simp only [agreement, ih ys, eq_comm]

theorem agreement_le_right (xs ys : List α) : agreement xs ys ≤ ys.length := by
  rw [agreement_comm]
  exact agreement_le_left ys xs

theorem le_agreement (xs ys : List α) (n : Nat) (hx : n ≤ xs.length) (hy : n ≤ ys.length)
    (h : xs.take n = ys.take n) : n ≤ agreement xs ys := by
  induction xs generalizing ys n with
  | nil => exact hx
  | cons x xs ih =>
    cases ys with
    | nil => exact hy
    | cons y ys =>
      cases n with
      | zero => exact Nat.zero_le _
      | succ n =>
        obtain ⟨hhead, htail⟩ := List.cons.inj h
        rw [agreement, if_pos hhead]
        exact Nat.succ_le_succ (ih ys n (Nat.le_of_succ_le_succ hx) (Nat.le_of_succ_le_succ hy) htail)

theorem agreement_self (xs : List α) : agreement xs xs = xs.length :=
  Nat.le_antisymm (agreement_le_left xs xs) (le_agreement xs xs _ (Nat.le_refl _) (Nat.le_refl _) rfl)

/-- Widening a shared stretch keeps it shared: what is added on either side agrees. -/
theorem Stretch.Shared.widen (s : Stretch) (a b : List α) (h : s.Shared a b) : (s.widen a b).Shared a b := by
  obtain ⟨hold, hnew, hsame⟩ := h
  have hleft := take_agreement (a.take s.old).reverse (b.take s.new).reverse
  have hright := take_agreement (a.drop (s.old + s.size)) (b.drop (s.new + s.size))
  have hleftOld := agreement_le_left (a.take s.old).reverse (b.take s.new).reverse
  have hleftNew := agreement_le_right (a.take s.old).reverse (b.take s.new).reverse
  have hrightOld := agreement_le_left (a.drop (s.old + s.size)) (b.drop (s.new + s.size))
  have hrightNew := agreement_le_right (a.drop (s.old + s.size)) (b.drop (s.new + s.size))
  unfold Stretch.widen
  dsimp only
  generalize agreement (a.take s.old).reverse (b.take s.new).reverse = left at hleft hleftOld hleftNew
  generalize agreement (a.drop (s.old + s.size)) (b.drop (s.new + s.size)) = right
    at hright hrightOld hrightNew
  rw [List.length_reverse, List.length_take] at hleftOld hleftNew
  rw [List.length_drop] at hrightOld hrightNew
  have hbefore : (a.drop (s.old - left)).take left = (b.drop (s.new - left)).take left := by
    rw [take_drop_before a s.old left (by omega) (by omega), hleft,
      take_drop_before b s.new left (by omega) (by omega)]
  refine ⟨by dsimp only; omega, by dsimp only; omega, ?_⟩
  have holdStart : s.old - left + left = s.old := by omega
  have hnewStart : s.new - left + left = s.new := by omega
  rw [List.take_add, List.take_add, List.take_add, List.take_add, List.drop_drop, List.drop_drop,
    List.drop_drop, List.drop_drop, ← Nat.add_assoc, ← Nat.add_assoc, holdStart, hnewStart, hbefore, hsame,
    hright]

theorem Indexed.shared_widen_longest (whole : List α) (rows : List (List Nat)) (first : Nat) (a b : List α)
    (h : Indexed whole rows first a b) :
    ((longest rows first (first + b.length)).widen a b).Shared a b :=
  (h.shared whole rows first a b _ (found_longest rows first _ h.sorted)).widen _ a b

theorem Indexed.anchor?_eq_none_iff (whole : List α) (rows : List (List Nat)) (first : Nat) (a b : List α)
    (h : Indexed whole rows first a b) :
    anchor? rows first a b = none ↔ ((longest rows first (first + b.length)).widen a b).size = 0 := by
  have hshared := h.shared_widen_longest whole rows first a b
  unfold anchor?
  dsimp only
  split_ifs with hfits
  · have hpositive := hfits.size_pos
    simp only [false_iff]
    omega
  · simp only [true_iff]
    rw [Stretch.fits_iff] at hfits
    by_contra hne
    exact hfits ⟨Nat.pos_of_ne_zero hne, hshared⟩

theorem anchor?_eq_some (rows : List (List Nat)) (first : Nat) (a b : List α) (s : Stretch)
    (hs : s.Fits a b) (h : anchor? rows first a b = some ⟨s, hs⟩) :
    s = (longest rows first (first + b.length)).widen a b := by
  unfold anchor? at h
  dsimp only at h
  split_ifs at h
  exact (congrArg Subtype.val (Option.some.inj h)).symm

/-- Scripts of the search alone: a part is split around the stretch that is found, and replaced where that is
empty. -/
inductive Searched : List (List Nat) → Nat → List α → List α → List (Edit α) → Prop
  | replace (rows : List (List Nat)) (first : Nat) (a b : List α)
      (empty : ((longest rows first (first + b.length)).widen a b).size = 0) :
      Searched rows first a b (replace a b)
  | split (rows : List (List Nat)) (first : Nat) (a b : List α) (s : Stretch) (before after : List (Edit α))
      (found : s = (longest rows first (first + b.length)).widen a b) (size : s.size ≠ 0)
      (front : Searched (rows.take s.old) first (a.take s.old) (b.take s.new) before)
      (rest : Searched (rows.drop (s.old + s.size)) (first + s.new + s.size) (a.drop (s.old + s.size))
        (b.drop (s.new + s.size)) after) :
      Searched rows first a b (before ++ ((a.drop s.old).take s.size).map .keep ++ after)

/-- Only the search decides how parts are aligned, down to the smallest of them. -/
theorem Indexed.searched (whole : List α) (rows : List (List Nat)) (first : Nat) (a b : List α)
    (h : Indexed whole rows first a b) : Searched rows first a b (alignFrom rows first a b) := by
  fun_induction alignFrom rows first a b with
  | case1 rows first a b hnone =>
    exact .replace rows first a b ((h.anchor?_eq_none_iff whole rows first a b).mp hnone)
  | case2 rows first a b s hfits hsome _ _ ihFront ihRest =>
    have hfound := anchor?_eq_some rows first a b s hfits hsome
    have hrest := h.drop whole rows first (s.old + s.size) (s.new + s.size) a b
    rw [← Nat.add_assoc] at hrest
    exact .split rows first a b s _ _ hfound (Nat.pos_iff_ne_zero.mp hfits.size_pos)
      (ihFront (h.take whole rows first s.old s.new a b)) (ihRest hrest)

theorem Searched.nil (first : Nat) (script : List (Edit α)) (h : Searched [] first [] [] script) :
    script = [] := by
  cases h with
  | replace => rfl
  | split _ _ _ _ s _ _ found size =>
    rw [found] at size
    exact absurd rfl size

theorem mem_zipIdx_places (b : List α) (x : α) (j : Nat) :
    j ∈ (b.zipIdx.filter fun (y, _) => y == x).map Prod.snd ↔ b[j]? = some x := by
  simp only [List.mem_map, List.mem_filter, beq_iff_eq, Prod.exists, List.mem_zipIdx_iff_getElem?]
  constructor
  · rintro ⟨y, k, ⟨hk, rfl⟩, rfl⟩
    exact hk
  · intro h
    exact ⟨x, j, ⟨h, rfl⟩, rfl⟩

theorem pairwise_zipIdx_places (b : List α) (x : α) :
    ((b.zipIdx.filter fun (y, _) => y == x).map Prod.snd).Pairwise (· < ·) := by
  have hsub := (List.filter_sublist (l := b.zipIdx) (p := fun (y, _) => y == x)).map Prod.snd
  rw [List.zipIdx_map_snd] at hsub
  exact (List.pairwise_lt_range' 1).sublist hsub

/-- A stretch that begins at the same place of a list with itself is widened to all of it. -/
theorem widen_self (a : List α) (s : Stretch) (hsame : s.old = s.new) (hinside : s.old + s.size ≤ a.length) :
    s.widen a a = ⟨0, 0, a.length⟩ := by
  unfold Stretch.widen
  rw [← hsame, agreement_self, agreement_self, List.length_reverse, List.length_take, List.length_drop,
    Nat.min_eq_left (by omega)]
  simp only [Nat.sub_self, Stretch.mk.injEq, true_and]
  omega

variable [Hashable α]

/-- The places of a member are all there are, or none if it is too common. -/
theorem places_eq (a b : List α) :
    ∃ P : α → List Nat, places a b = a.map P ∧
      ∀ x, P x = [] ∨ P x = (b.zipIdx.filter fun (y, _) => y == x).map Prod.snd := by
  refine ⟨_, rfl, fun x => ?_⟩
  rw [← getD_index b x, Std.HashMap.getD_filter, Std.HashMap.getD_eq_getD_getElem?]
  cases (index b)[x]? with
  | none => exact Or.inl rfl
  | some all =>
    rw [Option.pfilter_some]
    split_ifs
    · exact Or.inr rfl
    · exact Or.inl rfl

theorem indexed_places (a b : List α) : Indexed b (places a b) 0 a b := by
  obtain ⟨P, hP, hall⟩ := places_eq a b
  rw [hP]
  refine ⟨List.length_map _, ?_, ?_, List.prefix_rfl⟩
  · intro row hrow
    obtain ⟨x, -, rfl⟩ := List.mem_map.mp hrow
    rcases hall x with hx | hx
    · rw [hx]
      exact .nil
    · rw [hx]
      exact pairwise_zipIdx_places b x
  · intro i row hrow j hj
    rw [List.getElem?_map] at hrow
    obtain ⟨x, hx, rfl⟩ := Option.map_eq_some_iff.mp hrow
    rcases hall x with hnone | hsome
    · rw [hnone] at hj
      cases hj
    · rw [hsome, mem_zipIdx_places] at hj
      rw [hj, hx]

theorem mirrored_places (a : List α) : Mirrored (places a a) := by
  have hindexed := indexed_places a a
  obtain ⟨P, hP, hall⟩ := places_eq a a
  refine ⟨hindexed.sorted, ?_, ?_⟩
  · intro i j row hrow hj
    have hsame := hindexed.same i row hrow j hj
    rw [hP, List.getElem?_map] at hrow ⊢
    rw [hsame, hrow]
  · intro i row hrow hne
    rw [hP, List.getElem?_map] at hrow
    obtain ⟨x, hx, rfl⟩ := Option.map_eq_some_iff.mp hrow
    rcases hall x with hnone | hsome
    · exact absurd hnone hne
    · rw [hsome, mem_zipIdx_places]
      exact hx

theorem longest_places_self (a : List α) :
    (longest (places a a) 0 (0 + a.length)).widen a a = ⟨0, 0, a.length⟩ := by
  have hindexed := indexed_places a a
  have hbound : ∀ row ∈ places a a, ∀ j ∈ row, j < 0 + a.length := by
    intro row hrow j hj
    obtain ⟨i, hi⟩ := List.mem_iff_getElem?.mp hrow
    have hsame := hindexed.same i row hi j hj
    obtain ⟨hlt, -⟩ := List.getElem?_eq_some_iff.mp hi
    rw [hindexed.length] at hlt
    rw [List.getElem?_eq_getElem hlt] at hsame
    obtain ⟨hj', -⟩ := List.getElem?_eq_some_iff.mp hsame
    omega
  obtain ⟨hsame, hinside⟩ := centered_longest (places a a) (0 + a.length) (mirrored_places a) hbound
  rw [hindexed.length] at hinside
  exact widen_self a _ hsame hinside

theorem searched_align (a b : List α) : Searched (places a b) 0 a b (align a b) :=
  (indexed_places a b).searched b (places a b) 0 a b

theorem align_self (a : List α) : align a a = a.map .keep := by
  have hall := longest_places_self a
  have hrows : (places a a).length = a.length := (indexed_places a a).length
  have hsearched := searched_align a a
  generalize align a a = script at hsearched ⊢
  cases hsearched with
  | replace _ _ _ _ empty =>
    rw [hall] at empty
    obtain rfl := List.length_eq_zero_iff.mp empty
    rfl
  | split _ _ _ _ s before after found size front rest =>
    obtain rfl := found.trans hall
    have hdrop : (places a a).drop (0 + a.length) = [] := List.drop_eq_nil_of_le (by omega)
    have hend : a.drop (0 + a.length) = [] := List.drop_eq_nil_of_le (by omega)
    rw [hdrop, hend] at rest
    rw [Searched.nil _ _ front, Searched.nil _ _ rest]
    simp

theorem hunks_align_eq_nil_iff (a b : List α) : hunks (align a b) = [] ↔ a = b := by
  rw [hunks_eq_nil_iff]
  constructor
  · intro h
    have hsides := oldSide_eq_newSide (align a b) h
    rwa [oldSide_align, newSide_align] at hsides
  · rintro rfl e he
    rw [align_self] at he
    obtain ⟨x, -, rfl⟩ := List.mem_map.mp he
    rfl

end EventBench.Diff
