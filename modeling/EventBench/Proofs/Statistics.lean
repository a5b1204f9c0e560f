import Mathlib.Data.List.Basic
import Mathlib.Tactic.Ring
import EventBench.Proofs.Double
import EventBench.Statistics

namespace EventBench.Statistics

open Double (weight one weight_pos weight_add weight_le weight_mul_one)

theorem perm_sorted (xs : List Double) : (sorted xs).Perm xs :=
  List.mergeSort_perm xs _

theorem pairwise_sorted {xs : List Double} (h : ∀ x ∈ xs, x.isFinite = true) :
    (sorted xs).Pairwise fun x y => x.le y = true := by
  have hvalues : (sorted xs).map Double.value = (xs.map Double.value).mergeSort (fun m n => decide (m ≤ n)) := by
    apply List.map_mergeSort
    intro x hx y hy
    rw [Bool.eq_iff_iff, Bool.not_eq_true', ← Bool.not_eq_true, Double.lt_iff (h y hy) (h x hx), Int.not_lt,
      decide_eq_true_eq]
  have hordered : ((sorted xs).map Double.value).Pairwise fun m n => decide (m ≤ n) = true := by
    rw [hvalues]
    apply List.pairwise_mergeSort
    · intro a b c hab hbc
      exact decide_eq_true (Int.le_trans (of_decide_eq_true hab) (of_decide_eq_true hbc))
    · intro a b
      rw [Bool.or_eq_true, decide_eq_true_eq, decide_eq_true_eq]
      exact Int.le_total a b
  refine (List.pairwise_map.mp hordered).imp_of_mem ?_
  intro x y hx hy hxy
  rw [Double.le_iff (h x ((perm_sorted xs).mem_iff.mp hx)) (h y ((perm_sorted xs).mem_iff.mp hy))]
  exact of_decide_eq_true hxy

section

variable {α : Type} {R : α → α → Bool} {ys : List α}

theorem length_le_countP_of_sublist {p : α → Bool} {zs : List α} (hsub : zs.Sublist ys) (h : ∀ a ∈ zs, p a = true) :
    zs.length ≤ ys.countP p := by
  rw [← List.countP_eq_length.mpr h]
  exact hsub.countP_le

/-- In a list that is in order, no fewer members come up to a place than stand there. -/
theorem succ_le_countP_of_pairwise (h : ys.Pairwise fun a b => R a b = true) (hrefl : ∀ a ∈ ys, R a a = true) (k : Nat)
    (hk : k < ys.length) : k + 1 ≤ ys.countP (R · ys[k]) := by
  have hcount : (ys.take (k + 1)).length ≤ ys.countP (R · ys[k]) := by
    apply length_le_countP_of_sublist (List.take_sublist (k + 1) ys)
    intro a ha
    obtain ⟨i, hi, rfl⟩ := List.mem_take_iff_getElem.mp ha
    rcases Nat.lt_or_ge i k with hlt | hge
    · exact List.pairwise_iff_getElem.mp h i k _ hk hlt
    · obtain rfl : i = k := by omega
      exact hrefl _ (List.getElem_mem hk)
  rwa [List.length_take, Nat.min_eq_left hk] at hcount

theorem length_sub_le_countP_of_pairwise (h : ys.Pairwise fun a b => R a b = true) (hrefl : ∀ a ∈ ys, R a a = true)
    (k : Nat) (hk : k < ys.length) : ys.length - k ≤ ys.countP (R ys[k] ·) := by
  have hcount : (ys.drop k).length ≤ ys.countP (R ys[k] ·) := by
    apply length_le_countP_of_sublist (List.drop_sublist k ys)
    intro a ha
    obtain ⟨i, hi, rfl⟩ := List.mem_drop_iff_getElem.mp ha
    cases i with
    | zero => exact hrefl _ (List.getElem_mem hk)
    | succ i => exact List.pairwise_iff_getElem.mp h k (k + (i + 1)) hk (by omega) (by omega)
  rwa [List.length_drop] at hcount

/-- Going through a list and keeping what comes first by a value gives a member of least value. -/
theorem foldl_first (value : α → Int) (first : α → α → Bool) (a : α) (as : List α)
    (h : ∀ b ∈ a :: as, ∀ c ∈ a :: as, first b c = true ↔ value b < value c) :
    (as.foldl (fun m b => if first b m then b else m) a) ∈ a :: as ∧
    ∀ b ∈ a :: as, value (as.foldl (fun m b => if first b m then b else m) a) ≤ value b := by
  induction as generalizing a with
  | nil => simp
  | cons b as ih =>
    have hab := h b (by simp) a (by simp)
    rw [List.foldl_cons]
    by_cases hfirst : first b a = true
    · rw [if_pos hfirst]
      obtain ⟨hmem, hle⟩ := ih b fun c hc d hd => h c (List.mem_cons_of_mem a hc) d (List.mem_cons_of_mem a hd)
      have hb := hle b List.mem_cons_self
      have hlt := hab.mp hfirst
      refine ⟨List.mem_cons_of_mem a hmem, List.forall_mem_cons.mpr ⟨by omega, hle⟩⟩
    · rw [if_neg hfirst]
      have hkept : ∀ c ∈ a :: as, c ∈ a :: b :: as := by
        intro c hc
        rcases List.mem_cons.mp hc with rfl | hc
        · exact List.mem_cons_self
        · exact List.mem_cons_of_mem a (List.mem_cons_of_mem b hc)
      obtain ⟨hmem, hle⟩ := ih a fun c hc d hd => h c (hkept c hc) d (hkept d hd)
      have ha := hle a List.mem_cons_self
      have hnot : ¬ value b < value a := fun hlt => hfirst (hab.mpr hlt)
      refine ⟨hkept _ hmem, ?_⟩
      intro c hc
      rcases List.mem_cons.mp hc with rfl | hc
      · exact ha
      · rcases List.mem_cons.mp hc with rfl | hc
        · omega
        · exact hle c (List.mem_cons_of_mem a hc)

end

theorem isLeast_least {xs : List Double} (hne : xs ≠ []) (h : ∀ x ∈ xs, x.isFinite = true) :
    least xs ∈ xs ∧ ∀ x ∈ xs, (least xs).le x = true := by
  cases xs with
  | nil => exact absurd rfl hne
  | cons x xs =>
    obtain ⟨hmem, hle⟩ := foldl_first Double.value Double.lt x xs fun y hy z hz => Double.lt_iff (h y hy) (h z hz)
    exact ⟨hmem, fun y hy => (Double.le_iff (h _ hmem) (h y hy)).mpr (hle y hy)⟩

theorem isGreatest_greatest {xs : List Double} (hne : xs ≠ []) (h : ∀ x ∈ xs, x.isFinite = true) :
    greatest xs ∈ xs ∧ ∀ x ∈ xs, x.le (greatest xs) = true := by
  cases xs with
  | nil => exact absurd rfl hne
  | cons x xs =>
    obtain ⟨hmem, hle⟩ := foldl_first (fun y => -y.value) (fun y z => z.lt y) x xs fun y hy z hz => by
      rw [Double.lt_iff (h z hz) (h y hy)]
      omega
    refine ⟨hmem, fun y hy => (Double.le_iff (h y hy) (h _ hmem)).mpr ?_⟩
    have hneg := hle y hy
    exact Int.neg_le_neg_iff.mp hneg

/-- A percentage as a double, by its units. -/
def share (percent : Nat) : Nat :=
  Double.nearestUnits (percent * one) 100

/-- A percentage whose double is not more than it, and less only by so little that the missing parts of `2 ^ 40` such
doubles do not make up a whole. -/
structure Faithful (percent : Nat) : Prop where
  pos : 0 < percent
  lt : percent < 100
  le : 100 * share percent ≤ percent * one
  near : percent * one ≤ 100 * share percent + weight 1034

variable {percent n : Nat}

theorem faithful_95 : Faithful 95 :=
  ⟨by decide, by decide, by decide +kernel, by decide +kernel⟩

theorem faithful_99 : Faithful 99 :=
  ⟨by decide, by decide, by decide +kernel, by decide +kernel⟩

theorem Faithful.share_le_one (h : Faithful percent) : share percent ≤ one := by
  have hle : percent * one ≤ 100 * one := Nat.mul_le_mul_right one (Nat.le_of_lt h.lt)
  have hshare := h.le
  omega

/-- The units of the product of a number and a percentage. -/
def product (percent n : Nat) : Nat :=
  Double.nearestUnits (n * one * share percent) one

theorem mul_ofQuotient (h : Faithful percent) (hn : n < weight 40) :
    (Double.ofInt n).mul (Double.ofQuotient false percent 100) = .finite false (product percent n) := by
  have hplace : weight 40 * one = weight 1114 := weight_mul_one 40
  have hlargest : weight 40 * one ≤ Double.largest := by
    rw [hplace]
    exact Nat.le_trans (weight_le (by decide)) Double.weight_le_largest
  have hfactor : percent * one ≤ Double.largest * 100 := by
    have hpercent : percent ≤ weight 40 := Nat.le_trans (Nat.le_of_lt h.lt) (by decide)
    have hle := Nat.mul_le_mul_right one hpercent
    omega
  have hproduct : n * one * share percent ≤ Double.largest * one :=
    Nat.mul_le_mul (Nat.le_trans (Nat.mul_le_mul_right one (Nat.le_of_lt hn)) hlargest) h.share_le_one
  have hint : n < weight 53 := Nat.lt_of_lt_of_le hn (weight_le (by decide))
  rw [Double.ofInt_natCast hint, Double.ofQuotient, Double.ofUnits_of_le false (by decide) hfactor, Double.mul]
  exact Double.ofUnits_of_le _ Double.one_pos hproduct

/-- The product is rounded to less than the next integer: what is missing there is at least a hundredth, and a number
with seven binary places lies in between. -/
theorem product_div_le (h : Faithful percent) (hn : n < weight 40) :
    product percent n / one ≤ percent * n / 100 := by
  have h7 : weight 7 = 128 := rfl
  have hone : one = 128 * weight 1067 := by
    rw [← h7, ← weight_add]
    rfl
  have hwhole : percent * n ≤ 100 * n := Nat.mul_le_mul_right n (Nat.le_of_lt h.lt)
  generalize hq : percent * n / 100 = q
  have h40 : weight 40 = 1099511627776 := rfl
  have h53 : weight 53 = 9007199254740992 := rfl
  have hexact : n * share percent ≤ (128 * q + 127) * weight 1067 := by
    apply Nat.le_of_mul_le_mul_left (c := 100) _ (by decide)
    calc
      100 * (n * share percent) = n * (100 * share percent) := Nat.mul_left_comm ..
      _ ≤ n * (percent * one) := Nat.mul_le_mul_left n h.le
      _ = percent * n * one := by rw [← Nat.mul_assoc, Nat.mul_comm n]
      _ ≤ (100 * q + 99) * one := Nat.mul_le_mul_right one (by omega)
      _ = (12800 * q + 12672) * weight 1067 := by rw [hone]; ring
      _ ≤ (12800 * q + 12700) * weight 1067 := Nat.mul_le_mul_right _ (by omega)
      _ = 100 * ((128 * q + 127) * weight 1067) := by ring
  have hround : product percent n ≤ (128 * q + 127) * weight 1067 := by
    apply Double.nearestUnits_le Double.one_pos (by omega)
    rw [Nat.mul_right_comm]
    exact Nat.mul_le_mul_right one hexact
  have hpos := weight_pos 1067
  apply Nat.le_of_lt_succ
  rw [Nat.div_lt_iff_lt_mul Double.one_pos]
  calc
    product percent n ≤ (128 * q + 127) * weight 1067 := hround
    _ < (128 * q + 128) * weight 1067 := Nat.mul_lt_mul_of_pos_right (by omega) hpos
    _ = (q + 1) * one := by rw [hone]; ring

/-- An integer that is less by a hundredth or more than the exact product is not more than the rounded one. -/
theorem le_product_div (h : Faithful percent) (hpos : 0 < n) (hn : n < weight 40) :
    (percent * n - 1) / 100 ≤ product percent n / one := by
  have hwhole : percent * n ≤ 100 * n := Nat.mul_le_mul_right n (Nat.le_of_lt h.lt)
  generalize ht : (percent * n - 1) / 100 = t
  have h40 : weight 40 = 1099511627776 := rfl
  have h53 : weight 53 = 9007199254740992 := rfl
  have hasked : 0 < percent * n := Nat.mul_pos h.pos hpos
  have hmissing : n * weight 1034 ≤ one := by
    calc
      n * weight 1034 ≤ weight 40 * weight 1034 := Nat.mul_le_mul_right _ (Nat.le_of_lt hn)
      _ = weight (40 + 1034) := (weight_add 40 1034).symm
  have hexact : t * one ≤ n * share percent := by
    apply Nat.le_of_mul_le_mul_left (c := 100) _ (by decide)
    apply Nat.le_of_add_le_add_right (b := one)
    calc
      100 * (t * one) + one = (100 * t + 1) * one := by ring
      _ ≤ percent * n * one := Nat.mul_le_mul_right one (by omega)
      _ = n * (percent * one) := by ring
      _ ≤ n * (100 * share percent + weight 1034) := Nat.mul_le_mul_left n h.near
      _ = 100 * (n * share percent) + n * weight 1034 := by ring
      _ ≤ 100 * (n * share percent) + one := Nat.add_le_add_left hmissing _
  have hround : t * one ≤ product percent n := by
    apply Double.le_nearestUnits Double.one_pos (by omega)
    rw [Nat.mul_right_comm n]
    exact Nat.mul_le_mul_right one hexact
  rw [Nat.le_div_iff_mul_le Double.one_pos]
  exact hround

/-- In front of the rank of a percentile there are no more members than it asks for, and up to it no fewer. -/
theorem rank_bounds (h : Faithful percent) (hpos : 0 < n) (hn : n < weight 40) :
    100 * rank percent n ≤ percent * n ∧ percent * n ≤ 100 * (rank percent n + 1) ∧ rank percent n < n := by
  have hle := product_div_le h hn
  have hge := le_product_div h hpos hn
  have hwhole : percent * n ≤ 99 * n := Nat.mul_le_mul_right n (Nat.le_of_lt_succ h.lt)
  have hfloor : ((Double.ofInt n).mul (Double.ofQuotient false percent 100)).floor = product percent n / one := by
    rw [mul_ofQuotient h hn]
    rfl
  rw [rank, hfloor]
  omega

/-- A member of a sample with at least a percentage of the sample up to it, and at least the rest from it on. -/
structure IsPercentile (percent : Nat) (xs : List Double) (x : Double) : Prop where
  mem : x ∈ xs
  upTo : percent * xs.length ≤ 100 * xs.countP (·.le x)
  onward : (100 - percent) * xs.length ≤ 100 * xs.countP (x.le ·)

theorem le_refl {x : Double} (h : x.isFinite = true) : x.le x = true :=
  (Double.le_iff h h).mpr (Int.le_refl _)

section

variable {xs : List Double} (h : Faithful percent) (hne : xs ≠ []) (hn : xs.length < weight 40)
include h hne hn

theorem sorted_rank : (sorted xs)[rank percent xs.length]? = some (percentile percent xs) := by
  obtain ⟨-, -, hlt⟩ := rank_bounds h (List.length_pos_iff.mpr hne) hn
  have hlt' : rank percent xs.length < (sorted xs).length := by
    rw [(perm_sorted xs).length_eq]
    exact hlt
  rw [percentile, at?, List.getElem?_eq_getElem hlt']
  rfl

theorem isPercentile_percentile (hfinite : ∀ x ∈ xs, x.isFinite = true) :
    IsPercentile percent xs (percentile percent xs) := by
  obtain ⟨hbefore, hupTo, -⟩ := rank_bounds h (List.length_pos_iff.mpr hne) hn
  obtain ⟨hlt, heq⟩ := List.getElem?_eq_some_iff.mp (sorted_rank h hne hn)
  have hlength := (perm_sorted xs).length_eq
  have hrefl : ∀ x ∈ sorted xs, x.le x = true := fun x hx => le_refl (hfinite x ((perm_sorted xs).mem_iff.mp hx))
  have hlow := succ_le_countP_of_pairwise (pairwise_sorted hfinite) hrefl _ hlt
  have hhigh := length_sub_le_countP_of_pairwise (pairwise_sorted hfinite) hrefl _ hlt
  rw [heq, (perm_sorted xs).countP_eq] at hlow hhigh
  have hshare : (100 - percent) * xs.length = 100 * xs.length - percent * xs.length := Nat.sub_mul ..
  refine ⟨?_, by omega, by omega⟩
  rw [← heq]
  exact (perm_sorted xs).mem_iff.mp (List.getElem_mem hlt)

end

theorem percentile_le {p q : Nat} {xs : List Double} (hp : Faithful p) (hq : Faithful q) (hpq : p < q) (hne : xs ≠ [])
    (hn : xs.length < weight 40) (hfinite : ∀ x ∈ xs, x.isFinite = true) :
    (percentile p xs).le (percentile q xs) = true := by
  have hpos : 0 < xs.length := List.length_pos_iff.mpr hne
  obtain ⟨hbefore, -, -⟩ := rank_bounds hp hpos hn
  obtain ⟨-, hupTo, -⟩ := rank_bounds hq hpos hn
  obtain ⟨hi, heq⟩ := List.getElem?_eq_some_iff.mp (sorted_rank hp hne hn)
  obtain ⟨hj, heq'⟩ := List.getElem?_eq_some_iff.mp (sorted_rank hq hne hn)
  have hasked : p * xs.length < q * xs.length := Nat.mul_lt_mul_of_pos_right hpq hpos
  rcases Nat.lt_or_ge (rank p xs.length) (rank q xs.length) with hrank | hrank
  · rw [← heq, ← heq']
    exact List.pairwise_iff_getElem.mp (pairwise_sorted hfinite) _ _ hi hj hrank
  · have hrank' : rank p xs.length = rank q xs.length := by omega
    have hsame : percentile p xs = percentile q xs := congrArg (at? (sorted xs)) hrank'
    have hmem := (isPercentile_percentile hp hne hn hfinite).mem
    rw [← hsame]
    exact le_refl (hfinite _ hmem)

end EventBench.Statistics
