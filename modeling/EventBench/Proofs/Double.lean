import Mathlib.Tactic.SplitIfs
import EventBench.Double.Basic

namespace EventBench.Double

theorem weight_pos (place : Nat) : 0 < weight place :=
  Nat.two_pow_pos place

theorem one_pos : 0 < one :=
  weight_pos 1074

theorem weight_add (m n : Nat) : weight (m + n) = weight m * weight n :=
  Nat.pow_add 2 m n

theorem weight_mul_one (place : Nat) : weight place * one = weight (place + 1074) :=
  (weight_add place 1074).symm

theorem weight_le {m n : Nat} (h : m ≤ n) : weight m ≤ weight n :=
  Nat.pow_le_pow_right (by decide) h

def largest : Nat := (weight 53 - 1) * weight 2045

theorem largest_lt_overflow : largest < overflow := by
  have hsplit : overflow = weight 53 * weight 2045 := weight_add 53 2045
  rw [hsplit]
  exact Nat.mul_lt_mul_of_pos_right (by decide) (weight_pos 2045)

theorem weight_le_largest : weight 2097 ≤ largest := by
  have hsplit : weight 2097 = weight 52 * weight 2045 := weight_add 52 2045
  rw [hsplit]
  exact Nat.mul_le_mul_right _ (by decide)

theorem div_le_roundQuotient (num den : Nat) : num / den ≤ roundQuotient num den := by
  unfold roundQuotient
  dsimp only
  split_ifs <;> omega

theorem roundQuotient_le {num den bound : Nat} (hden : 0 < den) (h : num ≤ bound * den) :
    roundQuotient num den ≤ bound := by
  have hq : num / den ≤ bound := Nat.div_le_of_le_mul (by rwa [Nat.mul_comm] at h)
  have hdiv := Nat.div_add_mod num den
  by_cases hlt : num / den < bound
  · unfold roundQuotient
    dsimp only
    split_ifs <;> omega
  · have heq : num / den = bound := by omega
    rw [heq, Nat.mul_comm] at hdiv
    have hrest : num % den = 0 := by omega
    unfold roundQuotient
    rw [hrest, heq]
    exact Nat.le_of_eq (if_pos (by omega))

theorem weight_log2_le {n : Nat} (h : n ≠ 0) : weight n.log2 ≤ n :=
  Nat.log2_self_le h

theorem log2_lt {n place : Nat} (hn : n ≠ 0) (h : n < weight place) : n.log2 < place :=
  (Nat.log2_lt hn).mpr h

theorem le_log2 {n place : Nat} (hn : n ≠ 0) (h : weight place ≤ n) : place ≤ n.log2 :=
  (Nat.le_log2 hn).mpr h

theorem nearestUnits_zero (den : Nat) (hden : 0 < den) : nearestUnits 0 den = 0 := by
  have hround : roundQuotient 0 den = 0 := Nat.le_zero.mp (roundQuotient_le hden (by omega))
  unfold nearestUnits
  rw [Nat.zero_div]
  dsimp only
  rw [if_pos (weight_pos 53), hround]

/-- No quotient up to a number of at most 53 significant bits is rounded to more. -/
theorem nearestUnits_le {num den m k : Nat} (hden : 0 < den) (hm : m < weight 53) (h : num ≤ m * weight k * den) :
    nearestUnits num den ≤ m * weight k := by
  have hq : num / den ≤ m * weight k := Nat.div_le_of_le_mul (by rwa [Nat.mul_comm] at h)
  unfold nearestUnits
  dsimp only
  by_cases hsmall : num / den < weight 53
  · rw [if_pos hsmall]
    exact roundQuotient_le hden h
  · rw [if_neg hsmall]
    have hne : num / den ≠ 0 := by
      have := weight_pos 53
      omega
    have htop : m * weight k < weight (53 + k) := by
      rw [weight_add]
      exact Nat.mul_lt_mul_of_pos_right hm (weight_pos k)
    have hlog := log2_lt hne (Nat.lt_of_le_of_lt hq htop)
    generalize hs : (num / den).log2 - 52 = s
    have hsplit : m * weight k = m * weight (k - s) * weight s := by
      rw [Nat.mul_assoc, ← weight_add, Nat.sub_add_cancel (by omega)]
    rw [hsplit]
    apply Nat.mul_le_mul_right
    apply roundQuotient_le (Nat.mul_pos hden (weight_pos s))
    rwa [hsplit, Nat.mul_assoc, Nat.mul_comm (weight s)] at h

theorem nearestUnits_le_largest {num den : Nat} (hden : 0 < den) (h : num ≤ largest * den) :
    nearestUnits num den ≤ largest :=
  nearestUnits_le hden (by decide) h

theorem nearestUnits_le_weight {num den place : Nat} (hden : 0 < den) (h : num ≤ weight place * den) :
    nearestUnits num den ≤ weight place := by
  have hone : weight place = 1 * weight place := (Nat.one_mul _).symm
  rw [hone] at h ⊢
  exact nearestUnits_le hden (by decide) h

/-- No quotient from a number of at most 53 significant bits on is rounded to less. -/
theorem le_nearestUnits {num den m k : Nat} (hden : 0 < den) (hm : m < weight 53) (h : m * weight k * den ≤ num) :
    m * weight k ≤ nearestUnits num den := by
  have hq : m * weight k ≤ num / den := (Nat.le_div_iff_mul_le hden).mpr h
  unfold nearestUnits
  dsimp only
  by_cases hsmall : num / den < weight 53
  · rw [if_pos hsmall]
    exact Nat.le_trans hq (div_le_roundQuotient num den)
  · rw [if_neg hsmall]
    have hne : num / den ≠ 0 := by
      have := weight_pos 53
      omega
    have h53 : 53 ≤ (num / den).log2 := le_log2 hne (Nat.le_of_not_lt hsmall)
    generalize hs : (num / den).log2 - 52 = s
    by_cases hk : s ≤ k
    · have hsplit : m * weight k = m * weight (k - s) * weight s := by
        rw [Nat.mul_assoc, ← weight_add, Nat.sub_add_cancel hk]
      rw [hsplit]
      apply Nat.mul_le_mul_right
      refine Nat.le_trans ?_ (div_le_roundQuotient num (den * weight s))
      rw [Nat.le_div_iff_mul_le (Nat.mul_pos hden (weight_pos s)), Nat.mul_comm den, ← Nat.mul_assoc, ← hsplit]
      exact h
    · have hlog : weight (num / den).log2 = weight 52 * weight s := by
        rw [← weight_add, ← hs]
        congr 1
        omega
      have htop : weight 52 ≤ num / (den * weight s) := by
        rw [← Nat.div_div_eq_div_mul, Nat.le_div_iff_mul_le (weight_pos s), ← hlog]
        exact weight_log2_le hne
      calc
        m * weight k ≤ weight 53 * weight k := Nat.mul_le_mul_right _ (Nat.le_of_lt hm)
        _ = weight (53 + k) := (weight_add 53 k).symm
        _ ≤ weight (52 + s) := weight_le (by omega)
        _ = weight 52 * weight s := weight_add 52 s
        _ ≤ roundQuotient num (den * weight s) * weight s :=
          Nat.mul_le_mul_right _ (Nat.le_trans htop (div_le_roundQuotient _ _))

theorem weight_le_nearestUnits {num den place : Nat} (hden : 0 < den) (h : weight place * den ≤ num) :
    weight place ≤ nearestUnits num den := by
  have hone : weight place = 1 * weight place := (Nat.one_mul _).symm
  rw [hone] at h ⊢
  exact le_nearestUnits hden (by decide) h

theorem one_le_nearestUnits {num den : Nat} (hden : 0 < den) (h : one * den ≤ num) : one ≤ nearestUnits num den := by
  unfold one at h ⊢
  exact weight_le_nearestUnits hden h

theorem ofUnits_of_le (negative : Bool) {num den : Nat} (hden : 0 < den) (h : num ≤ largest * den) :
    ofUnits negative num den = .finite negative (nearestUnits num den) := by
  have hlt := Nat.lt_of_le_of_lt (nearestUnits_le_largest hden h) largest_lt_overflow
  rw [ofUnits]
  exact if_pos hlt

theorem ofInt_natCast {n : Nat} (h : n < weight 53) : ofInt n = .finite false (n * one) := by
  have hsign : decide ((n : Int) < 0) = false := decide_eq_false (by omega)
  have hle : n * one ≤ largest * 1 := by
    rw [Nat.mul_one]
    calc
      n * one ≤ weight 53 * one := Nat.mul_le_mul_right _ (Nat.le_of_lt h)
      _ = weight 1127 := weight_mul_one 53
      _ ≤ weight 2097 := weight_le (by decide)
      _ ≤ largest := weight_le_largest
  have hexact : nearestUnits (n * one) 1 = n * one := by
    apply Nat.le_antisymm
    · exact nearestUnits_le (k := 1074) (by decide) h (by rw [Nat.mul_one]; exact Nat.le_refl _)
    · exact le_nearestUnits (k := 1074) (by decide) h (by rw [Nat.mul_one]; exact Nat.le_refl _)
  rw [ofInt, ofQuotient, hsign, Int.natAbs_natCast, ofUnits_of_le false (by decide) hle, hexact]

/-- The double of a positive integer is at least one if it is finite. -/
theorem ofInt_of_isFinite {n : Int} (hn : 1 ≤ n) (h : (ofInt n).isFinite = true) :
    ∃ units, ofInt n = .finite false units ∧ one ≤ units := by
  have hsign : decide (n < 0) = false := decide_eq_false (by omega)
  have hone : one ≤ nearestUnits (n.natAbs * one) 1 := by
    apply one_le_nearestUnits (by decide)
    rw [Nat.mul_one]
    exact Nat.le_mul_of_pos_left one (by omega)
  refine ⟨_, ?_, hone⟩
  rw [ofInt, ofQuotient, hsign, ofUnits] at h ⊢
  split_ifs at h ⊢
  · rfl
  · cases h

theorem div_of_one_le (negative : Bool) {units count : Nat} (hunits : units ≤ largest) (hcount : one ≤ count) :
    (Double.finite negative units).div (.finite false count) = .finite negative (nearestUnits (units * one) count) := by
  have hpositive : 0 < count := Nat.lt_of_lt_of_le one_pos hcount
  have hle : units * one ≤ largest * count := Nat.mul_le_mul hunits hcount
  rw [div, if_neg (Nat.ne_of_gt hpositive), ofUnits_of_le _ hpositive hle, Bool.bne_false]

/-- A finite number that no double exceeds. -/
def Bounded : Double → Prop
  | .finite _ units => units ≤ largest
  | _ => False

/-- Every finite double of the interchange format is one. -/
theorem bounded_ofBits (bits : Nat) (h : (ofBits bits).isFinite = true) : (ofBits bits).Bounded := by
  have hfraction : bits % weight 52 < weight 52 := Nat.mod_lt _ (weight_pos 52)
  have h53 : weight 53 = weight 52 + weight 52 := by decide
  unfold ofBits at h ⊢
  dsimp only at h ⊢
  by_cases hzero : bits / weight 52 % 2048 = 0
  · rw [if_pos hzero]
    exact Nat.le_trans (Nat.le_of_lt hfraction) (Nat.le_trans (weight_le (by decide)) weight_le_largest)
  · rw [if_neg hzero] at h ⊢
    by_cases hlast : bits / weight 52 % 2048 < 2047
    · rw [if_pos hlast]
      exact Nat.mul_le_mul (by omega) (weight_le (by omega))
    · rw [if_neg hlast] at h
      split_ifs at h
      · cases h
      · cases h

theorem sub_self {x : Double} (hx : x.Bounded) : x.sub x = zero := by
  cases x with
  | infinite negative => exact absurd hx id
  | nan => exact absurd hx id
  | finite negative units =>
    have hneg : toInt (!negative) units = -toInt negative units := by cases negative <;> simp [toInt]
    rw [sub, neg, add]
    simp only [hneg, Int.add_right_neg, if_true]
    cases negative <;> rfl

/-- The time between two readings that do not go back. It has the sign of a positive number, but for the time from a
positive zero to a negative one. -/
theorem sub_of_le {x y : Double} (hx : x.Bounded) (hy : y.Bounded) (hnonneg : x.lt zero = false)
    (hle : y.lt x = false) :
    ∃ negative units, y.sub x = .finite negative units ∧ units ≤ largest ∧
      (negative = true ↔ x = zero ∧ y = zero.neg) ∧ (negative = true → units = 0) := by
  cases x with
  | infinite m => exact absurd hx id
  | nan => exact absurd hx id
  | finite m u =>
    cases y with
    | infinite n => exact absurd hy id
    | nan => exact absurd hy id
    | finite n v =>
      have hx0 : 0 ≤ toInt m u := by simpa [lt, zero, toInt] using hnonneg
      have hxy : toInt m u ≤ toInt n v := by simpa [lt] using hle
      have hneg : toInt (!m) u = -toInt m u := by cases m <;> simp [toInt]
      have hzeros : (Double.finite m u = zero ∧ Double.finite n v = zero.neg) ↔ (m = false ∧ u = 0) ∧ n = true ∧ v = 0 := by
        simp [zero, neg]
      have hsub : (Double.finite n v).sub (.finite m u)
          = if toInt n v - toInt m u = 0 then .finite (n && !m) 0
            else ofUnits (decide (toInt n v - toInt m u < 0)) (toInt n v - toInt m u).natAbs 1 := by
        rw [sub, neg, add]
        simp only [hneg, Int.sub_eq_add_neg]
      rw [hsub, hzeros]
      by_cases hsame : toInt n v - toInt m u = 0
      · rw [if_pos hsame]
        refine ⟨n && !m, 0, rfl, Nat.zero_le _, ?_, fun _ => rfl⟩
        cases m <;> cases n <;> simp [toInt] at hx0 hxy ⊢
        omega
      · rw [if_neg hsame]
        have hpositive : decide (toInt n v - toInt m u < 0) = false := decide_eq_false (by omega)
        have hv : (toInt n v).natAbs ≤ v := by
          unfold toInt
          split_ifs <;> omega
        have hbound : (toInt n v - toInt m u).natAbs ≤ largest * 1 := by
          have : v ≤ largest := hy
          omega
        rw [hpositive, ofUnits_of_le false (by decide) hbound]
        refine ⟨false, _, rfl, nearestUnits_le_largest (by decide) hbound, ?_, by simp⟩
        constructor
        · intro h
          cases h
        · rintro ⟨⟨rfl, rfl⟩, rfl, rfl⟩
          exact absurd rfl hsame

/-- The order of the numbers. Two zeros are equal, and what is no number stands in no order. -/
def le : Double → Double → Bool
  | .nan, _ | _, .nan => false
  | .infinite m, .infinite n => m || !n
  | .infinite m, .finite .. => m
  | .finite .., .infinite n => !n
  | .finite m u, .finite n v => toInt m u ≤ toInt n v

def value : Double → Int
  | .finite negative units => toInt negative units
  | _ => 0

theorem le_iff {x y : Double} (hx : x.isFinite = true) (hy : y.isFinite = true) : x.le y = true ↔ x.value ≤ y.value := by
  cases x <;> cases y <;> simp [isFinite] at hx hy
  simp [le, value]

theorem lt_iff {x y : Double} (hx : x.isFinite = true) (hy : y.isFinite = true) : x.lt y = true ↔ x.value < y.value := by
  cases x <;> cases y <;> simp [isFinite] at hx hy
  simp [lt, value]

end EventBench.Double
