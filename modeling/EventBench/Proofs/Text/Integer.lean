import EventBench.Text.Integer
import EventBench.Proofs.Text.Numeral
import EventBench.Proofs.Text.Trim

namespace EventBench.Text

theorem digitValue?_lt (c : Char) (d : Nat) (h : digitValue? c = some d) : d < 10 := by
  obtain ⟨z, hfind, hd⟩ := Option.map_eq_some_iff.mp h
  have hz := List.find?_some hfind
  simp only [Bool.and_eq_true, decide_eq_true_eq] at hz
  omega

theorem digitRun_lt (value? : Char → Option Nat) (hvalue : ∀ c d, value? c = some d → d < 10) (cs : List Char)
    (ds : List Nat) (h : digitRun value? cs = some ds) : ∀ d ∈ ds, d < 10 := by
  induction cs using digitRun.induct value? generalizing ds with
  | case1 => simp [digitRun] at h
  | case2 c rest hnone => simp [digitRun, hnone] at h
  | case3 c d hd =>
    have hlt := hvalue c d hd
    rw [digitRun.eq_3 value? c d hd] at h
    simp [← Option.some.inj h, hlt]
  | case4 c d rest hd ih =>
    have hlt := hvalue c d hd
    rw [digitRun.eq_4 value? c d rest hd] at h
    obtain ⟨es, hes, rfl⟩ := Option.map_eq_some_iff.mp h
    simpa [hlt] using ih es hes
  | case5 c d rest hne hscore hd ih =>
    have hlt := hvalue c d hd
    rw [digitRun.eq_5 value? c rest d hd hne hscore] at h
    obtain ⟨es, hes, rfl⟩ := Option.map_eq_some_iff.mp h
    simpa [hlt] using ih es hes

theorem digitRun_plain (cs : List Char) (hne : cs ≠ []) (h : ∀ c ∈ cs, c.isDigit = true) :
    digitRun digitValue? cs = some (cs.map fun c => c.toNat - 0x30) := by
  induction cs with
  | nil => exact absurd rfl hne
  | cons c cs ih =>
    have hc := h c (by simp)
    have hvalue : digitValue? c = some (c.toNat - 0x30) := by
      rw [digitValue?_of_plain hc, plainDigitValue?, if_pos hc]
    cases cs with
    | nil => rw [digitRun.eq_3 _ c _ hvalue, List.map_singleton]
    | cons d rest =>
      have hd := h d (by simp)
      have hscore : ∀ tail, d :: rest = '_' :: tail → False := by
        intro tail heq
        obtain ⟨rfl, -⟩ := List.cons.inj heq
        exact absurd hd (by decide)
      have htail := ih (by simp) (fun e he => h e (by simp [List.mem_cons.mp he]))
      rw [digitRun.eq_5 _ c _ _ hvalue (by simp) hscore, htail]
      simp

namespace Numeral

theorem value_cons (d : Nat) (ds : List Nat) : value (d :: ds) = d * weight ds.length + value ds := by
  have happend := value_append [d] ds
  simpa [value] using happend

theorem value_lt (ds : List Nat) (h : ∀ d ∈ ds, d < 10) : value ds < 10 ^ ds.length := by
  induction ds with
  | nil => simp [value]
  | cons d ds ih =>
    have hd := h d (by simp)
    have htail := ih (fun e he => h e (by simp [he]))
    have hweight : weight ds.length = 10 ^ ds.length := rfl
    rw [value_cons, List.length_cons, pow_succ, hweight]
    have hprod : d * 10 ^ ds.length ≤ 9 * 10 ^ ds.length := Nat.mul_le_mul_right _ (by omega)
    omega

theorem value_decimal (n : Nat) : value ((decimal n).map fun c => c.toNat - 0x30) = n := by
  have hread := Nat.ofDigitChars_ten_toDigits (n := n)
  rw [value, List.foldl_map]
  exact hread

theorem length_decimal_le (n k : Nat) (hk : 0 < k) (h : n < 10 ^ k) : (decimal n).length ≤ k :=
  (Nat.length_toDigits_le_iff (by decide) hk).mpr h

theorem isBlank_of_mem_ofInt (n : Int) (c : Char) (h : c ∈ ofInt n) : isBlank c = false := by
  have hdigit (m : Nat) (hc : c ∈ decimal m) : isBlank c = false := by
    have hc := isDigit_of_mem_decimal hc
    have hzero : '0'.toNat = 0x30 := rfl
    have hnine : '9'.toNat = 0x39 := rfl
    simp only [Char.isDigit_iff_toNat] at hc
    simp only [isBlank, isWhiteSpace, Bool.or_eq_false_iff, Bool.and_eq_false_iff, decide_eq_false_iff_not,
      beq_eq_false_iff_ne]
    omega
  cases n with
  | ofNat m => exact hdigit m h
  | negSucc m =>
    rcases List.mem_cons.mp h with hc | hc
    · rw [hc]
      decide
    · exact hdigit (m + 1) hc

theorem trimmed_ofInt (n : Int) : Trimmed isBlank (ofInt n) := by
  apply trimmed_of_all
  rw [List.all_eq_true]
  intro c hc
  rw [isBlank_of_mem_ofInt n c hc]
  rfl

theorem ofInt_ne_nil (n : Int) : ofInt n ≠ [] := by
  cases n with
  | ofNat m => exact decimal_ne_nil m
  | negSucc m => simp [ofInt]

end Numeral

namespace Integer

theorem splitSign_ofInt (n : Int) :
    splitSign (Numeral.ofInt n) = (decide (n < 0), Numeral.decimal n.natAbs) := by
  cases n with
  | ofNat m =>
    have hfront (c : Char) (rest : List Char) (h : Numeral.decimal m = c :: rest) : c.isDigit = true := by
      apply Numeral.isDigit_of_mem_decimal (n := m)
      simp [h]
    have hminus : ∀ rest, Numeral.decimal m = '-' :: rest → False := by
      intro rest h
      exact absurd (hfront _ _ h) (by decide)
    have hplus : ∀ rest, Numeral.decimal m = '+' :: rest → False := by
      intro rest h
      exact absurd (hfront _ _ h) (by decide)
    have hnonneg : ¬ Int.ofNat m < 0 := by simp
    rw [Numeral.ofInt, splitSign.eq_3 _ hminus hplus, decide_eq_false hnonneg]
    rfl
  | negSucc m =>
    simp [Numeral.ofInt, splitSign, Int.negSucc_lt_zero]

theorem read?_ofInt (n : Int) (h : digits n ≤ digitLimit) : read? (String.ofList (Numeral.ofInt n)) = some n := by
  have hwhite : Trimmed isWhiteSpace (Numeral.ofInt n) := by
    have hblank := Numeral.trimmed_ofInt n
    have hweaken (c : Char) (hc : isBlank c = false) : isWhiteSpace c = false := by
      by_contra hw
      simp [isBlank_of_isWhiteSpace (by simpa using hw)] at hc
    exact ⟨fun c hc => hweaken c (hblank.head c hc), fun c hc => hweaken c (hblank.last c hc)⟩
  have hrun := digitRun_plain (Numeral.decimal n.natAbs) (Numeral.decimal_ne_nil _)
    (fun c hc => Numeral.isDigit_of_mem_decimal hc)
  have hsigned : signed (decide (n < 0)) n.natAbs = n := by
    by_cases hn : n < 0
    · simp only [signed, hn, decide_true, if_true]
      omega
    · simp only [signed, hn, decide_false, Bool.false_eq_true, if_false]
      omega
  simp only [read?, String.toList_ofList, trim_of_trimmed _ _ hwhite, splitSign_ofInt, hrun, List.length_map,
    Numeral.value_decimal, hsigned]
  exact if_pos h

/-- What was read within the limit is written within it. -/
theorem digits_of_read? (s : String) (n : Int) (h : read? s = some n) : digits n ≤ digitLimit := by
  simp only [read?] at h
  generalize splitSign (trim isWhiteSpace s.toList) = split at h
  obtain ⟨negative, body⟩ := split
  dsimp only at h
  cases hrun : digitRun digitValue? body with
  | none => simp [hrun] at h
  | some ds =>
    simp only [hrun] at h
    split at h
    · next hlimit =>
      have hvalue := Numeral.value_lt ds (digitRun_lt _ digitValue?_lt body ds hrun)
      have habs : n.natAbs = Numeral.value ds := by
        rw [← Option.some.inj h, signed]
        split <;> omega
      apply Numeral.length_decimal_le _ _ (by decide)
      rw [habs]
      exact Nat.lt_of_lt_of_le hvalue (Nat.pow_le_pow_right (by decide) hlimit)
    · simp at h

end Integer

end EventBench.Text
