import Mathlib.Data.List.Basic
import Mathlib.Data.List.Induction
import Mathlib.Tactic.IntervalCases
import Mathlib.Tactic.SplitIfs
import EventBench.Text.Numeral
import EventBench.Proofs.Text.Span

namespace EventBench.Text.Numeral

def hexDigit (c : Char) : Nat :=
  if c.isDigit then c.toNat - 0x30 else c.toNat - 0x61 + 10

def ofHex (cs : List Char) : Nat :=
  cs.foldl (fun n c => 16 * n + hexDigit c) 0

def isHexDigit (c : Char) : Bool :=
  c.isDigit || (0x61 ≤ c.toNat && c.toNat ≤ 0x66)

theorem ofHex_append (cs : List Char) (c : Char) : ofHex (cs ++ [c]) = 16 * ofHex cs + hexDigit c :=
  List.foldl_append

theorem ofHex_zeros (n : Nat) (cs : List Char) : ofHex (List.replicate n '0' ++ cs) = ofHex cs := by
  induction n with
  | zero => rfl
  | succ n ih => exact ih

theorem hexDigit_digitChar (n : Nat) (h : n < 16) : hexDigit n.digitChar = n := by
  interval_cases n <;> rfl

theorem isHexDigit_digitChar (n : Nat) (h : n < 16) : isHexDigit n.digitChar = true := by
  interval_cases n <;> rfl

theorem ofHex_hex (n : Nat) : ofHex (hex n) = n := by
  induction n using Nat.strongRecOn with
  | ind n ih =>
    rw [hex, Nat.toDigits_eq_if (by decide)]
    split_ifs with h
    · simp [ofHex, hexDigit_digitChar n h]
    · rw [ofHex_append, ← hex, ih (n / 16) (by omega), hexDigit_digitChar (n % 16) (by omega)]
      omega

theorem isHexDigit_of_mem_hex (n : Nat) (c : Char) (h : c ∈ hex n) : isHexDigit c = true := by
  induction n using Nat.strongRecOn with
  | ind n ih =>
    rw [hex, Nat.toDigits_eq_if (by decide)] at h
    split_ifs at h with hn
    · rw [List.mem_singleton.mp h]
      exact isHexDigit_digitChar n hn
    · rcases List.mem_append.mp h with h | h
      · exact ih (n / 16) (by omega) h
      · rw [List.mem_singleton.mp h]
        exact isHexDigit_digitChar (n % 16) (by omega)

/-- A number below 256 has two hexadecimal digits if a zero fills up for a single one. -/
theorem length_padded_hex (n : Nat) (h : n < 256) : (padded 2 (hex n)).length = 2 := by
  have hn : (hex n).length ≤ 2 := (Nat.length_toDigits_le_iff (by decide) (by decide)).mpr h
  rw [length_padded]
  omega

theorem ofHex_padded (width : Nat) (cs : List Char) : ofHex (padded width cs) = ofHex cs :=
  ofHex_zeros (width - cs.length) cs

theorem isHexDigit_of_mem_padded (width n : Nat) (c : Char) (h : c ∈ padded width (hex n)) :
    isHexDigit c = true := by
  rcases List.mem_append.mp h with h | h
  · rw [List.eq_of_mem_replicate h]
    rfl
  · exact isHexDigit_of_mem_hex n c h

theorem digitChar_hexDigit (c : Char) (h : isHexDigit c = true) : hexDigit c < 16 ∧ (hexDigit c).digitChar = c := by
  have hzero : '0'.toNat = 0x30 := rfl
  have hnine : '9'.toNat = 0x39 := rfl
  simp only [isHexDigit, Bool.or_eq_true, Bool.and_eq_true, decide_eq_true_eq, Char.isDigit_iff_toNat] at h
  obtain ⟨n, hn⟩ : ∃ n, c.toNat = n := ⟨_, rfl⟩
  obtain rfl : c = Char.ofNat n := by rw [← hn, Char.ofNat_toNat]
  rw [hn, hzero, hnine] at h
  rcases h with ⟨hlow, hhigh⟩ | ⟨hlow, hhigh⟩ <;> interval_cases n <;> exact ⟨by decide, rfl⟩

/-- Numerals of one length are the same if their values are. -/
theorem eq_of_ofHex_eq (cs ds : List Char) (hlength : cs.length = ds.length)
    (hc : ∀ c ∈ cs, isHexDigit c = true) (hd : ∀ d ∈ ds, isHexDigit d = true) (h : ofHex cs = ofHex ds) :
    cs = ds := by
  induction cs using List.reverseRecOn generalizing ds with
  | nil => exact (List.length_eq_zero_iff.mp hlength.symm).symm
  | append_singleton cs c ih =>
    have hne : ds ≠ [] := by
      rintro rfl
      simp at hlength
    obtain ⟨ds, d, rfl⟩ := (List.eq_nil_or_concat' ds).resolve_left hne
    obtain ⟨hlt, hchar⟩ := digitChar_hexDigit c (hc c (by simp))
    obtain ⟨hlt', hchar'⟩ := digitChar_hexDigit d (hd d (by simp))
    rw [ofHex_append, ofHex_append] at h
    have hlast : hexDigit c = hexDigit d := by omega
    have hfront := ih ds (by simpa using hlength) (fun e he => hc e (by simp [he])) (fun e he => hd e (by simp [he]))
      (by omega)
    rw [hfront, ← hchar, ← hchar', hlast]

/-- The hexadecimal numeral of a number, in lower case and with no zero in front that could be left out. -/
structure IsHex (cs : List Char) (n : Nat) : Prop where
  nonempty : cs ≠ []
  digits : ∀ c ∈ cs, isHexDigit c = true
  value : ofHex cs = n
  unpadded : cs.head? = some '0' → cs = ['0']

theorem isHex_hex (n : Nat) : IsHex (hex n) n := by
  refine ⟨Nat.toDigits_ne_nil, isHexDigit_of_mem_hex n, ofHex_hex n, ?_⟩
  induction n using Nat.strongRecOn with
  | ind n ih =>
    rw [hex, Nat.toDigits_eq_if (by decide)]
    split_ifs with hn
    · intro hzero
      rw [Option.some.inj hzero]
    · intro hzero
      have hne : hex (n / 16) ≠ [] := Nat.toDigits_ne_nil
      rw [← hex, List.head?_append_of_ne_nil _ hne] at hzero
      have hvalue := ofHex_hex (n / 16)
      rw [ih (n / 16) (by omega) hzero] at hvalue
      have hnone : ofHex ['0'] = 0 := rfl
      omega

theorem isHex_iff (cs : List Char) (n : Nat) : IsHex cs n ↔ cs = hex n := by
  constructor
  · intro h
    induction cs using List.reverseRecOn generalizing n with
    | nil => exact absurd rfl h.nonempty
    | append_singleton cs c ih =>
      obtain ⟨hlt, hchar⟩ := digitChar_hexDigit c (h.digits c (by simp))
      have hvalue := h.value
      rw [ofHex_append] at hvalue
      by_cases hnil : cs = []
      · subst hnil
        have hn : hexDigit c = n := by
          rw [← hvalue]
          exact (Nat.zero_add _).symm
        rw [hex, Nat.toDigits_of_lt_base (by omega), ← hn, hchar]
        rfl
      · have hzero : cs.head? ≠ some '0' := by
          intro hhead
          have hone := h.unpadded (by rw [List.head?_append_of_ne_nil _ hnil, hhead])
          have hlength := congrArg List.length hone
          exact hnil (by simpa using hlength)
        have hfront := ih (ofHex cs) ⟨hnil, fun d hd => h.digits d (by simp [hd]), rfl, fun hhead => absurd hhead hzero⟩
        have hpositive : ofHex cs ≠ 0 := by
          intro hnone
          rw [hnone] at hfront
          exact hzero (by rw [hfront]; rfl)
        have hhigh : n / 16 = ofHex cs := by omega
        have hlow : n % 16 = hexDigit c := by omega
        rw [hex, Nat.toDigits_of_base_le (by decide) (by omega), ← hex, hhigh, hlow, hchar, ← hfront]
  · rintro rfl
    exact isHex_hex n

/-- Reads the decimal numeral at the front of a text; where there is none, it reads zero. -/
def readDecimal (cs : List Char) : Nat × List Char :=
  (Nat.ofDigitChars 10 (cs.takeWhile Char.isDigit) 0, cs.dropWhile Char.isDigit)

theorem readDecimal_decimal (n : Nat) (rest : List Char) (hr : ∀ c ∈ rest.head?, c.isDigit = false) :
    readDecimal (decimal n ++ rest) = (n, rest) := by
  have hd : ∀ c ∈ decimal n, c.isDigit = true := fun c hc => isDigit_of_mem_decimal hc
  obtain ⟨ht, hw⟩ := span_append Char.isDigit (decimal n) rest hd hr
  rw [readDecimal, ht, hw, decimal, Nat.ofDigitChars_ten_toDigits]

theorem ofInt_of_nonneg (n : Int) (h : 0 ≤ n) : ofInt n = decimal n.toNat := by
  obtain ⟨m, rfl⟩ := Int.eq_ofNat_of_zero_le h
  rfl

end EventBench.Text.Numeral
