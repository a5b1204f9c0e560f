import EventBench.Proofs.Text.Integer

namespace EventBench.Text

/-- A piece of a pattern: a word as it is, one or more decimal digits of any script, or a fixed count of them. -/
inductive Piece
  | word (text : String)
  | digits
  | places (count : Nat)

namespace Piece

def isDigit (c : Char) : Bool :=
  (digitValue? c).isSome

def Matches : Piece → List Char → Prop
  | .word text, cs => cs = text.toList
  | .digits, cs => cs ≠ [] ∧ ∀ c ∈ cs, isDigit c = true
  | .places count, cs => cs.length = count ∧ ∀ c ∈ cs, isDigit c = true

def allows : Piece → Char → Bool
  | .word text, c => text.toList.contains c
  | .digits, c => isDigit c
  | .places _, c => isDigit c

variable {p : Piece} {cs : List Char}

theorem allows_of_matches (h : p.Matches cs) {c : Char} (hc : c ∈ cs) : p.allows c = true := by
  cases p with
  | word text =>
    obtain rfl : cs = text.toList := h
    exact List.contains_iff_mem.mpr hc
  | digits => exact h.2 c hc
  | places count => exact h.2 c hc

theorem isDigit_of_plain {c : Char} (h : c.isDigit = true) : isDigit c = true := by
  rw [isDigit, digitValue?_of_plain h, plainDigitValue?, if_pos h]
  rfl

theorem digits_decimal (n : Nat) : Piece.digits.Matches (Numeral.decimal n) := by
  refine ⟨Numeral.decimal_ne_nil n, ?_⟩
  intro c hc
  exact isDigit_of_plain (Numeral.isDigit_of_mem_decimal hc)

theorem places_padded (count n : Nat) (hcount : 0 < count) (h : n < 10 ^ count) :
    (Piece.places count).Matches (Numeral.padded count (Numeral.decimal n)) := by
  constructor
  · rw [Numeral.length_padded]
    exact Nat.max_eq_left (Numeral.length_decimal_le n count hcount h)
  · intro c hc
    apply isDigit_of_plain
    rcases List.mem_append.mp hc with hc | hc
    · rw [List.eq_of_mem_replicate hc]
      rfl
    · exact Numeral.isDigit_of_mem_decimal hc

end Piece

/-- A pattern matches a text that is cut into parts, one for each of its pieces in order. -/
def Matches : List Piece → List Char → Prop
  | [], cs => cs = []
  | p :: ps, cs => ∃ before after, cs = before ++ after ∧ p.Matches before ∧ Matches ps after

variable {ps qs : List Piece} {cs ds : List Char}

theorem matches_append (hp : Matches ps cs) (hq : Matches qs ds) : Matches (ps ++ qs) (cs ++ ds) := by
  induction ps generalizing cs with
  | nil =>
    obtain rfl : cs = [] := hp
    exact hq
  | cons p ps ih =>
    obtain ⟨before, after, rfl, hbefore, hafter⟩ := hp
    exact ⟨before, after ++ ds, List.append_assoc .., hbefore, ih hafter⟩

theorem matches_single {p : Piece} (h : p.Matches cs) : Matches [p] cs :=
  ⟨cs, [], (List.append_nil cs).symm, h, rfl⟩

theorem allows_of_matches (h : Matches ps cs) {c : Char} (hc : c ∈ cs) : ps.any (·.allows c) = true := by
  induction ps generalizing cs with
  | nil =>
    obtain rfl : cs = [] := h
    cases hc
  | cons p ps ih =>
    obtain ⟨before, after, rfl, hbefore, hafter⟩ := h
    rw [List.any_cons, Bool.or_eq_true]
    rcases List.mem_append.mp hc with hc | hc
    · exact .inl (Piece.allows_of_matches hbefore hc)
    · exact .inr (ih hafter hc)

def decimalPattern (places : Nat) : List Piece :=
  [.digits, .word ".", .places places]

end EventBench.Text
