import EventBench.Proofs.Event.Literal
import EventBench.Proofs.Event.Valid

namespace EventBench

namespace Field

theorem isIdentifierRest_of_mem (cs : List Char) (h : isIdentifier cs = true) :
    ∀ c ∈ cs, isIdentifierRest c = true := by
  cases cs with
  | nil => cases h
  | cons c cs =>
    simp only [isIdentifier, Bool.and_eq_true, List.all_eq_true] at h
    intro d hd
    rcases List.mem_cons.mp hd with rfl | hd
    · have hs := h.1
      simp only [isIdentifierStart, isIdentifierRest, Char.isAlphanum, Bool.or_eq_true] at hs ⊢
      rcases hs with hs | hs
      · exact Or.inl (Or.inl hs)
      · exact Or.inr hs
    · exact h.2 d hd

theorem isInline_of_isIdentifierRest (c : Char) (h : isIdentifierRest c = true) : Text.IsInline c := by
  have hupper : c.isUpper = true ↔ 'A'.toNat ≤ c.toNat ∧ c.toNat ≤ 'Z'.toNat := decide_eq_true_iff
  have hlower : c.isLower = true ↔ 'a'.toNat ≤ c.toNat ∧ c.toNat ≤ 'z'.toNat :=
    Bool.and_eq_true_iff.trans (and_congr decide_eq_true_iff decide_eq_true_iff)
  have halpha : c.isAlpha = true ↔ c.isUpper = true ∨ c.isLower = true := Bool.or_eq_true_iff
  simp only [isIdentifierRest, Char.isAlphanum, Bool.or_eq_true, halpha, hupper, hlower,
    Char.isDigit_iff_toNat, beq_iff_eq] at h
  have hA : 'A'.toNat = 0x41 := rfl
  have hZ : 'Z'.toNat = 0x5A := rfl
  have ha : 'a'.toNat = 0x61 := rfl
  have hz : 'z'.toNat = 0x7A := rfl
  have hzero : '0'.toNat = 0x30 := rfl
  have hnine : '9'.toNat = 0x39 := rfl
  rcases h with (((h | h) | h) | rfl)
  · exact Text.isInline_of_ascii c (by omega) (by omega)
  · exact Text.isInline_of_ascii c (by omega) (by omega)
  · exact Text.isInline_of_ascii c (by omega) (by omega)
  · exact Text.isInline_of_ascii _ (by decide) (by decide)

end Field

namespace Event

open Text

def readOffset (cs : List Char) : Int × List Char :=
  (Nat.ofDigitChars 10 (cs.takeWhile Char.isDigit) 0, cs.dropWhile Char.isDigit)

def readContent? : List Char → Option (Option Bytes × List Char)
  | ' ' :: '@' :: cs => some (none, ' ' :: '@' :: cs)
  | ' ' :: cs => (Literal.read? cs).map fun (b, rest) => (some b, rest)
  | _ => none

def readSpan? : List Char → Option (Int × Int)
  | ' ' :: '@' :: ' ' :: cs =>
    match readOffset cs with
    | (start, '.' :: '.' :: cs) =>
      match readOffset cs with
      | (stop, []) => some (start, stop)
      | _ => none
    | _ => none
  | _ => none

def ofLine? (cs : List Char) : Option Event :=
  match readContent? (cs.dropWhile Field.isIdentifierRest) with
  | none => none
  | some (content, rest) =>
    match readSpan? rest with
    | none => none
    | some (start, stop) =>
      some ⟨String.ofList (cs.takeWhile Field.isIdentifierRest), content, start, stop⟩

theorem readOffset_ofInt (n : Int) (rest : List Char) (hn : 0 ≤ n)
    (hr : ∀ c ∈ rest.head?, c.isDigit = false) : readOffset (Numeral.ofInt n ++ rest) = (n, rest) := by
  have hread := Numeral.readDecimal_decimal n.toNat rest hr
  have hoffset : readOffset (Numeral.decimal n.toNat ++ rest)
      = (((Numeral.readDecimal (Numeral.decimal n.toNat ++ rest)).1 : Int),
        (Numeral.readDecimal (Numeral.decimal n.toNat ++ rest)).2) := rfl
  rw [Numeral.ofInt_of_nonneg n hn, hoffset, hread, Int.toNat_of_nonneg hn]

theorem readSpan?_render (start stop : Int) (hstart : 0 ≤ start) (hstop : 0 ≤ stop) :
    readSpan? (" @ ".toList ++ Numeral.ofInt start ++ "..".toList ++ Numeral.ofInt stop)
      = some (start, stop) := by
  have h₁ := readOffset_ofInt start ('.' :: '.' :: Numeral.ofInt stop) hstart
    (by rintro c ⟨⟩; rfl)
  have h₂ := readOffset_ofInt stop [] hstop (by simp)
  rw [List.append_nil] at h₂
  have hs : " @ ".toList ++ Numeral.ofInt start ++ "..".toList ++ Numeral.ofInt stop
      = ' ' :: '@' :: ' ' :: (Numeral.ofInt start ++ '.' :: '.' :: Numeral.ofInt stop) := by simp
  rw [hs, readSpan?]
  simp only [h₁, h₂]

theorem encode_eq_cons (b : Bytes) :
    ∃ cs, Literal.encode b = '"' :: cs ∨ Literal.encode b = 'b' :: cs := by
  unfold Literal.encode
  split
  · exact ⟨_, Or.inl rfl⟩
  · exact ⟨_, Or.inr rfl⟩

theorem readContent?_literal (b : Bytes) (rest : List Char) :
    readContent? (' ' :: Literal.encode b ++ rest) = some (some b, rest) := by
  have hread := Literal.read?_encode b rest
  obtain ⟨cs, h | h⟩ := encode_eq_cons b <;> rw [h] at hread ⊢ <;>
    simp only [List.cons_append] at hread ⊢ <;> simp [readContent?, hread]

theorem ofLine?_render (e : Event) (h : e.Valid) : ofLine? e.render = some e := by
  obtain ⟨kind, content, start, stop⟩ := e
  obtain ⟨hkind, hstart, hspan⟩ := h
  have hs := readSpan?_render start stop hstart (Int.le_trans hstart hspan)
  generalize hspanText : " @ ".toList ++ Numeral.ofInt start ++ "..".toList ++ Numeral.ofInt stop = span
    at hs
  have hk := Field.isIdentifierRest_of_mem kind.toList hkind
  cases content with
  | none =>
    have hr : render ⟨kind, none, start, stop⟩ = kind.toList ++ span := by
      rw [← hspanText]
      simp [render]
    have hc : readContent? span = some (none, span) := by
      rw [← hspanText]
      rfl
    obtain ⟨ht, hd⟩ := span_append Field.isIdentifierRest kind.toList span hk
      (by rw [← hspanText]; rintro c ⟨⟩; rfl)
    rw [ofLine?, hr, ht, hd, hc]
    dsimp only
    rw [hs]
    simp
  | some b =>
    have hr : render ⟨kind, some b, start, stop⟩ = kind.toList ++ (' ' :: Literal.encode b ++ span) := by
      rw [← hspanText]
      simp [render]
    obtain ⟨ht, hd⟩ := span_append Field.isIdentifierRest kind.toList
      (' ' :: Literal.encode b ++ span) hk (by rintro c ⟨⟩; rfl)
    rw [ofLine?, hr, ht, hd, readContent?_literal]
    dsimp only
    rw [hs]
    simp

theorem isInline_of_mem_ofInt (n : Int) (c : Char) (hn : 0 ≤ n) (h : c ∈ Numeral.ofInt n) : IsInline c := by
  rw [Numeral.ofInt_of_nonneg n hn] at h
  have hd := Numeral.isDigit_of_mem_decimal h
  exact Literal.isInline_of_isHexDigit c (by simp [Numeral.isHexDigit, hd])

/-- No control of ASCII and no line boundary stands in the line of a valid event. -/
theorem isInline_of_mem_render (e : Event) (c : Char) (h : e.Valid) (hc : c ∈ e.render) : IsInline c := by
  have hblank : IsInline ' ' := isInline_of_ascii _ (by decide) (by decide)
  have hat : IsInline '@' := isInline_of_ascii _ (by decide) (by decide)
  have hdot : IsInline '.' := isInline_of_ascii _ (by decide) (by decide)
  obtain ⟨kind, content, start, stop⟩ := e
  obtain ⟨hkind, hstart, hspan⟩ := h
  simp only [render, List.mem_append] at hc
  rcases hc with ((((hc | hc) | hc) | hc) | hc) | hc
  · exact Field.isInline_of_isIdentifierRest c (Field.isIdentifierRest_of_mem _ hkind c hc)
  · cases content with
    | none => cases hc
    | some b =>
      rcases List.mem_cons.mp hc with rfl | hc
      · exact hblank
      · exact Literal.isInline_of_mem_encode b c hc
  · have hc' : c = ' ' ∨ c = '@' ∨ c = ' ' := by simpa using hc
    rcases hc' with rfl | rfl | rfl
    · exact hblank
    · exact hat
    · exact hblank
  · exact isInline_of_mem_ofInt start c hstart hc
  · have hc' : c = '.' := by simpa using hc
    rw [hc']
    exact hdot
  · exact isInline_of_mem_ofInt stop c (Int.le_trans hstart hspan) hc

theorem render_ne_nil (e : Event) : e.render ≠ [] := by
  simp [render]

theorem lines_render (e : Event) (h : e.Valid) : Text.lines e.render = [e.render] :=
  lines_of_inline e.render e.render_ne_nil fun c hc =>
    isLineBreak_of_isInline c (isInline_of_mem_render e c h hc)

end Event

end EventBench
