import EventBench.Proofs.Event.Literal

namespace EventBench.Literal

open Text Text.Numeral

/-- The numbers that have a short escape, each with the character behind its backslash. -/
def shorts : List (Nat × Char) :=
  [(0x5C, '\\'), (0x22, '"'), (0x0A, 'n'), (0x0D, 'r'), (0x09, 't')]

/-- The item of a character in a text literal: the character itself, a short escape, or its number in braces. -/
inductive TextItem : Char → List Char → Prop
  | plain (c : Char) (hc : IsInline c) (hslash : c ≠ '\\') (hquote : c ≠ '"') : TextItem c [c]
  | short (c d : Char) (h : (c.toNat, d) ∈ shorts) : TextItem c ['\\', d]
  | number (c : Char) (digits : List Char) (hc : ¬ IsInline c) (hshort : ∀ d, (c.toNat, d) ∉ shorts)
      (hdigits : IsHex digits c.toNat) : TextItem c ('\\' :: 'u' :: '\x7b' :: digits ++ ['\x7d'])

def IsPrintable (b : UInt8) : Prop :=
  0x20 ≤ b.toNat ∧ b.toNat < 0x7F

/-- The item of a byte in a byte literal: the character of ASCII, a short escape, or two digits. -/
inductive ByteItem : UInt8 → List Char → Prop
  | plain (b : UInt8) (c : Char) (hc : c.toNat = b.toNat) (hb : IsPrintable b) (hslash : c ≠ '\\') (hquote : c ≠ '"') :
      ByteItem b [c]
  | short (b : UInt8) (d : Char) (h : (b.toNat, d) ∈ shorts) : ByteItem b ['\\', d]
  | digits (b : UInt8) (high low : Char) (hb : ¬ IsPrintable b) (hshort : ∀ d, (b.toNat, d) ∉ shorts)
      (hhigh : isHexDigit high = true) (hlow : isHexDigit low = true)
      (hvalue : 16 * hexDigit high + hexDigit low = b.toNat) : ByteItem b ['\\', 'x', high, low]

/-- The items of several characters or bytes, one behind the other. -/
inductive Body {α : Type} (Item : α → List Char → Prop) : List α → List Char → Prop
  | nil : Body Item [] []
  | cons (a : α) (item : List Char) (as : List α) (body : List Char) (ha : Item a item) (has : Body Item as body) :
      Body Item (a :: as) (item ++ body)

def IsTextLiteral (literal : List Char) (b : Bytes) : Prop :=
  ∃ cs body, Body TextItem cs body ∧ literal = '"' :: body ++ ['"'] ∧ b = Utf8.encode cs

/-- A byte literal, and its bytes, which must not spell a text. -/
def IsByteLiteral (literal : List Char) (b : Bytes) : Prop :=
  ∃ body, Body ByteItem b body ∧ literal = 'b' :: '"' :: body ++ ['"'] ∧ ¬ Utf8.IsText b

theorem body_iff {α : Type} (Item : α → List Char → Prop) (form : α → List Char)
    (h : ∀ a item, Item a item ↔ item = form a) (as : List α) (body : List Char) :
    Body Item as body ↔ body = as.flatMap form := by
  constructor
  · intro hbody
    induction hbody with
    | nil => rfl
    | cons a item as body ha has ih => rw [List.flatMap_cons, (h a item).mp ha, ih]
  · rintro rfl
    induction as with
    | nil => exact .nil
    | cons a as ih => exact .cons a (form a) as _ ((h a _).mpr rfl) ih

theorem short?_eq_some_iff (n : Nat) (cs : List Char) :
    short? n = some cs ↔ ∃ d, (n, d) ∈ shorts ∧ cs = ['\\', d] := by
  unfold short? shorts
  split_ifs <;> simp_all [eq_comm]

theorem short?_eq_none_iff (n : Nat) : short? n = none ↔ ∀ d, (n, d) ∉ shorts := by
  unfold short? shorts
  split_ifs <;> simp_all

theorem isHidden_iff (c : Char) : isHidden c = true ↔ ¬ IsInline c := by
  simp only [isHidden, IsInline, Bool.or_eq_true, decide_eq_true_eq, beq_iff_eq]
  omega

/-- From the blank on, only the backslash and the quote have a short escape. -/
theorem forall_not_mem_shorts_iff (c : Char) (hc : 0x20 ≤ c.toNat) :
    (∀ d, (c.toNat, d) ∉ shorts) ↔ c ≠ '\\' ∧ c ≠ '"' := by
  have hslash : c = '\\' ↔ c.toNat = 0x5C := Char.toNat_inj.symm
  have hquote : c = '"' ↔ c.toNat = 0x22 := Char.toNat_inj.symm
  rw [← short?_eq_none_iff, short?, ne_eq, ne_eq, hslash, hquote]
  split_ifs <;> simp <;> omega

theorem textItem_iff (c : Char) (item : List Char) : TextItem c item ↔ item = escapeChar c := by
  unfold escapeChar
  constructor
  · intro h
    cases h with
    | plain hc hslash hquote =>
      have hnone := (short?_eq_none_iff c.toNat).mpr ((forall_not_mem_shorts_iff c hc.1).mpr ⟨hslash, hquote⟩)
      rw [hnone]
      dsimp only
      rw [if_neg fun hhidden => (isHidden_iff c).mp hhidden hc]
    | short d h => rw [(short?_eq_some_iff c.toNat ['\\', d]).mpr ⟨d, h, rfl⟩]
    | number digits hc hshort hdigits =>
      rw [(short?_eq_none_iff c.toNat).mpr hshort, (isHex_iff digits c.toNat).mp hdigits]
      dsimp only
      rw [if_pos ((isHidden_iff c).mpr hc)]
      rfl
  · rintro rfl
    split
    · rename_i cs hs
      obtain ⟨d, hd, rfl⟩ := (short?_eq_some_iff c.toNat cs).mp hs
      exact .short c d hd
    · rename_i hs
      have hshort := (short?_eq_none_iff c.toNat).mp hs
      split_ifs with hhidden
      · exact .number c (hex c.toNat) ((isHidden_iff c).mp hhidden) hshort (isHex_hex c.toNat)
      · have hc : IsInline c := not_not.mp fun hc => hhidden ((isHidden_iff c).mpr hc)
        obtain ⟨hslash, hquote⟩ := (forall_not_mem_shorts_iff c hc.1).mp hshort
        exact .plain c hc hslash hquote

/-- The two digits of a byte are its numeral with a zero in front if it has only one. -/
theorem digits_iff (b : UInt8) (high low : Char) :
    (isHexDigit high = true ∧ isHexDigit low = true ∧ 16 * hexDigit high + hexDigit low = b.toNat) ↔
      [high, low] = padded 2 (hex b.toNat) := by
  have hvalue : ofHex [high, low] = 16 * hexDigit high + hexDigit low := by simp [ofHex]
  constructor
  · rintro ⟨hhigh, hlow, h⟩
    apply eq_of_ofHex_eq
    · rw [length_padded_hex b.toNat b.toNat_lt]
      rfl
    · simp [hhigh, hlow]
    · exact isHexDigit_of_mem_padded 2 b.toNat
    · rw [hvalue, h, ofHex_padded, ofHex_hex]
  · intro h
    have hdigits := isHexDigit_of_mem_padded 2 b.toNat
    rw [← h] at hdigits
    refine ⟨hdigits high (by simp), hdigits low (by simp), ?_⟩
    rw [← hvalue, h, ofHex_padded, ofHex_hex]

theorem byteItem_iff (b : UInt8) (item : List Char) : ByteItem b item ↔ item = escapeByte b := by
  unfold escapeByte
  constructor
  · intro h
    cases h with
    | plain c hc hb hslash hquote =>
      have hlow : 0x20 ≤ c.toNat := by rw [hc]; exact hb.1
      have hshort := (forall_not_mem_shorts_iff c hlow).mpr ⟨hslash, hquote⟩
      rw [hc] at hshort
      rw [(short?_eq_none_iff b.toNat).mpr hshort, ← hc, Char.ofNat_toNat]
      dsimp only
      rw [if_pos (by rw [hc]; exact hb)]
    | short d h => rw [(short?_eq_some_iff b.toNat ['\\', d]).mpr ⟨d, h, rfl⟩]
    | digits high low hb hshort hhigh hlow hvalue =>
      rw [(short?_eq_none_iff b.toNat).mpr hshort, ← (digits_iff b high low).mp ⟨hhigh, hlow, hvalue⟩]
      exact (if_neg hb).symm
  · rintro rfl
    split
    · rename_i cs hs
      obtain ⟨d, hd, rfl⟩ := (short?_eq_some_iff b.toNat cs).mp hs
      exact .short b d hd
    · rename_i hs
      have hshort := (short?_eq_none_iff b.toNat).mp hs
      split_ifs with hb
      · have hc : (Char.ofNat b.toNat).toNat = b.toNat := Utf8.toNat_charOfNat _ (Or.inl (by omega))
        rw [← hc] at hshort
        obtain ⟨hslash, hquote⟩ := (forall_not_mem_shorts_iff _ (by rw [hc]; exact hb.1)).mp hshort
        exact .plain b _ hc hb hslash hquote
      · obtain ⟨high, low, hdigits⟩ := List.length_eq_two.mp (length_padded_hex b.toNat b.toNat_lt)
        obtain ⟨hhigh, hlow, hvalue⟩ := (digits_iff b high low).mpr hdigits.symm
        rw [hdigits]
        exact .digits b high low hb hshort hhigh hlow hvalue

theorem isTextLiteral_iff (literal : List Char) (b : Bytes) :
    IsTextLiteral literal b ↔ Utf8.IsText b ∧ encode b = literal := by
  constructor
  · rintro ⟨cs, body, hbody, rfl, rfl⟩
    rw [encode_text, ofText, (body_iff TextItem escapeChar textItem_iff cs body).mp hbody]
    exact ⟨⟨cs, rfl⟩, rfl⟩
  · rintro ⟨⟨cs, rfl⟩, rfl⟩
    exact ⟨cs, _, (body_iff TextItem escapeChar textItem_iff cs _).mpr rfl, encode_text cs, rfl⟩

theorem encode_of_not_isText (b : Bytes) (h : ¬ Utf8.IsText b) : encode b = ofBytes b := by
  unfold encode
  split
  · rename_i cs hcs
    exact absurd ⟨cs, (Utf8.decode_eq_some_iff b cs).mp hcs⟩ h
  · rfl

theorem isByteLiteral_iff (literal : List Char) (b : Bytes) :
    IsByteLiteral literal b ↔ ¬ Utf8.IsText b ∧ encode b = literal := by
  constructor
  · rintro ⟨body, hbody, rfl, htext⟩
    rw [encode_of_not_isText b htext, ofBytes, (body_iff ByteItem escapeByte byteItem_iff b body).mp hbody]
    exact ⟨htext, rfl⟩
  · rintro ⟨htext, rfl⟩
    exact ⟨_, (body_iff ByteItem escapeByte byteItem_iff b _).mpr rfl, encode_of_not_isText b htext, htext⟩

theorem encode_injective (b c : Bytes) (h : encode b = encode c) : b = c := by
  have hb := read?_encode b []
  rw [h, read?_encode c []] at hb
  exact (Prod.mk.inj (Option.some.inj hb)).1.symm

/-- Writing content is one to one onto the literals of the grammar. Bytes that spell a text become a text literal
and all others a byte literal; a literal is written for exactly the bytes that it denotes, and these are the only
ones. -/
theorem literals_denote_uniquely :
    (∀ b, (Utf8.IsText b ↔ IsTextLiteral (encode b) b) ∧ (¬ Utf8.IsText b ↔ IsByteLiteral (encode b) b)) ∧
    (∀ literal b, IsTextLiteral literal b ∨ IsByteLiteral literal b ↔ encode b = literal) ∧
    ∀ literal, (∃ b, IsTextLiteral literal b ∨ IsByteLiteral literal b) ↔ ∃! b, encode b = literal := by
  have hdenotes (literal : List Char) (b : Bytes) :
      IsTextLiteral literal b ∨ IsByteLiteral literal b ↔ encode b = literal := by
    rw [isTextLiteral_iff, isByteLiteral_iff, ← or_and_right, and_iff_right (em _)]
  refine ⟨?_, hdenotes, ?_⟩
  · intro b
    simp only [isTextLiteral_iff, isByteLiteral_iff, and_true]
  · intro literal
    simp only [hdenotes]
    constructor
    · rintro ⟨b, rfl⟩
      exact ⟨b, rfl, fun c hc => encode_injective c b hc⟩
    · exact ExistsUnique.exists

end EventBench.Literal
