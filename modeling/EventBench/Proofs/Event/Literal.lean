import EventBench.Event.Literal
import EventBench.Proofs.Text.LineBreak
import EventBench.Proofs.Text.Numeral
import EventBench.Proofs.Text.Span
import EventBench.Proofs.Text.Utf8

namespace EventBench.Literal

open Text Text.Numeral

/-- The number behind a short escape, by the character after its backslash. -/
def shortValue? (c : Char) : Option Nat :=
  if c = '\\' then some 0x5C
  else if c = '"' then some 0x22
  else if c = 'n' then some 0x0A
  else if c = 'r' then some 0x0D
  else if c = 't' then some 0x09
  else none

def escape? (c : Char) (cs : List Char) : Option (Bytes × List Char) :=
  match shortValue? c, c, cs with
  | some n, _, cs => some ([UInt8.ofNat n], cs)
  | none, 'x', high :: low :: rest => some ([UInt8.ofNat (ofHex [high, low])], rest)
  | none, 'u', '\x7b' :: cs =>
    match cs.dropWhile isHexDigit with
    | '\x7d' :: rest => some (String.utf8EncodeChar (Char.ofNat (ofHex (cs.takeWhile isHexDigit))), rest)
    | _ => none
  | none, _, _ => none

def next? : List Char → Option (Bytes × List Char)
  | '\\' :: c :: cs => escape? c cs
  | ['\\'] => none
  | c :: cs => some (String.utf8EncodeChar c, cs)
  | [] => none

theorem length_le_of_escape? (c : Char) (cs rest : List Char) (b : Bytes)
    (h : escape? c cs = some (b, rest)) : rest.length ≤ cs.length := by
  unfold escape? at h
  split at h
  · obtain ⟨_, rfl⟩ := Prod.mk.inj (Option.some.inj h)
    exact le_refl _
  · obtain ⟨_, rfl⟩ := Prod.mk.inj (Option.some.inj h)
    simp only [List.length_cons]
    omega
  · rename_i tail _
    have hs := (List.dropWhile_suffix (l := tail) isHexDigit).length_le
    split at h
    · rename_i hd
      obtain ⟨_, rfl⟩ := Prod.mk.inj (Option.some.inj h)
      rw [hd] at hs
      simp only [List.length_cons] at hs ⊢
      omega
    · cases h
  · cases h

theorem length_lt_of_next? (cs rest : List Char) (b : Bytes) (h : next? cs = some (b, rest)) :
    rest.length < cs.length := by
  unfold next? at h
  split at h
  · have hl := length_le_of_escape? _ _ rest b h
    simp only [List.length_cons]
    omega
  · cases h
  · obtain ⟨_, rfl⟩ := Prod.mk.inj (Option.some.inj h)
    exact Nat.lt_succ_self _
  · cases h

def body? (cs : List Char) : Option (Bytes × List Char) :=
  if cs.head? = some '"' then some ([], cs.tail)
  else
    match h : next? cs with
    | none => none
    | some (b, rest) =>
      have := length_lt_of_next? cs rest b h
      (body? rest).map fun (bs, rest) => (b ++ bs, rest)
termination_by cs.length

def read? : List Char → Option (Bytes × List Char)
  | '"' :: cs => body? cs
  | 'b' :: '"' :: cs => body? cs
  | _ => none

theorem body?_quote (rest : List Char) : body? ('"' :: rest) = some ([], rest) := by
  rw [body?, if_pos (show ('"' :: rest).head? = some '"' from rfl)]
  rfl

theorem body?_item (item rest : List Char) (b : Bytes) (h : next? (item ++ rest) = some (b, rest))
    (hq : (item ++ rest).head? ≠ some '"') :
    body? (item ++ rest) = (body? rest).map fun (bs, rest) => (b ++ bs, rest) := by
  rw [body?, if_neg hq]
  split
  · simp_all
  · rename_i b' rest' h'
    obtain ⟨rfl, rfl⟩ : b = b' ∧ rest = rest' := by simpa [h] using h'
    rfl

theorem body?_flatMap {α : Type} (item : α → List Char) (bytes : α → Bytes)
    (h : ∀ a rest, next? (item a ++ rest) = some (bytes a, rest))
    (hq : ∀ a rest, (item a ++ rest).head? ≠ some '"') (as : List α) (rest : List Char) :
    body? (as.flatMap item ++ '"' :: rest) = some (as.flatMap bytes, rest) := by
  induction as with
  | nil => exact body?_quote rest
  | cons a as ih =>
    rw [List.flatMap_cons, List.append_assoc, body?_item _ _ (bytes a) (h a _) (hq a _), ih]
    rfl

theorem shortValue?_of_short? (n : Nat) (cs : List Char) (h : short? n = some cs) :
    n < 0x80 ∧ ∃ c, cs = ['\\', c] ∧ shortValue? c = some n := by
  unfold short? at h
  split_ifs at h with h1 h2 h3 h4 h5 <;> obtain rfl := Option.some.inj h <;> subst n <;>
    exact ⟨by decide, _, rfl, rfl⟩

theorem escape?_short (n : Nat) (c : Char) (rest : List Char) (h : shortValue? c = some n) :
    escape? c rest = some ([UInt8.ofNat n], rest) := by
  simp [escape?, h]

theorem escape?_byte (digits rest : List Char) (h : digits.length = 2) :
    escape? 'x' (digits ++ rest) = some ([UInt8.ofNat (ofHex digits)], rest) := by
  match digits, h with
  | [high, low], _ => rfl

theorem escape?_number (digits rest : List Char) (h : ∀ c ∈ digits, isHexDigit c = true) :
    escape? 'u' ('\x7b' :: digits ++ '\x7d' :: rest)
      = some (String.utf8EncodeChar (Char.ofNat (ofHex digits)), rest) := by
  have hend : isHexDigit '\x7d' = false := rfl
  obtain ⟨ht, hd⟩ := span_append isHexDigit digits ('\x7d' :: rest) h (by rintro c ⟨⟩; exact hend)
  have hs : shortValue? 'u' = none := rfl
  simp only [escape?, hs, List.cons_append, ht, hd]

theorem next?_plain (c : Char) (rest : List Char) (h : c ≠ '\\') :
    next? (c :: rest) = some (String.utf8EncodeChar c, rest) := by
  unfold next?
  split <;> simp_all

theorem ne_of_short?_none (c : Char) (h : short? c.toNat = none) : c ≠ '\\' ∧ c ≠ '"' := by
  constructor
  · rintro rfl
    cases h
  · rintro rfl
    cases h

theorem next?_escapeChar (c : Char) (rest : List Char) :
    next? (escapeChar c ++ rest) = some (String.utf8EncodeChar c, rest) := by
  unfold escapeChar
  split
  · rename_i cs hs
    obtain ⟨hascii, d, rfl, hd⟩ := shortValue?_of_short? c.toNat cs hs
    rw [Utf8.utf8EncodeChar_ascii c hascii]
    exact escape?_short c.toNat d rest hd
  · rename_i hs
    split_ifs
    · have hn := escape?_number (hex c.toNat) rest (isHexDigit_of_mem_hex c.toNat)
      rw [ofHex_hex, Char.ofNat_toNat] at hn
      simpa [next?] using hn
    · exact next?_plain c rest (ne_of_short?_none c hs).1

theorem next?_escapeByte (b : UInt8) (rest : List Char) :
    next? (escapeByte b ++ rest) = some ([b], rest) := by
  unfold escapeByte
  split
  · rename_i cs hs
    obtain ⟨_, d, rfl, hd⟩ := shortValue?_of_short? b.toNat cs hs
    have hn := escape?_short b.toNat d rest hd
    rw [UInt8.ofNat_toNat] at hn
    exact hn
  · rename_i hs
    split_ifs with hb
    · have hc : (Char.ofNat b.toNat).toNat = b.toNat := Utf8.toNat_charOfNat _ (Or.inl (by omega))
      have hn := next?_plain (Char.ofNat b.toNat) rest (ne_of_short?_none _ (by rw [hc]; exact hs)).1
      rw [Utf8.utf8EncodeChar_ascii _ (by omega), hc, UInt8.ofNat_toNat] at hn
      exact hn
    · have hn := escape?_byte _ rest (length_padded_hex b.toNat b.toNat_lt)
      rw [ofHex_padded, ofHex_hex, UInt8.ofNat_toNat] at hn
      exact hn

theorem head?_escapeChar (c : Char) (rest : List Char) : (escapeChar c ++ rest).head? ≠ some '"' := by
  unfold escapeChar
  split
  · rename_i cs hs
    obtain ⟨_, d, rfl, _⟩ := shortValue?_of_short? c.toNat cs hs
    simp
  · rename_i hs
    split_ifs
    · simp
    · simpa using (ne_of_short?_none c hs).2

theorem head?_escapeByte (b : UInt8) (rest : List Char) : (escapeByte b ++ rest).head? ≠ some '"' := by
  unfold escapeByte
  split
  · rename_i cs hs
    obtain ⟨_, d, rfl, _⟩ := shortValue?_of_short? b.toNat cs hs
    simp
  · rename_i hs
    split_ifs with hb
    · have hc : (Char.ofNat b.toNat).toNat = b.toNat := Utf8.toNat_charOfNat _ (Or.inl (by omega))
      simpa using (ne_of_short?_none (Char.ofNat b.toNat) (by rw [hc]; exact hs)).2
    · simp

/-- The literal of any content is read back, whatever follows it. -/
theorem read?_encode (b : Bytes) (rest : List Char) : read? (encode b ++ rest) = some (b, rest) := by
  unfold encode
  split
  · rename_i cs hcs
    have h := body?_flatMap escapeChar String.utf8EncodeChar next?_escapeChar head?_escapeChar cs rest
    rw [show cs.flatMap String.utf8EncodeChar = b from Utf8.encode_of_decode b cs hcs] at h
    simpa [ofText, read?] using h
  · have h := body?_flatMap escapeByte (fun b => [b]) next?_escapeByte head?_escapeByte b rest
    rw [List.flatMap_singleton'] at h
    simpa [ofBytes, read?] using h

theorem isInline_of_isHexDigit (c : Char) (h : isHexDigit c = true) : IsInline c := by
  have hzero : '0'.toNat = 0x30 := rfl
  have hnine : '9'.toNat = 0x39 := rfl
  simp only [isHexDigit, Bool.or_eq_true, Bool.and_eq_true, decide_eq_true_eq, Char.isDigit_iff_toNat] at h
  exact isInline_of_ascii c (by omega) (by omega)

theorem isInline_of_mem_short? (n : Nat) (cs : List Char) (h : short? n = some cs) :
    ∀ c ∈ cs, IsInline c := by
  unfold short? at h
  split_ifs at h <;> obtain rfl := Option.some.inj h <;> intro c hc <;>
    simp only [List.mem_cons, List.not_mem_nil, or_false] at hc <;>
    rcases hc with rfl | rfl <;> exact isInline_of_ascii _ (by decide) (by decide)

theorem isInline_of_mem_escapeChar (c d : Char) (h : d ∈ escapeChar c) : IsInline d := by
  unfold escapeChar at h
  split at h
  · rename_i cs hs
    exact isInline_of_mem_short? c.toNat cs hs d h
  · split_ifs at h with hc
    · simp only [List.mem_append, List.mem_cons, List.not_mem_nil, or_false] at h
      rcases h with (((rfl | rfl | rfl) | h) | rfl)
      · exact isInline_of_ascii _ (by decide) (by decide)
      · exact isInline_of_ascii _ (by decide) (by decide)
      · exact isInline_of_ascii _ (by decide) (by decide)
      · exact isInline_of_isHexDigit d (isHexDigit_of_mem_hex c.toNat d h)
      · exact isInline_of_ascii _ (by decide) (by decide)
    · obtain rfl := List.mem_singleton.mp h
      simp only [isHidden, Bool.or_eq_true, decide_eq_true_eq, beq_iff_eq] at hc
      refine ⟨?_, ?_, ?_, ?_, ?_⟩ <;> omega

theorem isInline_of_mem_escapeByte (b : UInt8) (d : Char) (h : d ∈ escapeByte b) : IsInline d := by
  unfold escapeByte at h
  split at h
  · rename_i cs hs
    exact isInline_of_mem_short? b.toNat cs hs d h
  · split_ifs at h with hb
    · obtain rfl := List.mem_singleton.mp h
      have hc : (Char.ofNat b.toNat).toNat = b.toNat := Utf8.toNat_charOfNat _ (Or.inl (by omega))
      exact isInline_of_ascii _ (by omega) (by omega)
    · rcases List.mem_append.mp h with h | h
      · simp only [List.mem_cons, List.not_mem_nil, or_false] at h
        rcases h with rfl | rfl <;> exact isInline_of_ascii _ (by decide) (by decide)
      · exact isInline_of_isHexDigit d (isHexDigit_of_mem_padded 2 b.toNat d h)

/-- No control of ASCII and no line boundary stands in a literal. -/
theorem isInline_of_mem_encode (b : Bytes) (d : Char) (h : d ∈ encode b) : IsInline d := by
  have hquote : IsInline '"' := isInline_of_ascii _ (by decide) (by decide)
  have hb : IsInline 'b' := isInline_of_ascii _ (by decide) (by decide)
  unfold encode at h
  split at h
  · rename_i cs _
    simp only [ofText, List.cons_append, List.mem_cons, List.mem_append, List.mem_flatMap,
      List.not_mem_nil, or_false] at h
    rcases h with rfl | ⟨c, _, h⟩ | rfl
    · exact hquote
    · exact isInline_of_mem_escapeChar c d h
    · exact hquote
  · simp only [ofBytes, List.cons_append, List.mem_cons, List.mem_append, List.mem_flatMap,
      List.not_mem_nil, or_false] at h
    rcases h with rfl | rfl | ⟨c, _, h⟩ | rfl
    · exact hb
    · exact hquote
    · exact isInline_of_mem_escapeByte c d h
    · exact hquote

/-- A literal without the quotes around it. -/
def unquoted (literal : List Char) : List Char :=
  literal.tail.dropLast

theorem encode_text (cs : List Char) : encode (Utf8.encode cs) = ofText cs := by
  rw [encode, Utf8.decode_encode]

/-- The form of a literal tells whether its bytes spell a text. -/
theorem head?_encode_eq_quote_iff (b : Bytes) : (encode b).head? = some '"' ↔ Utf8.IsText b := by
  constructor
  · intro h
    cases hd : Utf8.decode b with
    | none =>
      rw [encode, hd] at h
      cases h
    | some cs => exact ⟨cs, (Utf8.decode_eq_some_iff b cs).mp hd⟩
  · rintro ⟨cs, rfl⟩
    rw [encode_text]
    rfl

theorem unquoted_ofText (cs : List Char) : unquoted (ofText cs) = cs.flatMap escapeChar := by
  simp [unquoted, ofText]

theorem unquoted_encode_append (xs ys : Bytes) (hx : Utf8.IsText xs) (hy : Utf8.IsText ys) :
    unquoted (encode (xs ++ ys)) = unquoted (encode xs) ++ unquoted (encode ys) := by
  obtain ⟨cs, rfl⟩ := hx
  obtain ⟨ds, rfl⟩ := hy
  rw [← Utf8.encode_append]
  simp only [encode_text, unquoted_ofText, List.flatMap_append]

/-- Texts in a row are written as one text is. -/
theorem unquoted_encode_flatten (texts : List Bytes) (h : ∀ b ∈ texts, Utf8.IsText b) :
    Utf8.IsText texts.flatten ∧
    unquoted (encode texts.flatten) = texts.flatMap fun b => unquoted (encode b) := by
  induction texts with
  | nil => exact ⟨Utf8.isText_nil, congrArg unquoted (encode_text [])⟩
  | cons b texts ih =>
    obtain ⟨htext, htail⟩ := ih fun c hc => h c (List.mem_cons_of_mem b hc)
    have hb := h b List.mem_cons_self
    rw [List.flatten_cons, List.flatMap_cons, unquoted_encode_append b _ hb htext, htail]
    exact ⟨hb.append _ _ htext, rfl⟩

end EventBench.Literal
