import Mathlib.Tactic.SplitIfs
import EventBench.Text.Utf8

namespace EventBench.Text.Utf8

theorem toNat_lt (c : Char) : c.toNat < 0x110000 := by
  have h := c.valid
  rcases h with h | h
  · exact Nat.lt_trans h (by decide)
  · exact h.2

theorem toNat_charOfNat (n : Nat) (h : n.isValidChar) : (Char.ofNat n).toNat = n := by
  rw [Char.ofNat, dif_pos h]
  rfl

theorem toNat_byteOfNat (n : Nat) (h : n < 256) : (UInt8.ofNat n).toNat = n := by
  rw [UInt8.toNat_ofNat', Nat.mod_eq_of_lt h]

theorem byteOfNat_eq (b : UInt8) (n : Nat) (h : b.toNat = n) : UInt8.ofNat n = b := by
  rw [← h, UInt8.ofNat_toNat]

theorem scalar?_eq_some (least n : Nat) (c : Char) :
    scalar? least n = some c ↔ least ≤ n ∧ c.toNat = n := by
  constructor
  · intro h
    rw [scalar?] at h
    split_ifs at h with hn
    obtain rfl := Option.some.inj h
    exact ⟨hn.1, toNat_charOfNat n hn.2⟩
  · rintro ⟨hn, rfl⟩
    have hv : c.toNat.isValidChar := c.valid
    rw [scalar?, if_pos ⟨hn, hv⟩, Char.ofNat_toNat]

theorem continuation?_eq_some (b : UInt8) (x : Nat) :
    continuation? b = some x ↔ x < 0x40 ∧ b.toNat = x + 0x80 := by
  rw [continuation?]
  split_ifs with h
  · simp only [Option.some.injEq]
    omega
  · simp only [false_iff]
    omega

theorem continuation?_ofNat (x : Nat) (h : x < 0x40) :
    continuation? (UInt8.ofNat (x + 0x80)) = some x :=
  (continuation?_eq_some _ x).mpr ⟨h, toNat_byteOfNat _ (by omega)⟩

theorem two?_eq_some (b₀ b₁ : UInt8) (c : Char) :
    two? b₀ b₁ = some c ↔
      ∃ x₁, continuation? b₁ = some x₁ ∧ 0x80 ≤ c.toNat ∧ c.toNat = (b₀.toNat - 0xC0) * 64 + x₁ := by
  simp only [two?, Option.bind_eq_bind, Option.bind_eq_some_iff, scalar?_eq_some]
  grind

theorem three?_eq_some (b₀ b₁ b₂ : UInt8) (c : Char) :
    three? b₀ b₁ b₂ = some c ↔
      ∃ x₁ x₂, continuation? b₁ = some x₁ ∧ continuation? b₂ = some x₂ ∧ 0x800 ≤ c.toNat ∧
        c.toNat = ((b₀.toNat - 0xE0) * 64 + x₁) * 64 + x₂ := by
  simp only [three?, Option.bind_eq_bind, Option.bind_eq_some_iff, scalar?_eq_some]
  grind

theorem four?_eq_some (b₀ b₁ b₂ b₃ : UInt8) (c : Char) :
    four? b₀ b₁ b₂ b₃ = some c ↔
      ∃ x₁ x₂ x₃, continuation? b₁ = some x₁ ∧ continuation? b₂ = some x₂ ∧
        continuation? b₃ = some x₃ ∧ 0x10000 ≤ c.toNat ∧
        c.toNat = (((b₀.toNat - 0xF0) * 64 + x₁) * 64 + x₂) * 64 + x₃ := by
  simp only [four?, Option.bind_eq_bind, Option.bind_eq_some_iff, scalar?_eq_some]
  grind

theorem utf8EncodeChar_ascii (c : Char) (h : c.toNat < 0x80) :
    String.utf8EncodeChar c = [UInt8.ofNat c.toNat] := by
  have hval : c.val.toNat = c.toNat := rfl
  rw [String.utf8EncodeChar]
  simp only [hval]
  rw [if_pos (by omega)]

/-- The spelling of a character is read as that character, whatever follows. -/
theorem next?_utf8EncodeChar (c : Char) (rest : Bytes) :
    next? (String.utf8EncodeChar c ++ rest) = some (c, rest) := by
  have hn := toNat_lt c
  have hval : c.val.toNat = c.toNat := rfl
  rw [String.utf8EncodeChar]
  simp only [hval]
  split_ifs with h1 h2 h3
  · have hb := toNat_byteOfNat c.toNat (by omega)
    simp only [List.cons_append, List.nil_append, next?, hb]
    rw [if_pos (by omega), Char.ofNat_toNat]
  · have hb := toNat_byteOfNat (c.toNat / 64 % 32 + 0xC0) (by omega)
    have hc := (two?_eq_some (.ofNat (c.toNat / 64 % 32 + 0xC0)) (.ofNat (c.toNat % 64 + 0x80)) c).mpr
      ⟨_, continuation?_ofNat _ (by omega), by omega, by omega⟩
    simp only [List.cons_append, List.nil_append, next?, hb]
    rw [if_neg (by omega), if_neg (by omega), if_pos (by omega), hc]
    rfl
  · have hb := toNat_byteOfNat (c.toNat / 4096 % 16 + 0xE0) (by omega)
    have hc := (three?_eq_some (.ofNat (c.toNat / 4096 % 16 + 0xE0))
      (.ofNat (c.toNat / 64 % 64 + 0x80)) (.ofNat (c.toNat % 64 + 0x80)) c).mpr
      ⟨_, _, continuation?_ofNat _ (by omega), continuation?_ofNat _ (by omega), by omega, by omega⟩
    simp only [List.cons_append, List.nil_append, next?, hb]
    rw [if_neg (by omega), if_neg (by omega), if_neg (by omega), if_pos (by omega), hc]
    rfl
  · have hb := toNat_byteOfNat (c.toNat / 262144 % 8 + 0xF0) (by omega)
    have hc := (four?_eq_some (.ofNat (c.toNat / 262144 % 8 + 0xF0))
      (.ofNat (c.toNat / 4096 % 64 + 0x80)) (.ofNat (c.toNat / 64 % 64 + 0x80))
      (.ofNat (c.toNat % 64 + 0x80)) c).mpr
      ⟨_, _, _, continuation?_ofNat _ (by omega), continuation?_ofNat _ (by omega),
        continuation?_ofNat _ (by omega), by omega, by omega⟩
    simp only [List.cons_append, List.nil_append, next?, hb]
    rw [if_neg (by omega), if_neg (by omega), if_neg (by omega), if_neg (by omega), if_pos (by omega), hc]
    rfl

theorem eq_of_next? (bytes rest : Bytes) (c : Char) (h : next? bytes = some (c, rest)) :
    bytes = String.utf8EncodeChar c ++ rest := by
  have hval : c.val.toNat = c.toNat := rfl
  cases bytes with
  | nil => cases h
  | cons b₀ bytes =>
    unfold next? at h
    dsimp only at h
    rw [String.utf8EncodeChar]
    simp only [hval]
    split_ifs at h with h1 h2 h3 h4 h5
    · obtain ⟨rfl, rfl⟩ := Prod.mk.inj (Option.some.inj h)
      have hc : (Char.ofNat b₀.toNat).toNat = b₀.toNat := toNat_charOfNat _ (Or.inl (by omega))
      rw [if_pos (by omega), byteOfNat_eq b₀ _ hc.symm]
      rfl
    · split at h
      · rename_i b₁ tail
        obtain ⟨d, hd, he⟩ := Option.map_eq_some_iff.mp h
        obtain ⟨rfl, rfl⟩ := Prod.mk.inj he
        obtain ⟨x₁, hx₁, hleast, hvalue⟩ := (two?_eq_some _ _ _).mp hd
        rw [continuation?_eq_some] at hx₁
        rw [if_neg (by omega), if_pos (by omega), byteOfNat_eq b₀ _ (by omega),
          byteOfNat_eq b₁ _ (by omega)]
        rfl
      · cases h
    · split at h
      · rename_i b₁ b₂ tail
        obtain ⟨d, hd, he⟩ := Option.map_eq_some_iff.mp h
        obtain ⟨rfl, rfl⟩ := Prod.mk.inj he
        obtain ⟨x₁, x₂, hx₁, hx₂, hleast, hvalue⟩ := (three?_eq_some _ _ _ _).mp hd
        rw [continuation?_eq_some] at hx₁ hx₂
        rw [if_neg (by omega), if_neg (by omega), if_pos (by omega), byteOfNat_eq b₀ _ (by omega),
          byteOfNat_eq b₁ _ (by omega), byteOfNat_eq b₂ _ (by omega)]
        rfl
      · cases h
    · split at h
      · rename_i b₁ b₂ b₃ tail
        obtain ⟨d, hd, he⟩ := Option.map_eq_some_iff.mp h
        obtain ⟨rfl, rfl⟩ := Prod.mk.inj he
        obtain ⟨x₁, x₂, x₃, hx₁, hx₂, hx₃, hleast, hvalue⟩ := (four?_eq_some _ _ _ _ _).mp hd
        rw [continuation?_eq_some] at hx₁ hx₂ hx₃
        rw [if_neg (by omega), if_neg (by omega), if_neg (by omega), byteOfNat_eq b₀ _ (by omega),
          byteOfNat_eq b₁ _ (by omega), byteOfNat_eq b₂ _ (by omega), byteOfNat_eq b₃ _ (by omega)]
        rfl
      · cases h

theorem decode_encode (cs : List Char) : decode (encode cs) = some cs := by
  induction cs with
  | nil => exact decode_nil
  | cons c cs ih =>
    have h : encode (c :: cs) = String.utf8EncodeChar c ++ encode cs := List.flatMap_cons
    rw [h, decode_of_next? (next?_utf8EncodeChar c (encode cs)), ih]
    rfl

theorem encode_of_decode (bytes : Bytes) (cs : List Char) (h : decode bytes = some cs) :
    encode cs = bytes := by
  induction cs generalizing bytes with
  | nil =>
    cases bytes with
    | nil => rfl
    | cons b bytes =>
      cases hn : next? (b :: bytes) with
      | none => simp [decode_of_next?_none (List.cons_ne_nil b bytes) hn] at h
      | some p => simp [decode_of_next? hn] at h
  | cons c cs ih =>
    cases bytes with
    | nil => simp [decode_nil] at h
    | cons b bytes =>
      cases hn : next? (b :: bytes) with
      | none => simp [decode_of_next?_none (List.cons_ne_nil b bytes) hn] at h
      | some p =>
        rw [decode_of_next? hn] at h
        obtain ⟨ds, hds, he⟩ := Option.map_eq_some_iff.mp h
        obtain ⟨hc, rfl⟩ := List.cons.inj he
        have hb := eq_of_next? (b :: bytes) p.2 p.1 hn
        rw [hb, hc, ← ih p.2 hds]
        exact List.flatMap_cons

theorem decode_eq_some_iff (bytes : Bytes) (cs : List Char) :
    decode bytes = some cs ↔ bytes = encode cs := by
  constructor
  · intro h
    exact (encode_of_decode bytes cs h).symm
  · rintro rfl
    exact decode_encode cs

def IsText (bytes : Bytes) : Prop :=
  ∃ cs, bytes = encode cs

theorem isText_nil : IsText [] :=
  ⟨[], rfl⟩

theorem IsText.append (xs ys : Bytes) (hx : IsText xs) (hy : IsText ys) : IsText (xs ++ ys) := by
  obtain ⟨cs, rfl⟩ := hx
  obtain ⟨ds, rfl⟩ := hy
  exact ⟨cs ++ ds, (encode_append cs ds).symm⟩

theorem isText_ascii (b : UInt8) (h : b.toNat < 0x80) : IsText [b] := by
  have hc : (Char.ofNat b.toNat).toNat = b.toNat := toNat_charOfNat _ (Or.inl (by omega))
  refine ⟨[Char.ofNat b.toNat], ?_⟩
  rw [encode, List.flatMap_singleton, utf8EncodeChar_ascii _ (by omega), hc, UInt8.ofNat_toNat]

theorem le_of_mem_utf8EncodeChar (c : Char) (b : UInt8) (hc : 0x80 ≤ c.toNat)
    (hb : b ∈ String.utf8EncodeChar c) : 0x80 ≤ b.toNat := by
  have hn := toNat_lt c
  have hval : c.val.toNat = c.toNat := rfl
  have hbyte (n : Nat) (h : 0x80 ≤ n) (h' : n < 256) : 0x80 ≤ (UInt8.ofNat n).toNat := by
    rw [toNat_byteOfNat n h']
    exact h
  rw [String.utf8EncodeChar] at hb
  simp only [hval] at hb
  rw [if_neg (by omega)] at hb
  split_ifs at hb <;> simp only [List.mem_cons, List.not_mem_nil, or_false] at hb
  · rcases hb with rfl | rfl <;> exact hbyte _ (by omega) (by omega)
  · rcases hb with rfl | rfl | rfl <;> exact hbyte _ (by omega) (by omega)
  · rcases hb with rfl | rfl | rfl | rfl <;> exact hbyte _ (by omega) (by omega)

/-- A byte of ASCII never stands inside a longer spelling, so text is cut there into texts. -/
theorem isText_of_append_ascii (xs ys : Bytes) (b : UInt8) (hb : b.toNat < 0x80)
    (h : IsText (xs ++ b :: ys)) : IsText xs ∧ IsText ys := by
  obtain ⟨cs, hcs⟩ := h
  induction cs generalizing xs with
  | nil => simp [encode] at hcs
  | cons c cs ih =>
    have he : encode (c :: cs) = String.utf8EncodeChar c ++ encode cs := List.flatMap_cons
    rw [he] at hcs
    rcases List.append_eq_append_iff.mp hcs with ⟨zs, hc, hrest⟩ | ⟨zs, rfl, hrest⟩
    · cases zs with
      | nil =>
        obtain ⟨hnil, hys⟩ := ih [] (by simpa using hrest)
        rw [List.append_nil] at hc
        refine ⟨⟨[c], ?_⟩, hys⟩
        rw [encode, List.flatMap_singleton, hc]
      | cons z zs =>
        obtain ⟨rfl, hys⟩ := List.cons.inj hrest
        have hascii : c.toNat < 0x80 := by
          refine Nat.lt_of_not_le fun hwide => ?_
          have hmem : b ∈ String.utf8EncodeChar c := by
            rw [hc]
            simp
          have hlow := le_of_mem_utf8EncodeChar c b hwide hmem
          omega
        have hone := utf8EncodeChar_ascii c hascii
        rw [hone] at hc
        have hlen := congrArg List.length hc
        simp only [List.length_append, List.length_cons, List.length_nil] at hlen
        obtain rfl : xs = [] := List.length_eq_zero_iff.mp (by omega)
        obtain rfl : zs = [] := List.length_eq_zero_iff.mp (by omega)
        exact ⟨isText_nil, cs, hys⟩
    · obtain ⟨hzs, hys⟩ := ih zs hrest.symm
      exact ⟨.append _ _ ⟨[c], by rw [encode, List.flatMap_singleton]⟩ hzs, hys⟩

theorem isText_append_ascii (xs ys : Bytes) (b : UInt8) (hb : b.toNat < 0x80) :
    IsText (xs ++ b :: ys) ↔ IsText xs ∧ IsText ys := by
  constructor
  · exact isText_of_append_ascii xs ys b hb
  · rintro ⟨hx, hy⟩
    exact hx.append _ _ ((isText_ascii b hb).append _ _ hy)

end EventBench.Text.Utf8
