namespace EventBench

abbrev Bytes := List UInt8

namespace Text.Utf8

def continuation? (b : UInt8) : Option Nat :=
  if 0x80 ≤ b.toNat ∧ b.toNat < 0xC0 then some (b.toNat - 0x80) else none

/-- The scalar value `n`, if it needs as many bytes as were spent on it. -/
def scalar? (least n : Nat) : Option Char :=
  if least ≤ n ∧ n.isValidChar then some (Char.ofNat n) else none

def two? (b₀ b₁ : UInt8) : Option Char := do
  let x₁ ← continuation? b₁
  scalar? 0x80 ((b₀.toNat - 0xC0) * 64 + x₁)

def three? (b₀ b₁ b₂ : UInt8) : Option Char := do
  let x₁ ← continuation? b₁
  let x₂ ← continuation? b₂
  scalar? 0x800 (((b₀.toNat - 0xE0) * 64 + x₁) * 64 + x₂)

def four? (b₀ b₁ b₂ b₃ : UInt8) : Option Char := do
  let x₁ ← continuation? b₁
  let x₂ ← continuation? b₂
  let x₃ ← continuation? b₃
  scalar? 0x10000 ((((b₀.toNat - 0xF0) * 64 + x₁) * 64 + x₂) * 64 + x₃)

/-- Reads one character, unless the bytes are at their end or do not begin with the spelling of
one. -/
def next? : Bytes → Option (Char × Bytes)
  | [] => none
  | b₀ :: rest =>
    if b₀.toNat < 0x80 then some (Char.ofNat b₀.toNat, rest)
    else if b₀.toNat < 0xC0 then none
    else if b₀.toNat < 0xE0 then
      match rest with
      | b₁ :: rest => (two? b₀ b₁).map fun c => (c, rest)
      | _ => none
    else if b₀.toNat < 0xF0 then
      match rest with
      | b₁ :: b₂ :: rest => (three? b₀ b₁ b₂).map fun c => (c, rest)
      | _ => none
    else if b₀.toNat < 0xF8 then
      match rest with
      | b₁ :: b₂ :: b₃ :: rest => (four? b₀ b₁ b₂ b₃).map fun c => (c, rest)
      | _ => none
    else none

theorem length_lt_of_next? {bytes rest : Bytes} {c : Char} (h : next? bytes = some (c, rest)) :
    rest.length < bytes.length := by
  unfold next? at h
  split at h
  · cases h
  · repeat' split at h
    all_goals simp_all only [Option.some.injEq, Option.map_eq_some_iff, Prod.mk.injEq, reduceCtorEq]
    all_goals first
      | obtain ⟨_, rfl⟩ := h
      | obtain ⟨_, _, _, rfl⟩ := h
    all_goals simp only [List.length_cons]
    all_goals omega

/-- Reads the rest of a byte string; `done` holds what was read before, the last character first. -/
def decodeFrom (done : List Char) (bytes : Bytes) : Option (List Char) :=
  if bytes.isEmpty then some done.reverse
  else
    match h : next? bytes with
    | none => none
    | some (c, rest) =>
      have := length_lt_of_next? h
      decodeFrom (c :: done) rest
termination_by bytes.length

def decode (bytes : Bytes) : Option (List Char) :=
  decodeFrom [] bytes

/-- What was read before stands in front of the other characters. -/
theorem decodeFrom_append (done before : List Char) (bytes : Bytes) :
    decodeFrom (done ++ before) bytes = (decodeFrom done bytes).map (before.reverse ++ ·) := by
  fun_induction decodeFrom done bytes with
  | case1 done bytes h => rw [decodeFrom, if_pos h]; simp
  | case2 done bytes h hn =>
    rw [decodeFrom, if_neg h]
    split <;> simp_all
  | case3 done bytes h c rest hn _ ih =>
    rw [decodeFrom, if_neg h]
    split <;> simp_all

theorem decode_nil : decode [] = some [] := by
  rw [decode, decodeFrom]
  rfl

theorem decode_of_next? {bytes rest : Bytes} {c : Char} (h : next? bytes = some (c, rest)) :
    decode bytes = (decode rest).map (c :: ·) := by
  have hne : bytes.isEmpty ≠ true := by
    intro he
    simp [List.isEmpty_iff.mp he, next?] at h
  rw [decode, decodeFrom, if_neg hne]
  split
  · simp_all
  · rename_i c' rest' h'
    obtain ⟨rfl, rfl⟩ : c = c' ∧ rest = rest' := by simpa [h] using h'
    exact decodeFrom_append [] [c] rest

theorem decode_of_next?_none {bytes : Bytes} (hb : bytes ≠ []) (h : next? bytes = none) :
    decode bytes = none := by
  rw [decode, decodeFrom, if_neg (by simpa using hb)]
  split <;> simp_all

def encode (cs : List Char) : Bytes :=
  cs.flatMap String.utf8EncodeChar

theorem encode_append (cs ds : List Char) : encode (cs ++ ds) = encode cs ++ encode ds := by
  simp [encode]

end Text.Utf8

end EventBench
