import EventBench.Proofs.Double
import EventBench.Proofs.Measurement
import EventBench.Proofs.Text.Pattern

namespace EventBench

namespace Double

def IsPlain (x : Double) : Prop :=
  ∃ units, x = .finite false units

theorem matches_fixed (places : Nat) (hplaces : 0 < places) {x : Double} (h : x.IsPlain) :
    Text.Matches (Text.decimalPattern places) (x.fixed places) := by
  obtain ⟨units, rfl⟩ := h
  generalize hscaled : roundQuotient (units * Text.Numeral.weight places) one = scaled
  have hparts : fixedParts places units
      = (Text.Numeral.decimal (scaled / Text.Numeral.weight places),
          Text.Numeral.padded places (Text.Numeral.decimal (scaled % Text.Numeral.weight places))) := by
    simp only [fixedParts, hscaled, if_neg (Nat.ne_of_gt hplaces)]
  have hshown : (Double.finite false units).fixed places
      = Text.Numeral.decimal (scaled / Text.Numeral.weight places) ++ (".".toList
        ++ Text.Numeral.padded places (Text.Numeral.decimal (scaled % Text.Numeral.weight places))) := by
    simp only [fixed, fixedWith, hparts, if_neg (Nat.ne_of_gt hplaces)]
    rfl
  rw [hshown]
  have hrest : scaled % Text.Numeral.weight places < 10 ^ places := Nat.mod_lt _ (Nat.pow_pos (by decide))
  have hbefore := Text.Piece.digits_decimal (scaled / Text.Numeral.weight places)
  have hafter := Text.Piece.places_padded places _ hplaces hrest
  exact ⟨_, _, rfl, hbefore, _, _, rfl, rfl, Text.matches_single hafter⟩

/-- Any other number shows by a character that no number without a sign has. -/
theorem exists_mem_fixed (places : Nat) {x : Double} (h : ¬ x.IsPlain) :
    ∃ c ∈ x.fixed places, c ∈ ['-', 'a', 'f'] := by
  cases x with
  | nan => exact ⟨'a', by simp [fixed, fixedWith], by decide⟩
  | infinite negative =>
    refine ⟨'f', ?_, by decide⟩
    cases negative <;> simp [fixed, fixedWith]
  | finite negative units =>
    cases negative with
    | true => exact ⟨'-', by simp [fixed, fixedWith], by decide⟩
    | false => exact absurd ⟨units, rfl⟩ h

end Double

namespace Measurement

def schema : List Text.Piece :=
  Text.decimalPattern 2 ++ [.word " MB, ", .digits, .word " events, "]
    ++ Text.decimalPattern 3 ++ [.word "s/iter, "] ++ Text.decimalPattern 1 ++ [.word " MB/s"]

theorem not_mem_of_matches_schema {cs : List Char} (h : Text.Matches schema cs) (c : Char)
    (hc : c ∈ ['-', 'a', 'f']) : c ∉ cs := by
  intro hmem
  have hallowed := Text.allows_of_matches h hmem
  have hstrange : (['-', 'a', 'f'].all fun c => !schema.any (·.allows c)) = true := by decide
  have hrefused := List.all_eq_true.mp hstrange c hc
  simp [hallowed] at hrefused

/-- A summary has the form of the schema just when every number in it is finite and has no sign. -/
theorem matches_render_iff (m : Measurement) :
    Text.Matches schema m.render
      ↔ m.size.IsPlain ∧ 0 ≤ m.events ∧ m.perIteration.IsPlain ∧ m.throughput.IsPlain := by
  constructor
  · intro h
    have hplain (places : Nat) (x : Double) (hpart : ∀ c ∈ x.fixed places, c ∈ m.render) : x.IsPlain := by
      by_contra hx
      obtain ⟨c, hc, hstrange⟩ := Double.exists_mem_fixed places hx
      exact not_mem_of_matches_schema h c hstrange (hpart c hc)
    refine ⟨hplain 2 _ ?_, ?_, hplain 3 _ ?_, hplain 1 _ ?_⟩
    · intro c hc
      simp only [render, List.mem_append, hc, true_or]
    · by_contra hevents
      apply not_mem_of_matches_schema h '-' (by decide)
      have hminus : '-' ∈ Text.Numeral.ofInt m.events := by
        cases hn : m.events with
        | ofNat n =>
          rw [hn] at hevents
          exact absurd (Int.natCast_nonneg n) hevents
        | negSucc n => exact List.mem_cons_self
      simp only [render, List.mem_append, hminus, true_or, or_true]
    · intro c hc
      simp only [render, List.mem_append, hc, true_or, or_true]
    · intro c hc
      simp only [render, List.mem_append, hc, true_or, or_true]
  · rintro ⟨hsize, hevents, hperIteration, hthroughput⟩
    have hcount : Text.Piece.digits.Matches (Text.Numeral.ofInt m.events) := by
      rw [Text.Numeral.ofInt_of_nonneg m.events hevents]
      exact Text.Piece.digits_decimal _
    have hword (text : String) : (Text.Piece.word text).Matches text.toList := rfl
    have hmiddle : Text.Matches [.word " MB, ", .digits, .word " events, "]
        (" MB, ".toList ++ (Text.Numeral.ofInt m.events ++ " events, ".toList)) :=
      ⟨_, _, rfl, hword _, _, _, rfl, hcount, Text.matches_single (hword _)⟩
    have hsizes := Text.matches_append (Double.matches_fixed 2 (by decide) hsize) hmiddle
    have htimes := Text.matches_append (Text.matches_append hsizes (Double.matches_fixed 3 (by decide) hperIteration))
      (Text.matches_single (hword "s/iter, "))
    have hmatches := Text.matches_append (Text.matches_append htimes (Double.matches_fixed 1 (by decide) hthroughput))
      (Text.matches_single (hword " MB/s"))
    simpa only [render, schema, List.append_assoc] using hmatches

theorem sizeOf_eq (bytes : Nat) (h : bytes < Double.weight 1043) :
    sizeOf bytes = .ok (.finite false (Double.nearestUnits (bytes * Double.one) mebibyte)) := by
  have hmebibyte : mebibyte = Double.weight 20 := by decide
  have hpositive : 0 < mebibyte := by decide
  have hsplit : Double.weight 1043 * Double.one = Double.weight 2097 * Double.weight 20 := by
    rw [Double.weight_mul_one, ← Double.weight_add]
  have hle : bytes * Double.one ≤ Double.largest * mebibyte := by
    rw [hmebibyte]
    calc
      bytes * Double.one ≤ Double.weight 1043 * Double.one := Nat.mul_le_mul_right Double.one (Nat.le_of_lt h)
      _ = Double.weight 2097 * Double.weight 20 := hsplit
      _ ≤ Double.largest * Double.weight 20 := Nat.mul_le_mul_right (Double.weight 20) Double.weight_le_largest
  have hsign : decide ((bytes : Int) < 0) = false := decide_eq_false (by omega)
  rw [sizeOf, hsign, Int.natAbs_natCast, Double.ofQuotient, Double.ofUnits_of_le false hpositive hle]
  exact if_pos rfl

/-- A share of a time is a finite number with the sign of the time, and no share of no time is any time. -/
theorem share_eq (negative : Bool) (units : Nat) (iterations : Int) (hunits : units ≤ Double.largest)
    (hn : 1 ≤ iterations) (hconvert : (Double.ofInt iterations).isFinite = true) :
    ∃ part, share (.finite negative units) iterations = .ok (.finite negative part) ∧ (units = 0 → part = 0) := by
  obtain ⟨count, hofInt, hcount⟩ := Double.ofInt_of_isFinite hn hconvert
  refine ⟨Double.nearestUnits (units * Double.one) count, ?_, ?_⟩
  · rw [share, if_pos hconvert, hofInt, Double.div_of_one_le negative hunits hcount]
  · rintro rfl
    rw [Nat.zero_mul]
    exact Double.nearestUnits_zero count (Nat.lt_of_lt_of_le (Double.weight_pos 1074) hcount)

theorem rate_zero (size : Double) (negative : Bool) : rate size (.finite negative 0) = .finite false 0 := by
  have hlt : Double.zero.lt (.finite negative 0) = false := by cases negative <;> rfl
  rw [rate, hlt]
  rfl

theorem rate_of_pos (size : Nat) {part : Nat} (h : 0 < part) :
    rate (.finite false size) (.finite false part) = Double.ofUnits false (size * Double.one) part := by
  have hlt : Double.zero.lt (.finite false part) = true := by simpa [Double.lt, Double.zero, Double.toInt] using h
  rw [rate, if_pos hlt, Double.div, if_neg (Nat.ne_of_gt h)]
  rfl

theorem rate_cases (size part : Nat) (negative : Bool) (h : negative = true → part = 0) :
    (rate (.finite false size) (.finite negative part)).IsPlain ∨
      rate (.finite false size) (.finite negative part) = .infinite false := by
  by_cases hpart : part = 0
  · rw [hpart, rate_zero]
    exact .inl ⟨0, rfl⟩
  · have hpositive : negative = false := by
      cases negative with
      | false => rfl
      | true => exact absurd (h rfl) hpart
    rw [hpositive, rate_of_pos size (Nat.pos_of_ne_zero hpart), Double.ofUnits]
    split_ifs
    · exact .inl ⟨_, rfl⟩
    · exact .inr rfl

/-- What a field of a measurement takes as it is: a number that is not below zero. -/
def IsMagnitude (x : Double) : Prop :=
  x ≠ .nan ∧ x.lt Double.zero = false

theorem toMagnitude_of_isMagnitude {x : Double} (h : IsMagnitude x) : (Field.Value.double x).toMagnitude = .ok x := by
  have hrefused : ¬ (x = .nan ∨ x.lt Double.zero = true) := by
    rw [h.2]
    simp [h.1]
  simp only [Field.Value.toMagnitude, Field.Value.toDouble]
  rw [if_neg hrefused]

theorem isMagnitude_finite (negative : Bool) (units : Nat) (h : negative = true → units = 0) :
    IsMagnitude (.finite negative units) := by
  refine ⟨by simp, ?_⟩
  cases negative with
  | false => simp [Double.lt, Double.zero, Double.toInt]
  | true => simp [Double.lt, Double.zero, Double.toInt, h rfl]

theorem ofFields_of_isMagnitude {m : Measurement} (hsize : IsMagnitude m.size) (hevents : 0 ≤ m.events)
    (hperIteration : IsMagnitude m.perIteration) (hthroughput : IsMagnitude m.throughput) :
    ofFields m.toFields = .ok m := by
  have hcount : (Field.Value.integer m.events).toOffset = .ok m.events := by
    simp only [Field.Value.toOffset, Field.Value.toInteger]
    rw [if_neg (by omega)]
  have hread₁ := (Fields.read_ok_iff m.toFields "size_mb" (.error .missing) Field.Value.toMagnitude _ _ rfl).mpr
    (toMagnitude_of_isMagnitude hsize)
  have hread₂ := (Fields.read_ok_iff m.toFields "event_count" (.error .missing) Field.Value.toOffset _ _ rfl).mpr hcount
  have hread₃ :=
    (Fields.read_ok_iff m.toFields "per_iter_seconds" (.error .missing) Field.Value.toMagnitude _ _ rfl).mpr
      (toMagnitude_of_isMagnitude hperIteration)
  have hread₄ := (Fields.read_ok_iff m.toFields "throughput_mb_s" (.error .missing) Field.Value.toMagnitude _ _ rfl).mpr
    (toMagnitude_of_isMagnitude hthroughput)
  simp only [ofFields, hread₁, hread₂, hread₃, hread₄]

theorem ofRun_of_isMagnitude {bytes events iterations : Int} {total size perIteration : Double} (hn : 1 ≤ iterations)
    (hsize : sizeOf bytes = .ok size) (hshare : share total iterations = .ok perIteration) (hevents : 0 ≤ events)
    (hsize' : IsMagnitude size) (hshare' : IsMagnitude perIteration) (hrate : IsMagnitude (rate size perIteration)) :
    ofRun bytes events total iterations = .ok ⟨size, events, perIteration, rate size perIteration⟩ := by
  have hfields := ofFields_of_isMagnitude (m := ⟨size, events, perIteration, rate size perIteration⟩)
    hsize' hevents hshare' hrate
  rw [ofRun, if_neg (by omega), hsize, hshare]
  dsimp only [bind, Except.bind]
  rw [hfields]
  rfl

/-- A run whose clock does not go back is measured, whatever its input, its events and the number of its passes. The
summary has the form of the schema unless the throughput is infinite or the time is a negative zero. -/
theorem ofRun_schema {x y : Double} (bytes events : Nat) (iterations : Int) (hx : x.Bounded) (hy : y.Bounded)
    (hnonneg : x.lt Double.zero = false) (hle : y.lt x = false) (hbytes : bytes < Double.weight 1043)
    (hn : 1 ≤ iterations) (hconvert : (Double.ofInt iterations).isFinite = true) :
    ∃ size perIteration, sizeOf bytes = .ok size ∧ share (y.sub x) iterations = .ok perIteration ∧
      ofRun bytes events (y.sub x) iterations = .ok ⟨size, events, perIteration, rate size perIteration⟩ ∧
      (Text.Matches schema (render ⟨size, events, perIteration, rate size perIteration⟩)
        ↔ (rate size perIteration).isFinite = true ∧ ¬ (x = Double.zero ∧ y = Double.zero.neg)) := by
  obtain ⟨negative, units, hsub, hunits, hsign, hzero⟩ := Double.sub_of_le hx hy hnonneg hle
  obtain ⟨part, hshare, hpart⟩ := share_eq negative units iterations hunits hn hconvert
  have hsize := sizeOf_eq bytes hbytes
  rw [hsub]
  generalize Double.nearestUnits (bytes * Double.one) mebibyte = size at hsize
  have hrate := rate_cases size part negative fun h => hpart (hzero h)
  refine ⟨_, _, hsize, hshare, ?_, ?_⟩
  · apply ofRun_of_isMagnitude hn hsize hshare (Int.natCast_nonneg events)
    · exact isMagnitude_finite false size (by simp)
    · exact isMagnitude_finite negative part fun h => hpart (hzero h)
    · rcases hrate with ⟨quotient, hquotient⟩ | hinfinite
      · rw [hquotient]
        exact isMagnitude_finite false quotient (by simp)
      · rw [hinfinite]
        exact ⟨by simp, rfl⟩
  · have hplain : (Double.finite negative part).IsPlain ↔ ¬ (x = Double.zero ∧ y = Double.zero.neg) := by
      rw [← hsign, Bool.not_eq_true]
      constructor
      · rintro ⟨units', heq⟩
        exact (Double.finite.inj heq).1
      · rintro rfl
        exact ⟨part, rfl⟩
    have hfinite : (rate (.finite false size) (.finite negative part)).IsPlain
        ↔ (rate (.finite false size) (.finite negative part)).isFinite = true := by
      rcases hrate with ⟨quotient, hquotient⟩ | hinfinite
      · simp [hquotient, Double.IsPlain, Double.isFinite]
      · simp [hinfinite, Double.IsPlain, Double.isFinite]
    rw [matches_render_iff, hplain, hfinite]
    constructor
    · rintro ⟨-, -, hapart, hquotient⟩
      exact ⟨hquotient, hapart⟩
    · rintro ⟨hquotient, hapart⟩
      exact ⟨⟨size, rfl⟩, Int.natCast_nonneg events, hapart, hquotient⟩

/-- The throughput of an input of less than 2ᵏ bytes is finite if a pass takes 2ᵏ⁻¹⁰⁴³ seconds or more. -/
theorem rate_isFinite_of_le {bytes part : Nat} {size : Double} (hsize : sizeOf bytes = .ok size)
    (hbytes : bytes < Double.weight 1043) (k : Nat) (hk : bytes < Double.weight k)
    (hpart : Double.weight (k + 31) ≤ part) : (rate size (.finite false part)).isFinite = true := by
  have hpositive : 0 < part := Nat.lt_of_lt_of_le (Double.weight_pos (k + 31)) hpart
  have hmebibyte : mebibyte = Double.weight 20 := by decide
  have hunits : Double.nearestUnits (bytes * Double.one) mebibyte ≤ Double.weight (k + 1054) := by
    apply Double.nearestUnits_le_weight (by decide)
    rw [hmebibyte, ← Double.weight_add]
    calc
      bytes * Double.one ≤ Double.weight k * Double.one := Nat.mul_le_mul_right Double.one (Nat.le_of_lt hk)
      _ = Double.weight (k + 1054 + 20) := Double.weight_mul_one k
  have hle : Double.nearestUnits (bytes * Double.one) mebibyte * Double.one ≤ Double.largest * part := by
    calc
      _ ≤ Double.weight (k + 1054) * Double.one := Nat.mul_le_mul_right Double.one hunits
      _ = Double.weight 2097 * Double.weight (k + 31) := by
        rw [Double.weight_mul_one, ← Double.weight_add]
        exact congrArg Double.weight (by omega)
      _ ≤ Double.largest * part := Nat.mul_le_mul Double.weight_le_largest hpart
  rw [sizeOf_eq bytes hbytes] at hsize
  obtain rfl := Except.ok.inj hsize
  rw [rate_of_pos _ hpositive, Double.ofUnits_of_le false hpositive hle]
  rfl

end Measurement

end EventBench
