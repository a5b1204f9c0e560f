import EventBench.Benchmark.Report
import EventBench.Proofs.Console
import EventBench.Proofs.Measurement

namespace EventBench.Benchmark.Report

/-- What lines say under a heading. -/
def told (heading : String) (lines : List String) : List (List Char) :=
  lines.filterMap fun line =>
    if heading.toList.isPrefixOf line.toList then some (line.toList.drop heading.toList.length) else none

/-- Two beginnings of lines that no line has both. -/
def clash (heading word : String) : Bool :=
  !heading.toList.isPrefixOf word.toList && !word.toList.isPrefixOf heading.toList

section

variable {heading word : String}

theorem told_nil : told heading [] = [] := rfl

theorem told_append (lines more : List String) :
    told heading (lines ++ more) = told heading lines ++ told heading more :=
  List.filterMap_append

theorem told_same (value : String) (rest : List String) :
    told heading ((heading ++ value) :: rest) = value.toList :: told heading rest := by
  have hprefix : heading.toList.isPrefixOf (heading ++ value).toList = true := by
    rw [String.toList_append, List.isPrefixOf_iff_prefix]
    exact List.prefix_append _ _
  rw [told, List.filterMap_cons, if_pos hprefix, String.toList_append, List.drop_left]
  rfl

theorem told_constant {line : String} (h : heading.toList.isPrefixOf line.toList = false) (rest : List String) :
    told heading (line :: rest) = told heading rest := by
  rw [told, List.filterMap_cons, if_neg (Bool.not_eq_true _ ▸ h)]
  rfl

theorem told_rule (h : heading.toList.head? = some ' ') (rest : List String) :
    told heading (rule :: rest) = told heading rest := by
  obtain ⟨cs, hcs⟩ := List.head?_eq_some_iff.mp h
  have hrule : rule.toList = '=' :: List.replicate 59 '=' := String.toList_ofList.trans List.replicate_succ
  have hfirst : (' ' == '=') = false := by decide
  apply told_constant
  rw [hcs, hrule, List.isPrefixOf_cons_cons, hfirst, Bool.false_and]

theorem told_other (h : clash heading word = true) (value : String) (rest : List String) :
    told heading ((word ++ value) :: rest) = told heading rest := by
  obtain ⟨hword, hheading⟩ := Bool.and_eq_true_iff.mp h
  apply told_constant
  rw [← Bool.not_eq_true, List.isPrefixOf_iff_prefix, String.toList_append]
  intro hline
  rcases List.prefix_or_prefix_of_prefix hline (List.prefix_append word.toList value.toList) with hbegins | hbegins
  · rw [List.isPrefixOf_iff_prefix.mpr hbegins] at hword
    cases hword
  · rw [List.isPrefixOf_iff_prefix.mpr hbegins] at hheading
    cases hheading

end

/-- What lines say about a benchmark: the size of its input, the events of its last pass, and a warning just if the
numbers of events drifted. -/
structure Tells (lines : List String) (size events : Nat) (drifted : Prop) : Prop where
  size : told "  Input size:        " lines = [Text.Numeral.decimal size ++ " bytes".toList]
  events : told "  Events per parse:  " lines = [Text.Numeral.decimal events]
  warning : told "  WARNING: " lines = ["event count varied between iterations".toList] ∧ drifted ∨
    told "  WARNING: " lines = [] ∧ ¬ drifted

theorem told_size (r : Result) :
    told "  Input size:        " (lines r) = [Text.Numeral.decimal r.inputSize ++ " bytes".toList] := by
  have hwarning : told "  Input size:        " (if r.isSteady = true then [] else warning) = [] := by
    cases r.isSteady <;> decide
  rw [lines, told_append, hwarning]
  simp (disch := decide) only [String.append_assoc, ↓told_rule, told_other, told_constant, told_same, told_nil,
    String.toList_append, String.toList_ofList, List.append_nil]

theorem told_events (r : Result) : told "  Events per parse:  " (lines r) = [Text.Numeral.decimal r.eventsPerPass] := by
  have hwarning : told "  Events per parse:  " (if r.isSteady = true then [] else warning) = [] := by
    cases r.isSteady <;> decide
  rw [lines, told_append, hwarning]
  simp (disch := decide) only [String.append_assoc, ↓told_rule, told_other, told_constant, told_same, told_nil,
    String.toList_ofList, List.append_nil]

theorem told_warning (r : Result) : told "  WARNING: " (lines r)
    = if r.isSteady = true then [] else ["event count varied between iterations".toList] := by
  have hwarning : told "  WARNING: " (if r.isSteady = true then [] else warning)
      = if r.isSteady = true then [] else ["event count varied between iterations".toList] := by
    cases r.isSteady <;> decide
  rw [lines, told_append, hwarning]
  simp (disch := decide) only [String.append_assoc, ↓told_rule, told_other, told_constant, told_nil, List.nil_append]

theorem tells_lines (r : Result) (drifted : Prop) (h : r.isSteady = true ↔ ¬ drifted) :
    Tells (lines r) r.inputSize r.eventsPerPass drifted where
  size := told_size r
  events := told_events r
  warning := by
    rw [told_warning]
    by_cases hsteady : r.isSteady = true
    · exact .inr ⟨if_pos hsteady, h.mp hsteady⟩
    · exact .inl ⟨if_neg hsteady, not_not.mp (mt h.mpr hsteady)⟩

/-- Lines that say nothing under any of these headings change nothing. -/
theorem Tells.append {before more : List String} {size events : Nat} {drifted : Prop}
    (h : Tells before size events drifted) (hsize : told "  Input size:        " more = [])
    (hevents : told "  Events per parse:  " more = []) (hwarning : told "  WARNING: " more = []) :
    Tells (before ++ more) size events drifted where
  size := by rw [told_append, hsize, List.append_nil, h.size]
  events := by rw [told_append, hevents, List.append_nil, h.events]
  warning := by
    rw [told_append, hwarning, List.append_nil]
    exact h.warning

section

open Console (Plain plain_ofList)

theorem isAscii_of_isDigit {c : Char} (h : c.isDigit = true) : isAscii c = true := by
  have hnine : '9'.toNat = 0x39 := rfl
  simp only [Char.isDigit_iff_toNat, isAscii, decide_eq_true_eq] at h ⊢
  omega

theorem isAscii_of_isFixedDigit {c : Char} (h : Measurement.isFixedDigit c = true) : isAscii c = true := by
  rw [Measurement.isFixedDigit, Bool.or_eq_true] at h
  rcases h with h | h
  · exact isAscii_of_isDigit h
  · have hcases : c = '-' ∨ c = '.' ∨ c = 'i' ∨ c = 'n' ∨ c = 'f' ∨ c = 'a' := by simpa using h
    rcases hcases with rfl | rfl | rfl | rfl | rfl | rfl <;> decide

theorem mem_grouped {c : Char} {digits : List Char} (h : c ∈ Text.Numeral.grouped digits) : c = ',' ∨ c ∈ digits := by
  fun_induction Text.Numeral.grouped digits with
  | case1 => exact .inr h
  | case2 d => exact .inr h
  | case3 d ds _ _ ih =>
    rcases List.mem_cons.mp h with rfl | h
    · exact .inr List.mem_cons_self
    · rcases List.mem_cons.mp h with rfl | h
      · exact .inl rfl
      · exact (ih h).imp_right (List.mem_cons_of_mem d)
  | case4 d ds _ _ ih =>
    rcases List.mem_cons.mp h with rfl | h
    · exact .inr List.mem_cons_self
    · exact (ih h).imp_right (List.mem_cons_of_mem d)

theorem plain_decimal (n : Nat) : Plain (String.ofList (Text.Numeral.decimal n)) :=
  plain_ofList fun _ hc => isAscii_of_isDigit (Text.Numeral.isDigit_of_mem_decimal hc)

theorem plain_ofInt (n : Int) : Plain (String.ofList (Text.Numeral.ofInt n)) := by
  cases n with
  | ofNat n => exact plain_decimal n
  | negSucc n =>
    apply plain_ofList
    intro c hc
    rcases List.mem_cons.mp hc with rfl | hc
    · rfl
    · exact isAscii_of_isDigit (Text.Numeral.isDigit_of_mem_decimal hc)

theorem plain_fixed (places : Nat) (x : Double) : Plain (String.ofList (x.fixed places)) :=
  plain_ofList fun c hc => isAscii_of_isFixedDigit (Measurement.isFixedDigit_of_mem_fixed places x c hc)

theorem plain_rounded (x : Double) : Plain (String.ofList x.rounded) := by
  apply plain_ofList
  intro c hc
  rcases Measurement.isFixedDigit_of_mem_fixedWith Text.Numeral.grouped 0 x c hc with hc | ⟨digits, hdigits, hc⟩
  · exact isAscii_of_isFixedDigit hc
  · rcases mem_grouped hc with rfl | hc
    · rfl
    · exact isAscii_of_isDigit (hdigits c hc)

theorem plain_micros (x : Double) : Plain (micros x) := by
  rw [micros, String.ofList_append]
  exact (plain_fixed 3 (x.mul (Double.ofInt 1000))).append (by decide)

theorem exists_eq_heading_append (r : Result) :
    ∃ later, lines r = (lines r).take 4 ++ ("  Parser:            " ++ r.label) :: later :=
  ⟨(lines r).drop 5, rfl⟩

theorem plain_rule : Plain rule := by
  apply plain_ofList
  intro c hc
  rw [List.eq_of_mem_replicate hc]
  rfl

theorem spelt_heading_ne (r : Result) (more : List String) :
    Console.spelt ((lines r).take 4) ≠ Console.spelt (lines r ++ more) := by
  obtain ⟨later, hlines⟩ := exists_eq_heading_append r
  intro h
  rw [hlines, List.append_assoc, List.cons_append, Console.spelt_append] at h
  have hnil := List.self_eq_append_right.mp h
  exact Console.spelt_cons_ne_nil _ _ hnil

theorem plain_heading {r : Result} (hname : Plain r.name) : ∀ line ∈ (lines r).take 4, Plain line := by
  have htake : (lines r).take 4 = ["", rule, "Benchmark: " ++ r.name, rule] := rfl
  rw [htake]
  simp only [List.forall_mem_cons]
  exact ⟨by decide, plain_rule, .append (by decide) hname, plain_rule, List.forall_mem_nil _⟩

theorem plain_lines {r : Result} (hname : Plain r.name) (hlabel : Plain r.label) : ∀ line ∈ lines r, Plain line := by
  rw [lines, List.forall_mem_append]
  constructor
  · simp only [List.forall_mem_cons]
    exact ⟨by decide, plain_rule, .append (by decide) hname, plain_rule,
      .append (by decide) hlabel,
      .append (.append (by decide) (plain_decimal _)) (by decide),
      .append (by decide) (plain_decimal _),
      .append (by decide) (plain_ofInt _),
      .append (.append (by decide) (plain_fixed 2 _)) (by decide),
      .append (by decide) (plain_rounded _),
      by decide, by decide,
      .append (by decide) (plain_micros _), .append (by decide) (plain_micros _),
      .append (by decide) (plain_micros _), .append (by decide) (plain_micros _),
      .append (by decide) (plain_micros _), .append (by decide) (plain_micros _),
      .append (by decide) (plain_micros _), List.forall_mem_nil _⟩
  · cases r.isSteady <;> decide

end

end EventBench.Benchmark.Report
