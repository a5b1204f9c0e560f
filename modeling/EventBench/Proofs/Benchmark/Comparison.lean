import Mathlib.Data.List.Nodup
import Mathlib.Data.List.Perm.Subperm
import EventBench.Proofs.Benchmark

namespace EventBench.Benchmark

namespace Results

variable {α : Type}

/-- A label that is there keeps its place, and a new one comes last. -/
theorem map_fst_put (label : String) (a : α) (kept : List (String × α)) :
    (put label a kept).map Prod.fst
      = if label ∈ kept.map Prod.fst then kept.map Prod.fst else kept.map Prod.fst ++ [label] := by
  induction kept with
  | nil => rfl
  | cons entry rest ih =>
    obtain ⟨l, b⟩ := entry
    rw [put]
    by_cases h : l = label
    · simp [h]
    · have hne : label ≠ l := Ne.symm h
      simp only [if_neg h, List.map_cons, ih, List.mem_cons, hne, false_or]
      split_ifs <;> rfl

theorem nodup_put {kept : List (String × α)} (h : (kept.map Prod.fst).Nodup) (label : String) (a : α) :
    ((put label a kept).map Prod.fst).Nodup := by
  rw [map_fst_put]
  split_ifs with hmem
  · exact h
  · refine List.nodup_append.mpr ⟨h, List.nodup_singleton label, ?_⟩
    rintro l hl _ hlabel rfl
    exact hmem (List.mem_singleton.mp hlabel ▸ hl)

theorem mem_put {kept : List (String × α)} (h : (kept.map Prod.fst).Nodup) (label : String) (a : α)
    (entry : String × α) :
    entry ∈ put label a kept ↔ entry = (label, a) ∨ (entry.1 ≠ label ∧ entry ∈ kept) := by
  induction kept with
  | nil => simp [put]
  | cons first rest ih =>
    obtain ⟨l, b⟩ := first
    obtain ⟨habsent, hrest⟩ := List.nodup_cons.mp h
    rw [put]
    by_cases hl : l = label
    · subst hl
      have hother : entry ∈ rest → entry.1 ≠ l := by
        intro hmem hlabel
        exact habsent (List.mem_map.mpr ⟨entry, hmem, hlabel⟩)
      rw [if_pos rfl, List.mem_cons, List.mem_cons]
      constructor
      · rintro (rfl | hmem)
        · exact .inl rfl
        · exact .inr ⟨hother hmem, .inr hmem⟩
      · rintro (rfl | ⟨hne, rfl | hmem⟩)
        · exact .inl rfl
        · exact absurd rfl hne
        · exact .inr hmem
    · rw [if_neg hl, List.mem_cons, List.mem_cons, ih hrest]
      constructor
      · rintro (rfl | rfl | ⟨hne, hmem⟩)
        · exact .inr ⟨hl, .inl rfl⟩
        · exact .inl rfl
        · exact .inr ⟨hne, .inr hmem⟩
      · rintro (rfl | ⟨hne, rfl | hmem⟩)
        · exact .inr (.inl rfl)
        · exact .inl rfl
        · exact .inr (.inr ⟨hne, hmem⟩)

end Results

def IsLast (results : List Result) (r : Result) : Prop :=
  ∃ before behind, results = before ++ r :: behind ∧ ∀ s ∈ behind, s.label ≠ r.label

theorem isLast_snoc (results : List Result) (r s : Result) :
    IsLast (results ++ [s]) r ↔ r = s ∨ (r.label ≠ s.label ∧ IsLast results r) := by
  constructor
  · rintro ⟨before, behind, hsplit, hbehind⟩
    rcases behind.eq_nil_or_concat with rfl | ⟨between, last, rfl⟩
    · obtain ⟨-, hlast⟩ := List.append_inj' hsplit rfl
      exact .inl (List.singleton_inj.mp hlast).symm
    · rw [List.concat_eq_append] at hsplit hbehind
      rw [← List.cons_append, ← List.append_assoc] at hsplit
      obtain ⟨hfront, hlast⟩ := List.append_inj' hsplit rfl
      obtain rfl := List.singleton_inj.mp hlast
      exact .inr ⟨(hbehind s (by simp)).symm, before, between, hfront, fun t ht => hbehind t (by simp [ht])⟩
  · rintro (rfl | ⟨hne, before, behind, rfl, hbehind⟩)
    · exact ⟨results, [], rfl, by simp⟩
    · refine ⟨before, behind ++ [s], by simp, ?_⟩
      intro t ht
      rcases List.mem_append.mp ht with ht | ht
      · exact hbehind t ht
      · rw [List.mem_singleton.mp ht]
        exact hne.symm

/-- What is kept of results that came one after the other: a place for each label, in the order in which the labels
came first, and there the last result of that label. -/
structure Keeps (results : List Result) (kept : Results) : Prop where
  labels : kept.map Prod.fst = (results.map Result.label).eraseDups
  nodup : (kept.map Prod.fst).Nodup
  mem_iff : ∀ label r, (label, r) ∈ kept ↔ r.label = label ∧ IsLast results r

section

variable {results : List Result} {kept : Results}

theorem keeps_nil : Keeps [] [] :=
  ⟨rfl, List.nodup_nil, by simp [IsLast]⟩

theorem Keeps.put (h : Keeps results kept) (r : Result) : Keeps (results ++ [r]) (Results.put r.label r kept) := by
  refine ⟨?_, Results.nodup_put h.nodup r.label r, ?_⟩
  · have hmem : r.label ∈ kept.map Prod.fst ↔ r.label ∈ results.map Result.label := by
      rw [h.labels, List.mem_eraseDups]
    rw [Results.map_fst_put, List.map_append, List.eraseDups_append, ← h.labels]
    by_cases hold : r.label ∈ results.map Result.label
    · rw [if_pos (hmem.mpr hold)]
      simp only [List.map_cons, List.map_nil, List.removeAll, List.filter_cons, List.filter_nil, List.elem_eq_mem, hold,
        decide_true, Bool.not_true, Bool.false_eq_true, if_false, List.eraseDups_nil, List.append_nil]
    · rw [if_neg (mt hmem.mp hold)]
      simp only [List.map_cons, List.map_nil, List.removeAll, List.filter_cons, List.filter_nil, List.elem_eq_mem, hold,
        decide_false, Bool.not_false, if_true, List.eraseDups_cons, List.eraseDups_nil]
  · intro label s
    rw [Results.mem_put h.nodup, isLast_snoc, h.mem_iff, Prod.mk.injEq]
    constructor
    · rintro (⟨rfl, rfl⟩ | ⟨hne, rfl, hlast⟩)
      · exact ⟨rfl, .inl rfl⟩
      · exact ⟨rfl, .inr ⟨hne, hlast⟩⟩
    · rintro ⟨rfl, rfl | ⟨hne, hlast⟩⟩
      · exact .inl ⟨rfl, rfl⟩
      · exact .inr ⟨hne, rfl, hlast⟩

theorem Keeps.putAll (h : Keeps results kept) (more : List Result) :
    Keeps (results ++ more) (more.foldl (fun kept r => Results.put r.label r kept) kept) := by
  induction more generalizing results kept with
  | nil => rwa [List.append_nil]
  | cons r more ih =>
    have hmore := ih (h.put r)
    rwa [List.append_assoc] at hmore

theorem Keeps.label_of_mem (h : Keeps results kept) {entry : String × Result} (hmem : entry ∈ kept) :
    entry.2.label = entry.1 :=
  ((h.mem_iff entry.1 entry.2).mp hmem).1

/-- All results are kept, one for one, just if no label comes twice. -/
theorem Keeps.subperm_iff (h : Keeps results kept) :
    results.Subperm (kept.map Prod.snd) ↔ (results.map Result.label).Nodup := by
  constructor
  · rintro ⟨found, hperm, hsublist⟩
    have hlabels : (kept.map Prod.snd).map Result.label = kept.map Prod.fst := by
      rw [List.map_map]
      exact List.map_congr_left fun entry hmem => h.label_of_mem hmem
    have hfound := hsublist.map Result.label
    rw [hlabels] at hfound
    exact (hperm.map Result.label).nodup_iff.mp (h.nodup.sublist hfound)
  · intro hnodup
    apply List.subperm_of_subset (List.Nodup.of_map Result.label hnodup)
    intro r hr
    obtain ⟨before, behind, rfl⟩ := List.append_of_mem hr
    have hlast : IsLast (before ++ r :: behind) r := by
      refine ⟨before, behind, rfl, ?_⟩
      intro s hs hlabel
      rw [List.map_append, List.map_cons] at hnodup
      have hbehind := (List.nodup_cons.mp (List.Nodup.of_append_right hnodup)).1
      exact hbehind (hlabel ▸ List.mem_map_of_mem hs)
    exact List.mem_map_of_mem (f := Prod.snd) ((h.mem_iff r.label r).mpr ⟨rfl, hlast⟩)

end

/-- The passes that a run starts if none of them fails. -/
def Plan.passes (p : Plan) : Nat :=
  p.warmup.toNat + p.iterations.toNat

/-- The readings that it takes of the clock. -/
def Plan.readings (p : Plan) : Nat :=
  2 * p.iterations.toNat

/-- The runs of a comparison as long as none of them fails. Each goes on where all runs before it left the clock and
where those of its own class left that class. -/
def turns (plan : Plan) (classes : Nat → ParserClass) (data : Bytes) (clock : Clock) (started : Started)
    (picks : List Nat) : List (Timed Result) :=
  picks.mapIdx fun i c =>
    run plan (classes c) data defaultName (clock.after (i * plan.readings))
      (started c + (picks.take i).count c * plan.passes)

section

variable {plan : Plan} {classes : Nat → ParserClass} {data : Bytes} {clock : Clock} {started : Started}

theorem turns_cons (c : Nat) (rest : List Nat) :
    turns plan classes data clock started (c :: rest) =
      run plan (classes c) data defaultName clock (started c) ::
        turns plan classes data (clock.after plan.readings) (started.add c plan.passes) rest := by
  have hclock : clock.after (0 * plan.readings) = clock := by
    funext j
    rw [Clock.after, Nat.zero_mul, Nat.zero_add]
  have hafter (i : Nat) : clock.after ((i + 1) * plan.readings)
      = (clock.after plan.readings).after (i * plan.readings) := by
    funext j
    rw [Clock.after, Clock.after, Clock.after, Nat.add_one_mul, Nat.add_comm (i * _), Nat.add_assoc]
  have hstarted (i d : Nat) : started d + ((c :: rest).take (i + 1)).count d * plan.passes
      = started.add c plan.passes d + (rest.take i).count d * plan.passes := by
    rw [List.take_succ_cons, List.count_cons, Started.add]
    by_cases hd : d = c
    · subst hd
      simp [Nat.add_one_mul, Nat.add_assoc, Nat.add_comm plan.passes]
    · simp [hd, Ne.symm hd]
  rw [turns, List.mapIdx_cons, hclock, List.take_zero, List.count_nil, Nat.zero_mul, Nat.add_zero]
  simp only [hafter, hstarted]
  rfl

theorem turns_take (picks : List Nat) (m : Nat) :
    turns plan classes data clock started (picks.take m) = (turns plan classes data clock started picks).take m := by
  induction picks generalizing clock started m with
  | nil => simp [turns]
  | cons c rest ih =>
    cases m with
    | zero => rfl
    | succ m => rw [List.take_succ_cons, turns_cons, turns_cons, List.take_succ_cons, ih]

/-- A run with a result leaves the clock and the class where the next run is told to begin. -/
theorem run_of_ok {parser : ParserClass} {name : String} {k : Nat} {r : Result}
    (h : (run plan parser data name clock k).result = .ok r) :
    run plan parser data name clock k =
      { result := .ok r, started := plan.passes, readings := plan.readings, records := [r.record] } ∧
    r.label = parser.label := by
  obtain ⟨hplan, hpasses, timing, htiming, rfl⟩ := (run_eq_ok_iff plan parser data name clock k r).mp h
  exact ⟨run_completed plan parser data name clock k timing hplan hpasses htiming, rfl⟩

/-- One step of a comparison: a run with a result puts it under its label, and the rest goes on from there. -/
theorem compareFrom_cons {r : Result} {c : Nat}
    (h : (run plan (classes c) data defaultName clock (started c)).result = .ok r) (kept : Results) (rest : List Nat) :
    compareFrom plan classes data clock started kept (c :: rest) =
      let more := compareFrom plan classes data (clock.after plan.readings) (started.add c plan.passes)
        (Results.put r.label r kept) rest
      ⟨more.result, more.runs + 1,
        (run plan (classes c) data defaultName clock (started c)).records ++ more.records⟩ := by
  rw [compareFrom, (run_of_ok h).1]

theorem compareFrom_completed (picks : List Nat) (results : List Result) (kept : Results)
    (h : (turns plan classes data clock started picks).map Timed.result = results.map .ok) :
    compareFrom plan classes data clock started kept picks =
      ⟨.ok (results.foldl (fun kept r => Results.put r.label r kept) kept), picks.length,
        (turns plan classes data clock started picks).flatMap Timed.records⟩ := by
  induction picks generalizing clock started results kept with
  | nil =>
    obtain rfl : results = [] := by simpa [turns] using h.symm
    rfl
  | cons c rest ih =>
    rw [turns_cons, List.map_cons] at h
    obtain ⟨r, results, rfl, hr, hrest⟩ := List.map_eq_cons_iff.mp h.symm
    rw [compareFrom_cons hr.symm, ih results _ hrest.symm, turns_cons]
    rfl

theorem compareFrom_failed (picks : List Nat) (before behind : List (Timed Result)) (one : Timed Result) (f : Fault)
    (kept : Results) (h : turns plan classes data clock started picks = before ++ one :: behind)
    (hbefore : ∀ earlier ∈ before, earlier.result.isOk = true) (hfail : one.result = .error f) :
    compareFrom plan classes data clock started kept picks =
      ⟨.error f, before.length + 1, (before ++ [one]).flatMap Timed.records⟩ := by
  induction before generalizing clock started picks kept with
  | nil =>
    cases picks with
    | nil => cases h
    | cons c rest =>
      rw [turns_cons] at h
      obtain ⟨rfl, -⟩ := List.cons.inj h
      simp [compareFrom, hfail]
  | cons first before ih =>
    cases picks with
    | nil => cases h
    | cons c rest =>
      rw [turns_cons] at h
      obtain ⟨rfl, hrest⟩ := List.cons.inj h
      obtain ⟨hfirst, hbefore⟩ := List.forall_mem_cons.mp hbefore
      obtain ⟨r, hr⟩ := exists_ok_of_isOk hfirst
      rw [compareFrom_cons hr, ih rest _ hrest hbefore]
      rfl

theorem exists_results_of_isOk (runs : List (Timed Result)) (h : ∀ one ∈ runs, one.result.isOk = true) :
    ∃ results : List Result, runs.map Timed.result = results.map .ok := by
  induction runs with
  | nil => exact ⟨[], rfl⟩
  | cons one runs ih =>
    obtain ⟨hone, hrest⟩ := List.forall_mem_cons.mp h
    obtain ⟨r, hr⟩ := exists_ok_of_isOk hone
    obtain ⟨results, hresults⟩ := ih hrest
    exact ⟨r :: results, by rw [List.map_cons, List.map_cons, hr, hresults]⟩

theorem map_label_of_turns (picks : List Nat) (results : List Result)
    (h : (turns plan classes data clock started picks).map Timed.result = results.map .ok) :
    results.map Result.label = picks.map fun c => (classes c).label := by
  induction picks generalizing clock started results with
  | nil =>
    obtain rfl : results = [] := by simpa [turns] using h.symm
    rfl
  | cons c rest ih =>
    rw [turns_cons, List.map_cons] at h
    obtain ⟨r, results, rfl, hr, hrest⟩ := List.map_eq_cons_iff.mp h.symm
    rw [List.map_cons, List.map_cons, (run_of_ok hr.symm).2, ih results hrest.symm]

end

/-- A comparison is one run for each pick, in order. If all of them have results, it keeps one result for each label,
where the label came first and what it came with last; so nothing is lost just if no label comes twice. The first run
that fails is the last to be started: its fault is all that is left, and what would be run behind it makes no
difference. -/
theorem last_of_label_kept (plan : Plan) (classes : Nat → ParserClass) (data : Bytes) (clock : Clock) (picks : List Nat)
    (hplan : 1 ≤ plan.iterations) :
    let runs := turns plan classes data clock (fun _ => 0) picks
    let comparison := compare plan classes data clock picks
    ((∀ one ∈ runs, one.result.isOk = true) →
      ∃ (results : List Result) (kept : Results),
        runs.map Timed.result = results.map .ok ∧
        results.map Result.label = picks.map (fun c => (classes c).label) ∧
        comparison = ⟨.ok kept, picks.length, runs.flatMap Timed.records⟩ ∧
        Keeps results kept ∧
        (results.Subperm (kept.map Prod.snd) ↔ (picks.map fun c => (classes c).label).Nodup)) ∧
    (∀ before one behind f, runs = before ++ one :: behind → (∀ earlier ∈ before, earlier.result.isOk = true) →
      one.result = .error f →
      comparison = ⟨.error f, before.length + 1, (before ++ [one]).flatMap Timed.records⟩ ∧
      compare plan classes data clock (picks.take (before.length + 1)) = comparison) := by
  intro runs comparison
  have hfault : plan.fault? = none := if_neg (Int.not_lt.mpr hplan)
  have hcompare (picks : List Nat) : compare plan classes data clock picks
      = compareFrom plan classes data clock (fun _ => 0) [] picks := by rw [compare, hfault]
  constructor
  · intro hruns
    obtain ⟨results, hresults⟩ := exists_results_of_isOk runs hruns
    have hlabels := map_label_of_turns picks results hresults
    have hkeeps := keeps_nil.putAll results
    refine ⟨results, _, hresults, hlabels, ?_, hkeeps, ?_⟩
    · exact (hcompare picks).trans (compareFrom_completed picks results [] hresults)
    · rw [← hlabels]
      exact hkeeps.subperm_iff
  · intro before one behind f hsplit hbefore hfail
    have hwhole := compareFrom_failed picks before behind one f [] hsplit hbefore hfail
    have hcut : turns plan classes data clock (fun _ => 0) (picks.take (before.length + 1)) = before ++ [one] :=
      calc
        _ = runs.take (before.length + 1) := turns_take picks (before.length + 1)
        _ = before ++ [one] := by
          rw [hsplit, List.take_append, List.take_of_length_le (Nat.le_succ _)]
          simp
    have hpart := compareFrom_failed _ before [] one f [] hcut hbefore hfail
    exact ⟨(hcompare picks).trans hwhole, (hcompare _).trans (hpart.trans (hwhole.symm.trans (hcompare picks).symm))⟩

/-- A class that comes again reports more events than before and takes the place that its label has; another class of
the same label leaves no trace, and a class that fails leaves nothing of the runs around it. -/
theorem last_of_label_kept_again :
    let late : Fault := .raised .value "late"
    let reporting (label : String) (size : Nat → Nat) (failure : Option Fault) : ParserClass :=
      ⟨"Trial", label, "trials", fun i _ => .ofEvents (List.replicate (size i) ⟨"A", none, 0, 0⟩) failure⟩
    let classes : Nat → ParserClass := fun c =>
      match c with
      | 0 => reporting "growing" (· + 1) none
      | 1 => reporting "steady" (fun _ => 1) none
      | 2 => reporting "growing" (fun _ => 7) none
      | _ => reporting "failing" (fun _ => 1) (some late)
    let clock : Clock := fun i => Double.ofInt i
    (∃ (results : List Result) (kept : Results),
      (compare ⟨2, 1⟩ classes [] clock [0, 1, 2, 0]).result = .ok kept ∧ Keeps results kept ∧
      kept.map Prod.fst = ["growing", "steady"] ∧ results.map Result.counts = [[2, 3], [1, 1], [7, 7], [5, 6]] ∧
      ¬ results.Subperm (kept.map Prod.snd)) ∧
    (compare ⟨2, 1⟩ classes [] clock [0, 3, 1]).result = .error late ∧
    (compare ⟨2, 1⟩ classes [] clock [0, 3, 1]).runs = 2 := by
  intro late reporting classes clock
  obtain ⟨hkept, -⟩ := last_of_label_kept ⟨2, 1⟩ classes [] clock [0, 1, 2, 0] (by decide)
  obtain ⟨-, hfailed⟩ := last_of_label_kept ⟨2, 1⟩ classes [] clock [0, 3, 1] (by decide)
  obtain ⟨results, kept, hresults, hlabels, hcomparison, hkeeps, hall⟩ := hkept (by decide +kernel)
  have hcounts : ((turns ⟨2, 1⟩ classes [] clock (fun _ => 0) [0, 1, 2, 0]).map Timed.result).filterMap
      (fun result => result.toOption.map Result.counts) = [[2, 3], [1, 1], [7, 7], [5, 6]] := by decide +kernel
  rw [hresults, List.filterMap_map] at hcounts
  refine ⟨⟨results, kept, congrArg Comparison.result hcomparison, hkeeps, ?_, ?_, ?_⟩, ?_⟩
  · rw [hkeeps.labels, hlabels]
    rfl
  · rw [← hcounts, ← List.filterMap_eq_map]
    rfl
  · rw [hall]
    decide
  · have hsplit : turns ⟨2, 1⟩ classes [] clock (fun _ => 0) [0, 3, 1]
        = (turns ⟨2, 1⟩ classes [] clock (fun _ => 0) [0, 3, 1]).take 1 ++ _ :: _ := rfl
    obtain ⟨hcomparison, -⟩ := hfailed _ _ _ late hsplit (by decide +kernel) rfl
    exact ⟨congrArg Comparison.result hcomparison, congrArg Comparison.runs hcomparison⟩

end EventBench.Benchmark
