import Mathlib.Data.List.TakeWhile
import EventBench.Diff.Alignment

namespace EventBench.Diff

/-- From row `i` and place `j` on, each of `size` rows holds the place that follows. -/
def Shares (rows : List (List Nat)) (i j size : Nat) : Prop :=
  ∀ t < size, ∃ places, rows[i + t]? = some places ∧ j + t ∈ places

theorem Shares.snoc (rows : List (List Nat)) (i j size : Nat) (places : List Nat) (h : Shares rows i j size)
    (hrow : rows[i + size]? = some places) (hplace : j + size ∈ places) : Shares rows i j (size + 1) := by
  intro t ht
  by_cases heq : t = size
  · rw [heq]
    exact ⟨places, hrow, hplace⟩
  · exact h t (by omega)

theorem Shares.take (rows : List (List Nat)) (i j m n : Nat) (h : Shares rows i j n) (hle : m ≤ n) :
    Shares rows i j m :=
  fun t ht => h t (by omega)

theorem map_fst_endings (js : List Nat) (before : List (Nat × Nat)) :
    (endings js before).map Prod.fst = js := by
  induction js generalizing before with
  | nil => rfl
  | cons j js ih => rw [endings, List.map_cons, ih]

/-- A stretch ends anew, or it goes on from one that ended in the row before. -/
theorem mem_endings (js : List Nat) (before : List (Nat × Nat)) (p : Nat × Nat) (h : p ∈ endings js before) :
    p.1 ∈ js ∧ (p.2 = 1 ∨ ∃ q ∈ before, q.1 + 1 = p.1 ∧ p.2 = q.2 + 1) := by
  induction js generalizing before with
  | nil => cases h
  | cons j js ih =>
    rw [endings] at h
    have hsub : ∀ q ∈ before.dropWhile fun q => q.1 + 1 < j, q ∈ before :=
      fun q hq => (List.dropWhile_sublist _).subset hq
    generalize (before.dropWhile fun q => q.1 + 1 < j) = rest at h hsub
    rcases List.mem_cons.mp h with rfl | h
    · refine ⟨List.mem_cons_self, ?_⟩
      cases rest with
      | nil => exact Or.inl rfl
      | cons q rest =>
        dsimp only
        split_ifs with hq
        · exact Or.inr ⟨q, hsub q List.mem_cons_self, hq, rfl⟩
        · exact Or.inl rfl
    · obtain ⟨hplace, hsize⟩ := ih rest h
      refine ⟨List.mem_cons_of_mem j hplace, hsize.imp id ?_⟩
      rintro ⟨q, hq, hnext⟩
      exact ⟨q, hsub q hq, hnext⟩

theorem mem_dropWhile_of_not {β : Type} (p : β → Bool) (xs : List β) (x : β) (hx : x ∈ xs)
    (h : p x = false) : x ∈ xs.dropWhile p := by
  rw [← List.takeWhile_append_dropWhile (p := p) (l := xs)] at hx
  rcases List.mem_append.mp hx with hx | hx
  · have htrue := List.mem_takeWhile_imp hx
    rw [h] at htrue
    cases htrue
  · exact hx

/-- Where places rise, no stretch that goes on is lost. -/
theorem mem_endings_of_mem (js : List Nat) (before : List (Nat × Nat)) (q : Nat × Nat)
    (hjs : js.Pairwise (· < ·)) (hbefore : (before.map Prod.fst).Pairwise (· < ·)) (hq : q ∈ before)
    (hnext : q.1 + 1 ∈ js) : (q.1 + 1, q.2 + 1) ∈ endings js before := by
  induction js generalizing before with
  | nil => cases hnext
  | cons j js ih =>
    obtain ⟨hlow, hjs⟩ := List.pairwise_cons.mp hjs
    rw [endings]
    rcases List.mem_cons.mp hnext with heq | hnext
    · obtain ⟨front, rest, rfl⟩ := List.append_of_mem hq
      rw [List.map_append, List.map_cons] at hbefore
      have hfront : ∀ p ∈ front, decide (p.1 + 1 < j) = true := by
        intro p hp
        have hlt := (List.pairwise_append.mp hbefore).2.2 p.1 (List.mem_map_of_mem hp) q.1
          List.mem_cons_self
        simp only [decide_eq_true_eq]
        omega
      have hdrop : (front ++ q :: rest).dropWhile (fun p => decide (p.1 + 1 < j)) = q :: rest := by
        rw [List.dropWhile_append_of_pos hfront, List.dropWhile_cons_of_neg (by simp [heq])]
      rw [hdrop]
      dsimp only
      rw [if_pos heq, heq]
      exact List.mem_cons_self
    · have hlt := hlow _ hnext
      have hkept := mem_dropWhile_of_not (fun p => decide (p.1 + 1 < j)) before q hq (by
        simp only [decide_eq_false_iff_not]
        omega)
      have hsub := (List.dropWhile_sublist (l := before) fun p => decide (p.1 + 1 < j)).map Prod.fst
      exact List.mem_cons_of_mem _ (ih _ hjs (hbefore.sublist hsub) hkept hnext)

theorem longer_cons (first i : Nat) (best : Stretch) (p : Nat × Nat) (row : List (Nat × Nat)) :
    longer first i best (p :: row)
      = longer first i (if best.size < p.2 then ⟨i + 1 - p.2, p.1 + 1 - p.2 - first, p.2⟩ else best) row :=
  rfl

theorem longer_append (first i : Nat) (best : Stretch) (row row' : List (Nat × Nat)) :
    longer first i best (row ++ row') = longer first i (longer first i best row) row' :=
  List.foldl_append

theorem longer_of_le (first i : Nat) (best : Stretch) (row : List (Nat × Nat))
    (h : ∀ p ∈ row, p.2 ≤ best.size) : longer first i best row = best := by
  induction row with
  | nil => rfl
  | cons p row ih =>
    obtain ⟨hp, hrow⟩ := List.forall_mem_cons.mp h
    rw [longer_cons, if_neg (Nat.not_lt.mpr hp), ih hrow]

/-- A property of the best stretch and of what could take its place is kept. -/
theorem longer_induction (first i : Nat) (best : Stretch) (row : List (Nat × Nat)) (P : Stretch → Prop)
    (hbest : P best) (hrow : ∀ p ∈ row, P ⟨i + 1 - p.2, p.1 + 1 - p.2 - first, p.2⟩) :
    P (longer first i best row) := by
  induction row generalizing best with
  | nil => exact hbest
  | cons p row ih =>
    obtain ⟨hp, hrow⟩ := List.forall_mem_cons.mp hrow
    rw [longer_cons]
    apply ih _ _ hrow
    split_ifs
    · exact hp
    · exact hbest

theorem mem_within (first bound j : Nat) (places : List Nat) (hsorted : places.Pairwise (· < ·))
    (h : j ∈ within first bound places) : j ∈ places ∧ first ≤ j ∧ j < bound := by
  have hbound : j < bound := by simpa using List.mem_takeWhile_imp h
  have hdrop : j ∈ places.dropWhile (· < first) := (List.takeWhile_sublist _).subset h
  have hmem : j ∈ places := (List.dropWhile_sublist _).subset hdrop
  refine ⟨hmem, ?_, hbound⟩
  cases hplaces : places.dropWhile (· < first) with
  | nil =>
    rw [hplaces] at hdrop
    cases hdrop
  | cons k rest =>
    have hk := List.head?_dropWhile_not (· < first) places
    have hrise := hsorted.sublist (List.dropWhile_sublist (· < first))
    rw [hplaces] at hdrop hk hrise
    have hk' : first ≤ k := by simpa using hk
    rcases List.mem_cons.mp hdrop with rfl | hj
    · exact hk'
    · have hlt := (List.pairwise_cons.mp hrise).1 j hj
      omega

theorem within_of_all (first bound : Nat) (places : List Nat) (h : ∀ j ∈ places, first ≤ j ∧ j < bound) :
    within first bound places = places := by
  have hdrop : places.dropWhile (· < first) = places := by
    cases places with
    | nil => rfl
    | cons k places =>
      have hk := (h k List.mem_cons_self).1
      exact List.dropWhile_cons_of_neg (by simp; omega)
  rw [within, hdrop]
  apply List.takeWhile_eq_self_iff.mpr
  intro j hj
  simpa using (h j hj).2

/-- A stretch that is shared row by row, or none. -/
def Found (rows : List (List Nat)) (first : Nat) (s : Stretch) : Prop :=
  s = {} ∨ 0 < s.size ∧ Shares rows s.old (first + s.new) s.size

/-- What the search keeps before row `i`: the stretches that end in the row before are shared, and so is the
best one. -/
structure Follows (rows : List (List Nat)) (first i : Nat) (before : List (Nat × Nat)) (best : Stretch) :
    Prop where
  row : ∀ p ∈ before, 0 < p.2 ∧ ∃ s t, s + p.2 = i ∧ t + p.2 = p.1 + 1 ∧ Shares rows s t p.2
  best : Found rows first best

theorem Follows.step (rows : List (List Nat)) (first i : Nat) (before : List (Nat × Nat)) (best : Stretch)
    (places : List Nat) (h : Follows rows first i before best) (hplaces : rows[i]? = some places)
    (hfirst : ∀ places ∈ rows, ∀ j ∈ places, first ≤ j) :
    Follows rows first (i + 1) (endings places before) (longer first i best (endings places before)) := by
  have hrow : ∀ p ∈ endings places before,
      0 < p.2 ∧ ∃ s t, s + p.2 = i + 1 ∧ t + p.2 = p.1 + 1 ∧ Shares rows s t p.2 := by
    intro p hp
    obtain ⟨hmem, hsize | ⟨q, hq, hnext, hsize⟩⟩ := mem_endings places before p hp
    · refine ⟨by omega, i, p.1, by omega, by omega, ?_⟩
      intro t ht
      obtain rfl : t = 0 := by omega
      exact ⟨places, hplaces, hmem⟩
    · obtain ⟨-, s, t, hs, ht, hshares⟩ := h.row q hq
      refine ⟨by omega, s, t, by omega, by omega, ?_⟩
      have hlast : t + q.2 ∈ places := by
        rw [ht, hnext]
        exact hmem
      rw [hsize]
      exact hshares.snoc rows s t q.2 places (by rw [hs]; exact hplaces) hlast
  refine ⟨hrow, longer_induction first i best _ (Found rows first) h.best ?_⟩
  intro p hp
  obtain ⟨hpositive, s, t, hs, ht, hshares⟩ := hrow p hp
  obtain ⟨row, hmem, htop⟩ := hshares 0 hpositive
  have hlow : first ≤ t := hfirst row (List.mem_of_getElem? hmem) t htop
  have hold : i + 1 - p.2 = s := by omega
  have hnew : first + (p.1 + 1 - p.2 - first) = t := by omega
  right
  refine ⟨hpositive, ?_⟩
  dsimp only
  rw [hold, hnew]
  exact hshares

theorem getElem?_of_drop_eq_cons {β : Type} (xs rest : List β) (i : Nat) (x : β) (h : xs.drop i = x :: rest) :
    xs[i]? = some x ∧ xs.drop (i + 1) = rest := by
  constructor
  · rw [← List.head?_drop, h]
    rfl
  · rw [← List.tail_drop, h]
    rfl

theorem follows_longestFrom (rows : List (List Nat)) (first bound i : Nat) (before : List (Nat × Nat))
    (best : Stretch) (rest : List (List Nat)) (hrest : rows.drop i = rest.map (within first bound))
    (hfirst : ∀ places ∈ rows, ∀ j ∈ places, first ≤ j) (h : Follows rows first i before best) :
    ∃ i' before', Follows rows first i' before' (longestFrom first bound i before best rest) := by
  induction rest generalizing i before best with
  | nil => exact ⟨i, before, h⟩
  | cons places rest ih =>
    obtain ⟨hplaces, htail⟩ := getElem?_of_drop_eq_cons rows _ i _ hrest
    exact ih (i + 1) _ _ htail (h.step rows first i before best _ hplaces hfirst)

theorem found_longest (rows : List (List Nat)) (first bound : Nat)
    (hsorted : ∀ places ∈ rows, places.Pairwise (· < ·)) :
    Found (rows.map (within first bound)) first (longest rows first bound) := by
  have hfirst : ∀ places ∈ rows.map (within first bound), ∀ j ∈ places, first ≤ j := by
    intro places hplaces j hj
    obtain ⟨row, hrow, rfl⟩ := List.mem_map.mp hplaces
    exact (mem_within first bound j row (hsorted row hrow) hj).2.1
  have hstart : Follows (rows.map (within first bound)) first 0 [] {} := ⟨by simp, Or.inl rfl⟩
  obtain ⟨_, _, h⟩ := follows_longestFrom _ first bound 0 [] {} rows rfl hfirst hstart
  exact h.best

/-- Rows of a list with itself: a row that holds a place is the row of that place, and it holds its own. -/
structure Mirrored (rows : List (List Nat)) : Prop where
  sorted : ∀ places ∈ rows, places.Pairwise (· < ·)
  same : ∀ (i j : Nat) (places : List Nat), rows[i]? = some places → j ∈ places → rows[j]? = some places
  own : ∀ (i : Nat) (places : List Nat), rows[i]? = some places → places ≠ [] → i ∈ places

theorem Shares.on_rows (rows : List (List Nat)) (i j size : Nat) (h : Shares rows i j size)
    (hm : Mirrored rows) : Shares rows i i size := by
  intro t ht
  obtain ⟨places, hrow, hplace⟩ := h t ht
  exact ⟨places, hrow, hm.own (i + t) places hrow (List.ne_nil_of_mem hplace)⟩

theorem Shares.on_places (rows : List (List Nat)) (i j size : Nat) (h : Shares rows i j size)
    (hm : Mirrored rows) : Shares rows j j size := by
  intro t ht
  obtain ⟨places, hrow, hplace⟩ := h t ht
  exact ⟨places, hm.same (i + t) (j + t) places hrow hplace, hplace⟩

/-- What the search keeps before row `i` of a list with itself: the best stretch begins at the same place on
both sides, no such stretch up to there is longer, and the row before tells the longest that ends in it. -/
structure Centered (rows : List (List Nat)) (i : Nat) (before : List (Nat × Nat)) (best : Stretch) :
    Prop where
  sorted : (before.map Prod.fst).Pairwise (· < ·)
  row : ∀ s n, 0 < n → s + n = i → Shares rows s s n → ∃ q ∈ before, q.1 + 1 = i ∧ n ≤ q.2
  same : best.old = best.new
  inside : best.old + best.size ≤ i
  longest : ∀ s n, s + n ≤ i → Shares rows s s n → n ≤ best.size

/-- The row of the next member still tells the longest stretch that ends in it at its own place. -/
theorem Centered.mem_endings (rows : List (List Nat)) (i : Nat) (before : List (Nat × Nat)) (best : Stretch)
    (places : List Nat) (h : Centered rows i before best) (hplaces : rows[i]? = some places)
    (hsorted : places.Pairwise (· < ·)) (s n : Nat) (hn : 0 < n) (hs : s + n = i + 1)
    (hshares : Shares rows s s n) : ∃ m, n ≤ m ∧ (i, m) ∈ endings places before := by
  have hlast := hshares (n - 1) (by omega)
  rw [show s + (n - 1) = i by omega, hplaces] at hlast
  obtain ⟨row, hrow, hmem⟩ := hlast
  obtain rfl := Option.some.inj hrow
  by_cases hone : n = 1
  · have hfst : i ∈ (Diff.endings places before).map Prod.fst := by
      rw [map_fst_endings]
      exact hmem
    obtain ⟨⟨j, m⟩, hp, rfl⟩ := List.mem_map.mp hfst
    obtain ⟨-, hsize⟩ := Diff.mem_endings places before (j, m) hp
    refine ⟨m, ?_, hp⟩
    rcases hsize with hsize | ⟨q, -, -, hsize⟩
    · exact Nat.le_of_eq (hone.trans hsize.symm)
    · dsimp only at hsize
      omega
  · obtain ⟨q, hq, hqi, hle⟩ := h.row s (n - 1) (by omega) (by omega) (hshares.take rows s s _ n (by omega))
    have hnext := mem_endings_of_mem places before q hsorted h.sorted hq (by rw [hqi]; exact hmem)
    rw [hqi] at hnext
    exact ⟨q.2 + 1, by omega, hnext⟩

/-- In a row, the stretch at the own place of its member decides: none before it is longer than the best one,
and none behind it is longer than it is. -/
theorem Centered.longer_endings (rows : List (List Nat)) (i : Nat) (before : List (Nat × Nat))
    (best : Stretch) (places : List Nat) (hm : Mirrored rows) (hf : Follows rows 0 i before best)
    (h : Centered rows i before best) (hplaces : rows[i]? = some places) :
    (endings places before = [] ∧ longer 0 i best (endings places before) = best) ∨
    ∃ m, m ≤ i + 1 ∧ (∀ n, (i, n) ∈ endings places before → n = m) ∧
      longer 0 i best (endings places before)
        = if best.size < m then ⟨i + 1 - m, i + 1 - m, m⟩ else best := by
  have hsorted := hm.sorted places (List.mem_of_getElem? hplaces)
  have hrow := (hf.step rows 0 i before best places hplaces fun _ _ j _ => Nat.zero_le j).row
  have hrise : ((endings places before).map Prod.fst).Pairwise (· < ·) := by
    rw [map_fst_endings]
    exact hsorted
  have hbelow : ∀ p ∈ endings places before, p.1 < i → p.2 ≤ best.size := by
    intro p hp hlt
    obtain ⟨-, s, t, -, ht, hshares⟩ := hrow p hp
    exact h.longest t p.2 (by omega) (hshares.on_places rows s t p.2 hm)
  have hown : ∀ p ∈ endings places before, ∃ m, p.2 ≤ m ∧ (i, m) ∈ endings places before := by
    intro p hp
    obtain ⟨hpositive, s, t, hs, -, hshares⟩ := hrow p hp
    exact h.mem_endings rows i before best places hplaces hsorted s p.2 hpositive hs
      (hshares.on_rows rows s t p.2 hm)
  generalize endings places before = row at hrow hrise hbelow hown
  cases row with
  | nil => exact Or.inl ⟨rfl, rfl⟩
  | cons p row =>
    obtain ⟨m, -, hmem⟩ := hown p List.mem_cons_self
    obtain ⟨-, s, -, hs, -, -⟩ := hrow (i, m) hmem
    generalize p :: row = row at hrise hbelow hown hmem
    obtain ⟨front, rest, rfl⟩ := List.append_of_mem hmem
    rw [List.map_append, List.map_cons] at hrise
    obtain ⟨-, hrest, hcross⟩ := List.pairwise_append.mp hrise
    have hfront : ∀ q ∈ front, q.1 < i := fun q hq =>
      hcross q.1 (List.mem_map_of_mem hq) i List.mem_cons_self
    have hbehind : ∀ q ∈ rest, i < q.1 := fun q hq =>
      (List.pairwise_cons.mp hrest).1 q.1 (List.mem_map_of_mem hq)
    have honly : ∀ n, (i, n) ∈ front ++ (i, m) :: rest → n = m := by
      intro n hn
      rcases List.mem_append.mp hn with hn | hn
      · exact absurd (hfront _ hn) (Nat.lt_irrefl i)
      · rcases List.mem_cons.mp hn with heq | hn
        · exact (Prod.mk.inj heq).2
        · exact absurd (hbehind _ hn) (Nat.lt_irrefl i)
    refine Or.inr ⟨m, by dsimp only at hs; omega, honly, ?_⟩
    have hkeep : longer 0 i best front = best :=
      longer_of_le 0 i best front fun q hq => hbelow q (List.mem_append_left _ hq) (hfront q hq)
    rw [longer_append, hkeep, longer_cons]
    apply longer_of_le
    intro q hq
    obtain ⟨n, hle, hn⟩ := hown q (List.mem_append_right _ (List.mem_cons_of_mem _ hq))
    rw [honly n hn] at hle
    split_ifs with hlt
    · exact hle
    · exact hle.trans (Nat.not_lt.mp hlt)

theorem Centered.step (rows : List (List Nat)) (i : Nat) (before : List (Nat × Nat)) (best : Stretch)
    (places : List Nat) (hm : Mirrored rows) (hf : Follows rows 0 i before best)
    (h : Centered rows i before best) (hplaces : rows[i]? = some places) :
    Centered rows (i + 1) (endings places before) (longer 0 i best (endings places before)) := by
  have hsorted := hm.sorted places (List.mem_of_getElem? hplaces)
  have hown := h.mem_endings rows i before best places hplaces hsorted
  have hrise : ((endings places before).map Prod.fst).Pairwise (· < ·) := by
    rw [map_fst_endings]
    exact hsorted
  have hrow : ∀ s n, 0 < n → s + n = i + 1 → Shares rows s s n →
      ∃ q ∈ endings places before, q.1 + 1 = i + 1 ∧ n ≤ q.2 := by
    intro s n hn hs hshares
    obtain ⟨m, hle, hmem⟩ := hown s n hn hs hshares
    exact ⟨(i, m), hmem, rfl, hle⟩
  have hinside := h.inside
  rcases h.longer_endings rows i before best places hm hf hplaces with
    ⟨hnil, hlonger⟩ | ⟨m, hm', honly, hlonger⟩
  · rw [hlonger]
    refine ⟨hrise, hrow, h.same, by omega, ?_⟩
    intro s n hs hshares
    by_cases hlast : s + n ≤ i ∨ n = 0
    · rcases hlast with hle | rfl
      · exact h.longest s n hle hshares
      · exact Nat.zero_le _
    · obtain ⟨_, -, hmem⟩ := hown s n (by omega) (by omega) hshares
      rw [hnil] at hmem
      cases hmem
  · have hlongest : ∀ s n, s + n ≤ i + 1 → Shares rows s s n → n ≤ max best.size m := by
      intro s n hs hshares
      by_cases hlast : s + n ≤ i ∨ n = 0
      · rcases hlast with hle | rfl
        · exact (h.longest s n hle hshares).trans (Nat.le_max_left _ _)
        · exact Nat.zero_le _
      · obtain ⟨k, hle, hmem⟩ := hown s n (by omega) (by omega) hshares
        rw [honly k hmem] at hle
        exact hle.trans (Nat.le_max_right _ _)
    rw [hlonger]
    split_ifs with hlt
    · rw [Nat.max_eq_right (Nat.le_of_lt hlt)] at hlongest
      exact ⟨hrise, hrow, rfl, by dsimp only; omega, hlongest⟩
    · rw [Nat.max_eq_left (Nat.not_lt.mp hlt)] at hlongest
      exact ⟨hrise, hrow, h.same, by omega, hlongest⟩

theorem centered_longestFrom (rows : List (List Nat)) (bound i : Nat) (before : List (Nat × Nat))
    (best : Stretch) (rest : List (List Nat)) (hrest : rows.drop i = rest.map (within 0 bound))
    (hm : Mirrored rows) (hf : Follows rows 0 i before best) (h : Centered rows i before best)
    (hi : i + rest.length = rows.length) :
    ∃ before', Centered rows rows.length before' (longestFrom 0 bound i before best rest) := by
  induction rest generalizing i before best with
  | nil =>
    obtain rfl : i = rows.length := by simpa using hi
    exact ⟨before, h⟩
  | cons places rest ih =>
    obtain ⟨hplaces, htail⟩ := getElem?_of_drop_eq_cons rows _ i _ hrest
    refine ih (i + 1) _ _ htail ?_ (h.step rows i before best _ hm hf hplaces) ?_
    · exact hf.step rows 0 i before best _ hplaces fun _ _ j _ => Nat.zero_le j
    · rw [← hi, List.length_cons]
      omega

/-- In the rows of a list with itself, the stretch that is found begins at the same place on both sides. -/
theorem centered_longest (rows : List (List Nat)) (bound : Nat) (hm : Mirrored rows)
    (hbound : ∀ places ∈ rows, ∀ j ∈ places, j < bound) :
    (longest rows 0 bound).old = (longest rows 0 bound).new ∧
    (longest rows 0 bound).old + (longest rows 0 bound).size ≤ rows.length := by
  have hwithin : rows.map (within 0 bound) = rows := by
    refine (List.map_congr_left ?_).trans (List.map_id rows)
    intro places hplaces
    exact within_of_all 0 bound places fun j hj => ⟨Nat.zero_le j, hbound places hplaces j hj⟩
  have hfollows : Follows rows 0 0 [] {} := ⟨by simp, Or.inl rfl⟩
  have hstart : Centered rows 0 [] {} := by
    refine ⟨.nil, ?_, rfl, Nat.le_refl 0, ?_⟩
    · intro s n hn hs
      omega
    · intro s n hs _
      omega
  obtain ⟨_, h⟩ := centered_longestFrom rows bound 0 [] {} rows (by rw [hwithin]; rfl) hm hfollows hstart
    (Nat.zero_add _)
  exact ⟨h.same, h.inside⟩

end EventBench.Diff
