import Mathlib.Data.List.TakeWhile
import EventBench.Proofs.Parser.Elements

namespace EventBench

/-- A loop that stops at every event it reports, and a place in which it waits. -/
structure Loop (Place : Type) where
  start : Place
  resume : Place → Option (Event × Place)

namespace Loop

variable {Place : Type} (l : Loop Place)

/-- Resumed again and again, the loop reports these events on its way from one place to another. -/
inductive Reports : Place → List Event → Place → Prop
  | nil (p : Place) : Reports p [] p
  | cons {p q r : Place} {e : Event} {events : List Event} (head : l.resume p = some (e, q))
    (tail : Reports q events r) : Reports p (e :: events) r

/-- What is ahead of each place: the event with which the loop stops next, and what is ahead of it then. -/
structure Unfolds (ahead : Place → List Event) : Prop where
  stop : ∀ p, l.resume p = none → ahead p = []
  step : ∀ p e q, l.resume p = some (e, q) → ahead p = e :: ahead q

namespace Unfolds

variable {l} {ahead : Place → List Event} (h : l.Unfolds ahead)
include h

theorem head? (p : Place) : (l.resume p).map Prod.fst = (ahead p).head? := by
  cases hp : l.resume p with
  | none => rw [h.stop p hp]; rfl
  | some r => rw [h.step p r.1 r.2 hp]; rfl

theorem resume_eq_none (p : Place) (hp : ahead p = []) : l.resume p = none := by
  have hhead := h.head? p
  rw [hp] at hhead
  simpa using hhead

theorem reports_take (p : Place) (n : Nat) (hn : n ≤ (ahead p).length) :
    ∃ q, l.Reports p ((ahead p).take n) q ∧ ahead q = (ahead p).drop n := by
  induction n generalizing p with
  | zero => exact ⟨p, .nil p, rfl⟩
  | succ n ih =>
    cases hp : l.resume p with
    | none =>
      rw [h.stop p hp] at hn
      exact absurd hn (by simp)
    | some r =>
      have hahead := h.step p r.1 r.2 hp
      rw [hahead] at hn ⊢
      obtain ⟨q, hreports, hq⟩ := ih r.2 (Nat.le_of_succ_le_succ hn)
      exact ⟨q, .cons hp hreports, hq⟩

end Unfolds

end Loop

namespace Parser

open Lines (lineFeed)

def findFeed (data : Bytes) (pos : Nat) : Option Nat :=
  ((data.drop pos).findIdx? (· == lineFeed)).map (pos + ·)

def lineEnd (data : Bytes) (pos : Nat) : Nat :=
  match findFeed data pos with
  | some feed => feed
  | none => data.length

def nextLine (data : Bytes) (pos : Nat) : Nat :=
  match findFeed data pos with
  | some feed => feed + 1
  | none => data.length

theorem lt_nextLine (data : Bytes) (pos : Nat) (h : pos < data.length) : pos < nextLine data pos := by
  unfold nextLine findFeed
  cases (data.drop pos).findIdx? (· == lineFeed) with
  | none => exact h
  | some n => exact Nat.lt_succ_of_le (Nat.le_add_right pos n)

theorem findIdx?_line (line : Bytes) (hline : lineFeed ∉ line) : line.findIdx? (· == lineFeed) = none := by
  rw [List.findIdx?_eq_none_iff]
  intro b hb
  rw [beq_eq_false_iff_ne]
  rintro rfl
  exact hline hb

/-- A last line without line feed ends with the input. -/
theorem ends_last (data line : Bytes) (pos : Nat) (hpos : pos ≤ data.length) (h : data.drop pos = line)
    (hline : lineFeed ∉ line) : lineEnd data pos = pos + line.length ∧ nextLine data pos = pos + line.length := by
  have hnone : findFeed data pos = none := by
    rw [findFeed, h, findIdx?_line line hline]
    rfl
  have hlength := Lines.length_of_drop_eq data line pos hpos h
  constructor
  · rw [lineEnd, hnone]
    exact hlength
  · rw [nextLine, hnone]
    exact hlength

theorem ends_line (data line rest : Bytes) (pos : Nat) (h : data.drop pos = line ++ lineFeed :: rest)
    (hline : lineFeed ∉ line) :
    lineEnd data pos = pos + line.length ∧ nextLine data pos = pos + line.length + 1 := by
  have hfeed : findFeed data pos = some (pos + line.length) := by
    rw [findFeed, h, List.findIdx?_append, findIdx?_line line hline, List.findIdx?_cons]
    simp
  constructor
  · rw [lineEnd, hfeed]
  · rw [nextLine, hfeed]

theorem extract_at (data line rest : Bytes) (pos : Nat) (h : data.drop pos = line ++ rest) :
    data.extract pos (pos + line.length) = line := by
  rw [List.extract_eq_take_drop, h, Nat.add_sub_cancel_left, List.take_left]

theorem drop_at (data line rest : Bytes) (pos : Nat) (h : data.drop pos = line ++ rest) :
    data.drop (pos + line.length) = rest := by
  rw [← List.drop_drop, h, List.drop_left]

namespace Lines

def resume (data : Bytes) (pos : Nat) : Option (Event × Nat) :=
  if pos < data.length then
    some (⟨"Text", some (data.extract pos (nextLine data pos)), pos, nextLine data pos⟩, nextLine data pos)
  else none

def loop (data : Bytes) : Loop Nat where
  start := 0
  resume := resume data

/-- The events from a place on. -/
def ahead (data : Bytes) (pos : Nat) : List Event :=
  eventsFrom pos [] (data.drop pos)

theorem ahead_step (data : Bytes) (pos : Nat) (hpos : pos < data.length) :
    ahead data pos = ⟨"Text", some (data.extract pos (nextLine data pos)), pos, nextLine data pos⟩
      :: ahead data (nextLine data pos) := by
  rcases line_cases (data.drop pos) with hnil | ⟨hne, hline⟩ | ⟨line, rest, hline, hdata⟩
  · exact absurd (List.drop_eq_nil_iff.mp hnil) (Nat.not_le.mpr hpos)
  · obtain ⟨-, hnext⟩ := ends_last data _ pos (Nat.le_of_lt hpos) rfl hline
    have hdata : data.drop pos = data.drop pos ++ [] := (List.append_nil _).symm
    rw [hnext, extract_at data _ [] pos hdata, ahead, ahead, drop_at data _ [] pos hdata, eventsFrom_nil,
      eventsFrom_last pos _ hne hline]
    rfl
  · have hwhole : data.drop pos = (line ++ [lineFeed]) ++ rest := by rw [hdata, List.append_assoc]; rfl
    have hlength : pos + line.length + 1 = pos + (line ++ [lineFeed]).length := by rw [List.length_append]; rfl
    obtain ⟨-, hnext⟩ := ends_line data line rest pos hdata hline
    rw [hnext, hlength, extract_at data _ rest pos hwhole, ahead, ahead, drop_at data _ rest pos hwhole, hdata,
      eventsFrom_line pos line rest hline, ← Nat.add_assoc, hlength]
    rfl

theorem unfolds (data : Bytes) : (loop data).Unfolds (ahead data) := by
  constructor
  · intro p hp
    have hpos : ¬ p < data.length := by
      intro hlt
      simp [loop, resume, hlt] at hp
    rw [ahead, List.drop_eq_nil_of_le (Nat.not_lt.mp hpos), eventsFrom_nil]
  · intro p e q hp
    simp only [loop, resume, Option.ite_none_right_eq_some, Option.some.injEq, Prod.mk.injEq] at hp
    obtain ⟨hpos, rfl, rfl⟩ := hp
    exact ahead_step data p hpos

end Lines

namespace Elements

def nameEnd (data : Bytes) (stop pos : Nat) : Nat :=
  if pos < stop ∧ data[pos]? ≠ some space then nameEnd data stop (pos + 1) else pos
termination_by stop - pos

/-- Where the loop waits: in front of a line, or behind the start, the name or the text of an element. -/
inductive Place
  | line (pos : Nat)
  | opened (first stop next : Nat)
  | named (nameEnd stop next : Nat)
  | texted (next : Nat)

def resumeLine (data : Bytes) (pos : Nat) : Option (Event × Place) :=
  if pos < data.length then
    if data[pos]? = some bar then
      some (⟨"ElementStart", none, (pos + 1 : Nat), (pos + 1 : Nat)⟩, .opened (pos + 1) (lineEnd data pos) (nextLine data pos))
    else if pos < lineEnd data pos then
      some (⟨"Text", some (data.extract pos (lineEnd data pos)), pos, lineEnd data pos⟩, .line (nextLine data pos))
    else resumeLine data (nextLine data pos)
  else none
termination_by data.length - pos
decreasing_by
  have := lt_nextLine data pos (by assumption)
  omega

def close (next : Nat) : Event × Place :=
  (⟨"ElementEnd", none, next, next⟩, .line next)

def resume (data : Bytes) : Place → Option (Event × Place)
  | .line pos => resumeLine data pos
  | .opened first stop next =>
    let last := nameEnd data stop first
    some (⟨"Name", some (data.extract first last), first, last⟩, .named last stop next)
  | .named last stop next =>
    let first := min (last + 1) stop
    if first < stop then some (⟨"Text", some (data.extract first stop), first, stop⟩, .texted next)
    else some (close next)
  | .texted next => some (close next)

def loop (data : Bytes) : Loop Place where
  start := .line 0
  resume := resume data

/-- What is ahead in front of a line: what the parser reports from there. -/
def aheadLine (data : Bytes) (pos : Nat) : List Event :=
  eventsFrom pos [] (data.drop pos)

def aheadTexted (data : Bytes) (next : Nat) : List Event :=
  (close next).1 :: aheadLine data next

def aheadNamed (data : Bytes) (last stop next : Nat) : List Event :=
  let first := min (last + 1) stop
  if first < stop then ⟨"Text", some (data.extract first stop), first, stop⟩ :: aheadTexted data next
  else aheadTexted data next

def ahead (data : Bytes) : Place → List Event
  | .line pos => aheadLine data pos
  | .opened first stop next =>
    let last := nameEnd data stop first
    ⟨"Name", some (data.extract first last), first, last⟩ :: aheadNamed data last stop next
  | .named last stop next => aheadNamed data last stop next
  | .texted next => aheadTexted data next

theorem nameEnd_eq (data rest more : Bytes) (pos : Nat) (h : data.drop pos = rest ++ more) :
    nameEnd data (pos + rest.length) pos = pos + (rest.takeWhile inName).length := by
  induction rest generalizing pos with
  | nil => rw [nameEnd]; simp
  | cons b rest ih =>
    have hbyte : data[pos]? = some b := by
      rw [← Nat.add_zero pos, ← List.getElem?_drop, h]
      rfl
    have hdrop : data.drop (pos + 1) = rest ++ more := drop_at data [b] (rest ++ more) pos h
    have hlength : pos + (b :: rest).length = pos + 1 + rest.length := by rw [List.length_cons]; omega
    rw [nameEnd, hbyte, hlength]
    by_cases hb : b = space
    · subst hb
      simp [inName]
    · have hin : inName b = true := by simpa [inName] using hb
      rw [if_pos ⟨by omega, by simpa using hb⟩, ih (pos + 1) hdrop, List.takeWhile_cons_of_pos hin, List.length_cons]
      omega

theorem aheadNamed_eq (data name tail more : Bytes) (pos next : Nat) (h : data.drop pos = (name ++ tail) ++ more) :
    aheadNamed data (pos + name.length) (pos + (name ++ tail).length) next
      = (if tail.tail = [] then []
          else [⟨"Text", some tail.tail, pos + name.length + 1, pos + (name ++ tail).length⟩])
        ++ ⟨"ElementEnd", none, next, next⟩ :: aheadLine data next := by
  have hclose : aheadTexted data next = ⟨"ElementEnd", none, next, next⟩ :: aheadLine data next := rfl
  rw [aheadNamed, hclose, List.length_append]
  cases tail with
  | nil => simp
  | cons b text =>
    have hdrop : data.drop (pos + name.length + 1) = text ++ more := by
      have hwhole : data.drop pos = (name ++ [b]) ++ (text ++ more) := by rw [h]; simp
      have hdrop := drop_at data (name ++ [b]) (text ++ more) pos hwhole
      rwa [List.length_append, ← Nat.add_assoc] at hdrop
    have hfirst : min (pos + name.length + 1) (pos + (name.length + (b :: text).length)) = pos + name.length + 1 := by
      rw [List.length_cons]
      omega
    have hstop : pos + (name.length + (b :: text).length) = pos + name.length + 1 + text.length := by
      rw [List.length_cons]
      omega
    rw [hfirst, hstop, List.tail_cons]
    cases text with
    | nil => simp
    | cons c text =>
      have hlt : pos + name.length + 1 < pos + name.length + 1 + (c :: text).length := by simp
      rw [if_pos hlt, if_neg (List.cons_ne_nil c text), extract_at data (c :: text) more _ hdrop, ← hstop]
      simp

theorem element_ahead (data rest more : Bytes) (pos next : Nat) (h : data.drop pos = rest ++ more) :
    element pos next rest ++ aheadLine data next
      = ⟨"ElementStart", none, pos, pos⟩ :: ahead data (.opened pos (pos + rest.length) next) := by
  rw [ahead, nameEnd_eq data rest more pos h]
  have hsplit : rest.takeWhile inName ++ rest.dropWhile inName = rest := List.takeWhile_append_dropWhile
  have hin : space ∉ rest.takeWhile inName := by
    intro hm
    have hspace := List.mem_takeWhile_imp hm
    exact absurd hspace (by decide)
  have hout : ∀ b ∈ (rest.dropWhile inName).head?, b = space := by
    intro b hb
    have hfirst := List.head?_dropWhile_not inName rest
    rw [Option.mem_def.mp hb] at hfirst
    simpa [inName] using hfirst
  generalize rest.takeWhile inName = name at hsplit hin ⊢
  generalize rest.dropWhile inName = tail at hsplit hout
  subst hsplit
  have hname : data.extract pos (pos + name.length) = name := by
    rw [List.append_assoc] at h
    exact extract_at data name (tail ++ more) pos h
  rw [element_eq pos next name tail hin hout, hname, aheadNamed_eq data name tail more pos next h]
  simp

theorem aheadLine_eq (data : Bytes) (pos : Nat) (hpos : pos < data.length) :
    ∃ body more, data.drop pos = body ++ more ∧ (∀ b ∈ more.head?, b = lineFeed) ∧
      lineEnd data pos = pos + body.length ∧
      aheadLine data pos = line pos (nextLine data pos) body ++ aheadLine data (nextLine data pos) := by
  rcases Lines.line_cases (data.drop pos) with hnil | ⟨hne, hline⟩ | ⟨body, rest, hline, hdata⟩
  · exact absurd (List.drop_eq_nil_iff.mp hnil) (Nat.not_le.mpr hpos)
  · obtain ⟨hend, hnext⟩ := ends_last data _ pos (Nat.le_of_lt hpos) rfl hline
    have hdata : data.drop pos = data.drop pos ++ [] := (List.append_nil _).symm
    refine ⟨data.drop pos, [], hdata, by simp, hend, ?_⟩
    rw [hnext, aheadLine, aheadLine, drop_at data _ [] pos hdata, eventsFrom_nil, List.append_nil,
      eventsFrom_last pos _ hne hline]
  · obtain ⟨hend, hnext⟩ := ends_line data body rest pos hdata hline
    have hwhole : data.drop pos = (body ++ [lineFeed]) ++ rest := by rw [hdata, List.append_assoc]; rfl
    have hlength : pos + body.length + 1 = pos + (body ++ [lineFeed]).length := by rw [List.length_append]; rfl
    have hdrop := drop_at data _ rest pos hwhole
    rw [← hlength] at hdrop
    refine ⟨body, lineFeed :: rest, hdata, by rintro b ⟨⟩; rfl, hend, ?_⟩
    rw [hnext, aheadLine, aheadLine, hdrop, hdata, eventsFrom_line pos body rest hline]

/-- In front of a line the loop stops next at the first event of that line, or of a later one if it has none. -/
theorem aheadLine_resume (data : Bytes) (pos : Nat) :
    (resumeLine data pos = none → aheadLine data pos = []) ∧
    ∀ e q, resumeLine data pos = some (e, q) → aheadLine data pos = e :: ahead data q := by
  fun_induction resumeLine data pos with
  | case1 pos hpos hbar =>
    obtain ⟨body, more, hdata, hmore, hend, hahead⟩ := aheadLine_eq data pos hpos
    have hbyte : data[pos]? = (body ++ more).head? := by
      rw [← hdata, List.head?_drop]
    refine ⟨by simp, ?_⟩
    rintro e q ⟨⟩
    rw [hbar] at hbyte
    cases body with
    | nil => exact absurd (hmore bar hbyte.symm) (by decide)
    | cons b rest =>
      obtain rfl : bar = b := Option.some.inj hbyte
      have hdrop : data.drop (pos + 1) = rest ++ more := drop_at data [bar] (rest ++ more) pos hdata
      have hstop : lineEnd data pos = pos + 1 + rest.length := by rw [hend, List.length_cons]; omega
      rw [hahead, line, if_pos rfl, hstop, element_ahead data rest more (pos + 1) _ hdrop]
  | case2 pos hpos hbar hbody =>
    obtain ⟨body, more, hdata, hmore, hend, hahead⟩ := aheadLine_eq data pos hpos
    refine ⟨by simp, ?_⟩
    rintro e q ⟨⟩
    cases body with
    | nil => exact absurd hbody (by rw [hend]; exact Nat.lt_irrefl pos)
    | cons b rest =>
      have hb : b ≠ bar := by
        rintro rfl
        apply hbar
        rw [← List.head?_drop, hdata]
        rfl
      rw [hahead, line, if_neg hb, hend, extract_at data (b :: rest) more pos hdata]
      rfl
  | case3 pos hpos hbar hbody ih =>
    obtain ⟨body, more, hdata, hmore, hend, hahead⟩ := aheadLine_eq data pos hpos
    obtain rfl : body = [] := List.length_eq_zero_iff.mp (by omega)
    rw [hahead]
    exact ih
  | case4 pos hpos =>
    rw [aheadLine, List.drop_eq_nil_of_le (Nat.not_lt.mp hpos), eventsFrom_nil]
    exact ⟨fun _ => rfl, by simp⟩

theorem unfolds (data : Bytes) : (loop data).Unfolds (ahead data) := by
  constructor
  · intro p hp
    cases p with
    | line pos => exact (aheadLine_resume data pos).1 hp
    | opened first stop next => cases hp
    | named last stop next =>
      simp only [loop, resume] at hp
      split_ifs at hp
    | texted next => cases hp
  · intro p e q hp
    cases p with
    | line pos => exact (aheadLine_resume data pos).2 e q hp
    | opened first stop next =>
      obtain ⟨rfl, rfl⟩ := Prod.mk.inj (Option.some.inj hp)
      rfl
    | named last stop next =>
      simp only [loop, resume] at hp
      rw [ahead, aheadNamed]
      split_ifs at hp with htext
      · obtain ⟨rfl, rfl⟩ := Prod.mk.inj (Option.some.inj hp)
        rw [if_pos htext]
        rfl
      · obtain ⟨rfl, rfl⟩ := Prod.mk.inj (Option.some.inj hp)
        rw [if_neg htext]
        rfl
    | texted next =>
      obtain ⟨rfl, rfl⟩ := Prod.mk.inj (Option.some.inj hp)
      rfl

end Elements

end Parser

end EventBench
