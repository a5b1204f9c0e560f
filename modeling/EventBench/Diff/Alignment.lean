import EventBench.Diff.Edit
import Std.Data.HashMap

namespace EventBench.Diff

variable {α : Type}

/-- A stretch that two lists share: where it begins in each of them, and its length. -/
structure Stretch where
  old : Nat := 0
  new : Nat := 0
  size : Nat := 0
  deriving DecidableEq, Repr

def Stretch.Fits (s : Stretch) (a b : List α) : Prop :=
  0 < s.size ∧ s.old + s.size ≤ a.length ∧ s.new + s.size ≤ b.length
    ∧ (a.drop s.old).take s.size = (b.drop s.new).take s.size

theorem Stretch.Fits.size_pos {s : Stretch} {a b : List α} (h : s.Fits a b) : 0 < s.size :=
  h.1

theorem Stretch.Fits.old_lt {s : Stretch} {a b : List α} (h : s.Fits a b) : s.old < a.length := by
  have := h.1
  have := h.2.1
  omega

private theorem cut_at (xs : List α) (i k : Nat) :
    xs.take i ++ (xs.drop i).take k ++ xs.drop (i + k) = xs := by
  rw [List.append_assoc, ← List.drop_drop, List.take_append_drop, List.take_append_drop]

variable [DecidableEq α]

instance (s : Stretch) (a b : List α) : Decidable (s.Fits a b) := by
  unfold Stretch.Fits; infer_instance

/-- The least length of a list that may have members too common to begin with. -/
def crowd : Nat := 200

/-- Whether a member of a list of `size` members has too many places in it: more than a hundredth of a
long list, and once more than that. No stretch begins with the search for such a member. -/
def isCommon (size : Nat) (places : List Nat) : Bool :=
  decide (crowd ≤ size) && decide (size / 100 + 1 < places.length)

def index [Hashable α] (b : List α) : Std.HashMap α (List Nat) :=
  b.zipIdx.foldr (fun (y, j) index => index.insert y (j :: index.getD y [])) ∅

theorem getD_index [Hashable α] (b : List α) (x : α) :
    (index b).getD x [] = (b.zipIdx.filter fun (y, _) => y == x).map Prod.snd := by
  unfold index
  induction b.zipIdx with
  | nil => simp
  | cons p ps ih =>
    by_cases h : p.1 = x <;> simp_all [Std.HashMap.getD_insert]

/-- For each member of the first list its places in the second, unless it is too common there. -/
def places [Hashable α] (a b : List α) : List (List Nat) :=
  let size := b.length
  let index := (index b).filter fun _ places => !isCommon size places
  a.map fun x => index.getD x []

def within (first bound : Nat) (places : List Nat) : List Nat :=
  (places.dropWhile (· < first)).takeWhile (· < bound)

/-- The shared stretches that end in a row, as the places of their ends and their lengths; `before` are
those of the row before. -/
def endings : List Nat → List (Nat × Nat) → List (Nat × Nat)
  | [], _ => []
  | j :: js, before =>
    let before := before.dropWhile fun (i, _) => i + 1 < j
    let size := match before with
      | (i, n) :: _ => if i + 1 = j then n + 1 else 1
      | [] => 1
    (j, size) :: endings js before

/-- The longer of a stretch and those that end in row `i`, in a part that begins at `first`; of equally
long ones the first. -/
def longer (first i : Nat) (best : Stretch) (row : List (Nat × Nat)) : Stretch :=
  row.foldl
    (fun best (j, n) => if best.size < n then ⟨i + 1 - n, j + 1 - n - first, n⟩ else best) best

/-- The longest stretch in the rows from `i` on. -/
def longestFrom (first bound i : Nat) (before : List (Nat × Nat)) (best : Stretch) :
    List (List Nat) → Stretch
  | [] => best
  | places :: rest =>
    let row := endings (within first bound places) before
    longestFrom first bound (i + 1) row (longer first i best row) rest

def longest (rows : List (List Nat)) (first bound : Nat) : Stretch :=
  longestFrom first bound 0 [] {} rows

def agreement : List α → List α → Nat
  | x :: xs, y :: ys => if x = y then agreement xs ys + 1 else 0
  | _, _ => 0

/-- A stretch made longer on both sides as far as the lists agree, be their members common or not. -/
def Stretch.widen (s : Stretch) (a b : List α) : Stretch :=
  let left := agreement (a.take s.old).reverse (b.take s.new).reverse
  let right := agreement (a.drop (s.old + s.size)) (b.drop (s.new + s.size))
  ⟨s.old - left, s.new - left, left + s.size + right⟩

/-- The longest stretch of two lists, if it fits. -/
def anchor? (rows : List (List Nat)) (first : Nat) (a b : List α) :
    Option { s : Stretch // s.Fits a b } :=
  let s := (longest rows first (first + b.length)).widen a b
  if h : s.Fits a b then some ⟨s, h⟩ else none

/-- Aligns two lists around the longest stretch they share. The second one is a part, from `first` on,
of the list in which `rows` tells the places of the members of the first one. -/
def alignFrom (rows : List (List Nat)) (first : Nat) (a b : List α) : List (Edit α) :=
  match anchor? rows first a b with
  | none => replace a b
  | some ⟨s, h⟩ =>
    have := h.old_lt
    have := h.size_pos
    alignFrom (rows.take s.old) first (a.take s.old) (b.take s.new)
      ++ ((a.drop s.old).take s.size).map .keep
      ++ alignFrom (rows.drop (s.old + s.size)) (first + s.new + s.size) (a.drop (s.old + s.size))
          (b.drop (s.new + s.size))
termination_by a.length

/-- The script that leads from `a` to `b`. -/
def align [Hashable α] (a b : List α) : List (Edit α) :=
  alignFrom (places a b) 0 a b

theorem oldSide_alignFrom (rows : List (List Nat)) (first : Nat) (a b : List α) :
    oldSide (alignFrom rows first a b) = a := by
  fun_induction alignFrom rows first a b with
  | case1 _ _ a b _ => exact oldSide_replace a b
  | case2 _ _ a b s h _ _ _ ih₁ ih₂ =>
    simp only [oldSide_append, oldSide_keep, ih₁, ih₂]
    exact cut_at a s.old s.size

theorem newSide_alignFrom (rows : List (List Nat)) (first : Nat) (a b : List α) :
    newSide (alignFrom rows first a b) = b := by
  fun_induction alignFrom rows first a b with
  | case1 _ _ a b _ => exact newSide_replace a b
  | case2 _ _ a b s h _ _ _ ih₁ ih₂ =>
    simp only [newSide_append, newSide_keep, ih₁, ih₂, h.2.2.2]
    exact cut_at b s.new s.size

theorem oldSide_align [Hashable α] (a b : List α) : oldSide (align a b) = a :=
  oldSide_alignFrom ..

theorem newSide_align [Hashable α] (a b : List α) : newSide (align a b) = b :=
  newSide_alignFrom ..

end EventBench.Diff
