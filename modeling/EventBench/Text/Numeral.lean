namespace EventBench.Text.Numeral

def decimal (n : Nat) : List Char :=
  Nat.toDigits 10 n

def hex (n : Nat) : List Char :=
  Nat.toDigits 16 n

/-- The decimal numeral of an integer; only a negative one has a sign. -/
def ofInt : Int → List Char
  | .ofNat n => decimal n
  | .negSucc n => '-' :: decimal (n + 1)

/-- Zeros in front of `digits` up to `width` characters; a longer text is left as it is. -/
def padded (width : Nat) (digits : List Char) : List Char :=
  List.replicate (width - digits.length) '0' ++ digits

/-- A comma before every third digit from the right. -/
def grouped : List Char → List Char
  | [] => []
  | [d] => [d]
  | d :: ds => if ds.length % 3 = 0 then d :: ',' :: grouped ds else d :: grouped ds

/-- The weight of a decimal place: ten to its number. -/
def weight (place : Nat) : Nat :=
  Nat.pow 10 place

/-- The number that a run of digit values denotes in base ten. -/
def value (digits : List Nat) : Nat :=
  digits.foldl (fun n d => 10 * n + d) 0

/-- The longest run of digits whose value is taken digit by digit. -/
def shortRun : Nat := 32

/-- The same number, computed by halves, which is fast for a long run. -/
def longValue (digits : List Nat) : Nat :=
  if digits.length ≤ shortRun then value digits
  else
    let half := digits.length / 2
    longValue (digits.take half) * weight (digits.length - half) + longValue (digits.drop half)
termination_by digits.length
decreasing_by all_goals (simp [shortRun] at *; omega)

private theorem foldl_digits (n : Nat) (digits : List Nat) :
    digits.foldl (fun n d => 10 * n + d) n = n * weight digits.length + value digits := by
  induction digits generalizing n with
  | nil => simp [value, weight]
  | cons d ds ih =>
    have hw : weight (d :: ds).length = weight ds.length * 10 := Nat.pow_succ 10 ds.length
    have hd : value (d :: ds) = d * weight ds.length + value ds := by simpa [value] using ih d
    rw [List.foldl_cons, ih, hw, hd]
    grind

/-- Of two runs in a row, the first one stands to the left of all places of the second. -/
theorem value_append (xs ys : List Nat) :
    value (xs ++ ys) = value xs * weight ys.length + value ys := by
  rw [value, List.foldl_append, foldl_digits]; rfl

theorem longValue_eq_value (digits : List Nat) : longValue digits = value digits := by
  fun_induction longValue digits with
  | case1 => rfl
  | case2 digits _ half ih₁ ih₂ =>
    rw [ih₁, ih₂, ← List.length_drop, ← value_append, List.take_append_drop]

theorem decimal_ne_nil (n : Nat) : decimal n ≠ [] :=
  Nat.toDigits_ne_nil

theorem isDigit_of_mem_decimal {n : Nat} {c : Char} (h : c ∈ decimal n) : c.isDigit :=
  Nat.isDigit_of_mem_toDigits (by decide) (by decide) h

theorem length_padded (width : Nat) (digits : List Char) :
    (padded width digits).length = max width digits.length := by
  simp [padded]; omega

end EventBench.Text.Numeral
