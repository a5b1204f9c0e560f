import Mathlib.Data.List.Basic
import Mathlib.Data.List.TakeWhile
import EventBench.Console
import EventBench.Proofs.Text.Utf8

namespace EventBench.Console

def Plain (text : String) : Prop :=
  ∀ x ∈ text.toList, isAscii x = true

instance (text : String) : Decidable (Plain text) :=
  decidable_of_iff (text.toList.all isAscii = true) List.all_eq_true

theorem Plain.append {s t : String} (hs : Plain s) (ht : Plain t) : Plain (s ++ t) := by
  intro x hx
  rw [String.toList_append, List.mem_append] at hx
  rcases hx with hx | hx
  · exact hs x hx
  · exact ht x hx

theorem Plain.of_append_right {s t : String} (h : Plain (s ++ t)) : Plain t := by
  intro x hx
  apply h
  rw [String.toList_append]
  exact List.mem_append_right _ hx

theorem plain_ofList {cs : List Char} (h : ∀ c ∈ cs, isAscii c = true) : Plain (String.ofList cs) := by
  intro x hx
  rw [String.toList_ofList] at hx
  exact h x hx

/-- A console of ASCII takes nothing of a text that holds another character. -/
theorem write_ascii (c : Console) (text : String) (h : c.encoding = .ascii) {x : Char}
    (hx : x ∈ text.toList) (hforeign : isAscii x = false) : ∃ f, c.write text = .error f := by
  have hrest : text.toList.dropWhile isAscii ≠ [] := by
    intro hnil
    have hall := List.dropWhile_eq_nil_iff.mp hnil x hx
    rw [hforeign] at hall
    cases hall
  cases hdrop : text.toList.dropWhile isAscii with
  | nil => exact absurd hdrop hrest
  | cons y rest =>
    refine ⟨.unencodable ((y :: rest).takeWhile fun c => !isAscii c) (text.toList.takeWhile isAscii).length, ?_⟩
    simp only [Console.write, h, Encoding.encode, hdrop]

/-- A text of nothing but ASCII is spelt by such a console as UTF-8 spells it. -/
theorem write_of_ascii (c : Console) (text : String) (h : c.encoding = .ascii)
    (hascii : ∀ x ∈ text.toList, isAscii x = true) :
    c.write text = .ok { c with pieces := Text.Utf8.encode text.toList :: c.pieces } := by
  have htake : text.toList.takeWhile isAscii = text.toList := List.takeWhile_eq_self_iff.mpr hascii
  have hdrop : text.toList.dropWhile isAscii = [] := List.dropWhile_eq_nil_iff.mpr hascii
  have hspelt : text.toList.map (fun x => UInt8.ofNat x.toNat) = Text.Utf8.encode text.toList := by
    rw [Text.Utf8.encode, List.map_eq_flatMap]
    apply List.flatMap_congr
    intro x hx
    rw [Text.Utf8.utf8EncodeChar_ascii x (of_decide_eq_true (hascii x hx))]
  simp only [Console.write, h, Encoding.encode, hdrop, htake, hspelt]

/-- Nothing but its characters keeps a text from a console. -/
theorem kind_of_write_error {c : Console} {text : String} {f : Fault} (h : c.write text = .error f) :
    f.kind = .encoding := by
  cases hencoding : c.encoding with
  | utf8 =>
    rw [write_utf8 c text hencoding] at h
    cases h
  | ascii =>
    cases hdrop : text.toList.dropWhile isAscii <;>
      simp only [write, hencoding, Encoding.encode, hdrop] at h <;> cases h
    rfl

/-- Lines, each with a line feed behind it, as UTF-8 spells them. -/
def spelt (lines : List String) : Bytes :=
  Text.Utf8.encode (lines.flatMap fun line => (line ++ "\n").toList)

theorem spelt_append (lines more : List String) : spelt (lines ++ more) = spelt lines ++ spelt more := by
  rw [spelt, List.flatMap_append, Text.Utf8.encode_append]
  rfl

theorem spelt_cons (line : String) (rest : List String) :
    spelt (line :: rest) = Text.Utf8.encode (line ++ "\n").toList ++ spelt rest := by
  rw [spelt, List.flatMap_cons, Text.Utf8.encode_append]
  rfl

theorem spelt_cons_ne_nil (line : String) (rest : List String) : spelt (line :: rest) ≠ [] := by
  rw [spelt_cons, String.toList_append, Text.Utf8.encode_append]
  intro h
  have hfeed : Text.Utf8.encode "\n".toList ≠ [] := by decide
  exact hfeed (List.append_eq_nil_iff.mp (List.append_eq_nil_iff.mp h).1).2

theorem writeLines_plain (c : Console) (lines : List String) (h : c.encoding = .ascii)
    (hplain : ∀ line ∈ lines, Plain line) :
    ∃ d, c.writeLines lines = (d, none) ∧ d.encoding = .ascii ∧ d.bytes = c.bytes ++ spelt lines := by
  induction lines generalizing c with
  | nil => exact ⟨c, rfl, h, (List.append_nil c.bytes).symm⟩
  | cons line rest ih =>
    obtain ⟨hline, hrest⟩ := List.forall_mem_cons.mp hplain
    have hfeed : Plain "\n" := by decide
    have hwrite := write_of_ascii c (line ++ "\n") h (hline.append hfeed)
    obtain ⟨d, hd, hencoding, hbytes⟩ :=
      ih { c with pieces := Text.Utf8.encode (line ++ "\n").toList :: c.pieces } h hrest
    refine ⟨d, ?_, hencoding, ?_⟩
    · rw [writeLines, hwrite]
      exact hd
    · rw [hbytes, spelt_cons]
      simp [bytes]

theorem writeLines_append {c d : Console} {before : List String} (h : c.writeLines before = (d, none))
    (later : List String) : c.writeLines (before ++ later) = d.writeLines later := by
  induction before generalizing c with
  | nil =>
    cases h
    rfl
  | cons line rest ih =>
    rw [List.cons_append, writeLines]
    rw [writeLines] at h
    cases hwrite : c.write (line ++ "\n") with
    | ok e =>
      rw [hwrite] at h
      exact ih h
    | error f =>
      rw [hwrite] at h
      cases h

/-- A line that is no ASCII ends the writing, with the lines before it on the console. -/
theorem writeLines_foreign (c : Console) (before : List String) (line : String) (later : List String)
    (h : c.encoding = .ascii) (hplain : ∀ line ∈ before, Plain line) (hforeign : ¬ Plain line) :
    ∃ d f, c.writeLines (before ++ line :: later) = (d, some f) ∧ f.kind = .encoding ∧
      d.bytes = c.bytes ++ spelt before := by
  obtain ⟨d, hd, hencoding, hbytes⟩ := writeLines_plain c before h hplain
  obtain ⟨x, hx, hno⟩ : ∃ x ∈ line.toList, isAscii x ≠ true := by simpa [Plain] using hforeign
  have hmem : x ∈ (line ++ "\n").toList := by
    rw [String.toList_append]
    exact List.mem_append_left _ hx
  obtain ⟨f, hwrite⟩ := write_ascii d (line ++ "\n") hencoding hmem (eq_false_of_ne_true hno)
  refine ⟨d, f, ?_, kind_of_write_error hwrite, hbytes⟩
  rw [writeLines_append hd, writeLines, hwrite]

end EventBench.Console
