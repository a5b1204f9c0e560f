namespace EventBench.Text

theorem span_append {α : Type} (p : α → Bool) (run rest : List α) (h : ∀ a ∈ run, p a = true)
    (hr : ∀ a ∈ rest.head?, p a = false) :
    (run ++ rest).takeWhile p = run ∧ (run ++ rest).dropWhile p = rest := by
  rw [List.takeWhile_append_of_pos h, List.dropWhile_append_of_pos h]
  cases rest with
  | nil => simp
  | cons a rest =>
    have ha : ¬ p a = true := by simp [hr a rfl]
    rw [List.takeWhile_cons_of_neg ha, List.dropWhile_cons_of_neg ha]
    simp

end EventBench.Text
