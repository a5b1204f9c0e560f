import Mathlib.Tactic.SplitIfs
import EventBench.Pass

namespace EventBench

namespace Field

end Field

namespace Fields

end Fields

namespace Event

/-- What every event keeps that is built from fields: its kind is an identifier and its span is a
forward one from zero on. -/
structure Valid (e : Event) : Prop where
  kind : Field.isIdentifier e.kind.toList = true
  start : 0 ≤ e.start
  span : e.start ≤ e.stop

theorem valid_iff (e : Event) :
    e.Valid ↔ Field.isIdentifier e.kind.toList = true ∧ 0 ≤ e.start ∧ e.start ≤ e.stop :=
  ⟨fun h => ⟨h.kind, h.start, h.span⟩, fun h => ⟨h.1, h.2.1, h.2.2⟩⟩

instance (e : Event) : Decidable e.Valid :=
  decidable_of_iff _ (valid_iff e).symm

theorem ofFields_toFields (e : Event) (h : e.Valid) : ofFields e.toFields = .ok e := by
  obtain ⟨kind, content, start, stop⟩ := e
  obtain ⟨hkind, hstart, hspan⟩ := h
  have hk : (Field.Value.text kind).toIdentifier = .ok kind := by
    simp only [Field.Value.toIdentifier, Field.Value.toText, if_pos hkind, String.ofList_toList]
  have hi (n : Int) (hn : 0 ≤ n) : (Field.Value.integer n).toOffset = .ok n := by
    simp only [Field.Value.toOffset, Field.Value.toInteger, if_neg (Int.not_lt.mpr hn)]
  have ho : ¬ stop < start := Int.not_lt.mpr hspan
  cases content <;>
    simp [ofFields, toFields, Fields.read, List.lookup_cons, hk, hi start hstart, hi stop (Int.le_trans hstart hspan),
      Field.Value.toContent, ho]

end Event

theorem Entry.build_toFields (e : Event) (h : e.Valid) : build e.toFields = .ok (ofEvent e) := by
  rw [build, Event.ofFields_toFields e h]

/-- A pass whose drafts are valid reports them all and does not fail. -/
theorem Pass.ofDrafts_eq (drafts : List Event) (h : ∀ e ∈ drafts, e.Valid) :
    ofDrafts drafts = ofEvents drafts := by
  induction drafts with
  | nil => rfl
  | cons e es ih =>
    have hes := ih fun f hf => h f (List.mem_cons_of_mem e hf)
    rw [ofDrafts] at hes ⊢
    rw [List.map_cons, Entry.build_toFields e (h e List.mem_cons_self), ofSteps_ok, hes]
    rfl

end EventBench
