import Mathlib.Data.List.Basic
import EventBench.Proofs.Event.Valid

namespace EventBench.Event

/-- An event of a later part of the input, seen from `n` bytes further in front. -/
def shift (n : Nat) (e : Event) : Event :=
  ⟨e.kind, e.content, n + e.start, n + e.stop⟩

/-- Valid events between two places, whose starts never go back. -/
structure Ordered (low high : Nat) (events : List Event) : Prop where
  valid : ∀ e ∈ events, e.Valid
  within : ∀ e ∈ events, low ≤ e.start ∧ e.stop ≤ high
  starts : events.Pairwise fun e f => e.start ≤ f.start

theorem Ordered.nil (low high : Nat) : Ordered low high [] :=
  ⟨by simp, by simp, .nil⟩

theorem Ordered.single (kind : String) (content : Option Bytes) (start stop : Nat)
    (hkind : Field.isIdentifier kind.toList = true) (h : start ≤ stop) :
    Ordered start stop [⟨kind, content, start, stop⟩] := by
  refine ⟨?_, ?_, List.pairwise_singleton _ _⟩
  · intro e he
    rw [List.mem_singleton.mp he]
    exact ⟨hkind, Int.natCast_nonneg start, Int.ofNat_le.mpr h⟩
  · intro e he
    rw [List.mem_singleton.mp he]
    exact ⟨Int.le_refl _, Int.le_refl _⟩

theorem Ordered.mono (low low' high high' : Nat) (events : List Event) (h : Ordered low high events)
    (hlow : low' ≤ low) (hhigh : high ≤ high') : Ordered low' high' events := by
  refine ⟨h.valid, ?_, h.starts⟩
  intro e he
  have hw := h.within e he
  omega

/-- Stretches that meet at `mid` follow one another: what ends there started before. -/
theorem Ordered.append (low mid high : Nat) (es fs : List Event) (he : Ordered low mid es)
    (hf : Ordered mid high fs) (hlow : low ≤ mid) (hhigh : mid ≤ high) : Ordered low high (es ++ fs) := by
  refine ⟨?_, ?_, List.pairwise_append.mpr ⟨he.starts, hf.starts, ?_⟩⟩
  · intro e hm
    rcases List.mem_append.mp hm with hm | hm
    · exact he.valid e hm
    · exact hf.valid e hm
  · intro e hm
    rcases List.mem_append.mp hm with hm | hm
    · have hw := he.within e hm
      omega
    · have hw := hf.within e hm
      omega
  · intro e hme f hmf
    have hspan := (he.valid e hme).span
    have hwe := he.within e hme
    have hwf := hf.within f hmf
    omega

end EventBench.Event
