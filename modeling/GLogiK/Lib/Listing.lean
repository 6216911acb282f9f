import Mathlib.Data.List.Nodup
import Mathlib.Data.List.Perm.Subperm

/-!
# Enumerates of what has a property

A list of names lists what has a property when each of these things stands in it once, under its
name, and nothing else does. Two things may have the same name.
-/

namespace Listing

variable {α β : Type*} {f : α → β} {names names' : List β} {P P' : α → Prop}

/-- The names are those of the things with the property, one after another. -/
def Enumerates (f : α → β) (names : List β) (P : α → Prop) : Prop :=
  ∃ things : List α, things.Nodup ∧ (∀ a, a ∈ things ↔ P a) ∧ names = things.map f

lemma enumerates_nil (h : ∀ a, ¬ P a) : Enumerates f [] P :=
  ⟨[], List.nodup_nil, fun a => iff_of_false List.not_mem_nil (h a), rfl⟩

lemma Enumerates.congr (h : Enumerates f names P) (hP : ∀ a, P a ↔ P' a) :
    Enumerates f names P' := by
  obtain ⟨things, hnodup, hmem, hnames⟩ := h
  exact ⟨things, hnodup, fun a => (hmem a).trans (hP a), hnames⟩

lemma Enumerates.append (h : Enumerates f names P) {a : α} (ha : ¬ P a)
    (hP : ∀ b, P' b ↔ P b ∨ b = a) : Enumerates f (names ++ [f a]) P' := by
  obtain ⟨things, hnodup, hmem, rfl⟩ := h
  refine ⟨things ++ [a], ?_, fun b => ?_, ?_⟩
  · refine List.nodup_append.mpr ⟨hnodup, List.nodup_singleton a, ?_⟩
    rintro b hb c hc rfl
    exact ha ((hmem a).mp (List.mem_singleton.mp hc ▸ hb))
  · rw [List.mem_append, List.mem_singleton, hmem, hP]
  · rw [List.map_append]
    rfl

/-- More things have more names. -/
lemma Enumerates.length_le (h : Enumerates f names P) (h' : Enumerates f names' P')
    (hP : ∀ a, P a → P' a) : names.length ≤ names'.length := by
  obtain ⟨things, hnodup, hmem, rfl⟩ := h
  obtain ⟨things', _, hmem', rfl⟩ := h'
  rw [List.length_map, List.length_map]
  exact (hnodup.subperm fun a ha => (hmem' a).mpr (hP a ((hmem a).mp ha))).length_le

variable {a : α}

end Listing
