import Mathlib.Data.Multiset.AddSub

/-!
# Keyed bracket words

Words of opening and closing brackets, where a bracket carries a key and brackets of
different keys may overlap. A word is *paired* when its brackets can be cancelled two by two,
an opening one against a later closing one of the same key. Reading the word from left to
right with the multiset of keys that are still open decides this.
-/

namespace Brackets

variable {κ : Type*} [DecidableEq κ]

/-- A bracket with its key. -/
inductive Mark (κ : Type*)
  | opening (k : κ)
  | closing (k : κ)
  deriving DecidableEq

/-- The brackets of the word can be paired one to one: same key, the opening one first. -/
inductive Paired : List (Mark κ) → Prop
  | nil : Paired []
  | pair (k : κ) (u v w : List (Mark κ)) (h : Paired (u ++ v ++ w)) :
      Paired (u ++ .opening k :: v ++ .closing k :: w)

/-- The keys still open after the word, or `none` when a closing bracket meets no opening one. -/
def pending (s : Multiset κ) : List (Mark κ) → Option (Multiset κ)
  | [] => some s
  | .opening k :: w => pending (k ::ₘ s) w
  | .closing k :: w => if k ∈ s then pending (s.erase k) w else none

@[simp] lemma pending_nil (s : Multiset κ) : pending s [] = some s := rfl

@[simp] lemma pending_opening (s : Multiset κ) (k : κ) (w : List (Mark κ)) :
    pending s (.opening k :: w) = pending (k ::ₘ s) w := rfl

lemma pending_closing_of_mem {s : Multiset κ} {k : κ} (h : k ∈ s) (w : List (Mark κ)) :
    pending s (.closing k :: w) = pending (s.erase k) w := if_pos h

lemma pending_closing_of_notMem {s : Multiset κ} {k : κ} (h : k ∉ s) (w : List (Mark κ)) :
    pending s (.closing k :: w) = none := if_neg h

lemma pending_append (s : Multiset κ) (u w : List (Mark κ)) :
    pending s (u ++ w) = (pending s u).bind fun t => pending t w := by
  induction u generalizing s with
  | nil => rfl
  | cons b u ih =>
    match b with
    | .opening k => exact ih (k ::ₘ s)
    | .closing k =>
      by_cases hk : k ∈ s
      · simp only [List.cons_append, pending_closing_of_mem hk, ih]
      · simp only [List.cons_append, pending_closing_of_notMem hk, Option.bind_none]

/-- A key that is open and not needed stays open. -/
lemma pending_cons_of_some {s t : Multiset κ} {w : List (Mark κ)} (h : pending s w = some t)
    (k : κ) : pending (k ::ₘ s) w = some (k ::ₘ t) := by
  induction w generalizing s with
  | nil => simpa using h
  | cons b w ih =>
    match b with
    | .opening j =>
      rw [pending_opening] at h ⊢
      rw [Multiset.cons_swap]
      exact ih h
    | .closing j =>
      by_cases hj : j ∈ s
      · rw [pending_closing_of_mem hj] at h
        rw [pending_closing_of_mem (Multiset.mem_cons_of_mem hj)]
        by_cases hjk : k = j
        · subst hjk
          rw [Multiset.erase_cons_head, ← Multiset.cons_erase hj]
          exact ih h
        · rw [Multiset.erase_cons_tail _ hjk]
          exact ih h
      · rw [pending_closing_of_notMem hj] at h
        cases h

/-- An open key is either never closed by the word, or closed at some first place; without it
the rest of the reading is the same. -/
lemma pending_cons_cases {s t : Multiset κ} {k : κ} {w : List (Mark κ)}
    (h : pending (k ::ₘ s) w = some t) :
    (∃ t', t = k ::ₘ t' ∧ pending s w = some t') ∨
      ∃ v w', w = v ++ .closing k :: w' ∧ pending s (v ++ w') = some t := by
  induction w generalizing s with
  | nil => exact Or.inl ⟨s, by simpa using h.symm, rfl⟩
  | cons b w ih =>
    match b with
    | .opening j =>
      rw [pending_opening, Multiset.cons_swap] at h
      rcases ih h with hl | ⟨v, w', rfl, hr⟩
      · exact Or.inl hl
      · exact Or.inr ⟨.opening j :: v, w', rfl, hr⟩
    | .closing j =>
      by_cases hj : j ∈ s
      · have hs : (k ::ₘ s).erase j = k ::ₘ s.erase j := by
          by_cases hjk : k = j
          · subst hjk
            rw [Multiset.erase_cons_head, Multiset.cons_erase hj]
          · exact Multiset.erase_cons_tail _ hjk
        rw [pending_closing_of_mem (Multiset.mem_cons_of_mem hj), hs] at h
        rcases ih h with ⟨t', ht, hl⟩ | ⟨v, w', rfl, hr⟩
        · exact Or.inl ⟨t', ht, by rw [pending_closing_of_mem hj, hl]⟩
        · exact Or.inr ⟨.closing j :: v, w', rfl, by
            rw [List.cons_append, pending_closing_of_mem hj, hr]⟩
      · -- the only `j` that is open is the extra key
        by_cases hjk : j = k
        · subst hjk
          rw [pending_closing_of_mem (Multiset.mem_cons_self _ _),
            Multiset.erase_cons_head] at h
          exact Or.inr ⟨[], w, rfl, h⟩
        · rw [pending_closing_of_notMem (by simp [hjk, hj])] at h
          cases h

lemma Paired.pending_eq {w : List (Mark κ)} (h : Paired w) : pending 0 w = some 0 := by
  induction h with
  | nil => rfl
  | pair k u v w _ ih =>
    rw [List.append_assoc, pending_append, Option.bind_eq_some_iff] at ih
    obtain ⟨s, hu, hvw⟩ := ih
    rw [pending_append, Option.bind_eq_some_iff] at hvw
    obtain ⟨t, hv, hw⟩ := hvw
    rw [List.append_assoc, pending_append, hu, Option.bind_some, List.cons_append,
      pending_opening, pending_append, pending_cons_of_some hv, Option.bind_some,
      pending_closing_of_mem (Multiset.mem_cons_self _ _), Multiset.erase_cons_head]
    exact hw

lemma paired_of_pending : ∀ {w : List (Mark κ)}, pending 0 w = some 0 → Paired w
  | [], _ => .nil
  | .closing k :: w, h => by
    rw [pending_closing_of_notMem (Multiset.notMem_zero k)] at h
    cases h
  | .opening k :: w, h => by
    rw [pending_opening] at h
    rcases pending_cons_cases h with ⟨t', ht, _⟩ | ⟨v, w', hw, hvw⟩
    · exact absurd ht.symm (Multiset.cons_ne_zero)
    · have hlen : (v ++ w').length < (Mark.opening k :: w).length := by
        rw [hw]
        simp only [List.length_append, List.length_cons]
        omega
      subst hw
      exact .pair k [] v w' (paired_of_pending hvw)
termination_by w => w.length

/-- A word is paired exactly when reading it never meets a stray closing bracket and leaves
no key open. -/
theorem paired_iff_pending {w : List (Mark κ)} : Paired w ↔ pending 0 w = some 0 :=
  ⟨Paired.pending_eq, paired_of_pending⟩

end Brackets
