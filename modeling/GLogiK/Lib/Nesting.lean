import GLogiK.Lib.Brackets

/-!
# Nested bracket words

Words of keyed brackets in which a closing bracket closes the last one that is open, as the
elements of a document do.
-/

namespace Brackets

variable {κ : Type*} [DecidableEq κ]

/-- The keys still open after the word, last one first, or `none` when a closing bracket meets
another key. -/
def unclosed : List κ → List (Mark κ) → Option (List κ)
  | s, []                   => some s
  | s, .opening k :: w      => unclosed (k :: s) w
  | [], .closing _ :: _     => none
  | l :: s, .closing k :: w => if k = l then unclosed s w else none

/-- All brackets are closed, in the order opposite to the one in which they were opened. -/
def Nested (w : List (Mark κ)) : Prop := unclosed [] w = some []

instance (w : List (Mark κ)) : Decidable (Nested w) :=
  inferInstanceAs (Decidable (unclosed [] w = some []))

lemma unclosed_append (s : List κ) (u w : List (Mark κ)) :
    unclosed s (u ++ w) = (unclosed s u).bind fun t => unclosed t w := by
  induction u generalizing s with
  | nil => rfl
  | cons b u ih =>
    match b, s with
    | .opening k, s => exact ih (k :: s)
    | .closing k, [] => rfl
    | .closing k, l :: s =>
      by_cases hk : k = l
      · simp only [List.cons_append, unclosed, if_pos hk]
        exact ih s
      · simp only [List.cons_append, unclosed, if_neg hk, Option.bind_none]

/-- What is open under a word stays open. -/
lemma unclosed_append_stack {s t : List κ} {w : List (Mark κ)} (h : unclosed s w = some t)
    (under : List κ) : unclosed (s ++ under) w = some (t ++ under) := by
  induction w generalizing s with
  | nil =>
    cases h
    rfl
  | cons b w ih =>
    match b, s with
    | .opening k, s => exact @ih (k :: s) h
    | .closing k, [] => cases h
    | .closing k, l :: s =>
      simp only [unclosed] at h
      split_ifs at h with hk
      simp only [List.cons_append, unclosed, if_pos hk]
      exact ih h

lemma Nested.unclosed_eq {w : List (Mark κ)} (h : Nested w) (s : List κ) :
    unclosed s w = some s := unclosed_append_stack h s

lemma nested_nil : Nested ([] : List (Mark κ)) := rfl

lemma Nested.append {u w : List (Mark κ)} (hu : Nested u) (hw : Nested w) : Nested (u ++ w) := by
  rw [Nested, unclosed_append, hu.unclosed_eq]
  exact hw

/-- A nested word between an opening and a closing bracket. -/
lemma Nested.wrap {w : List (Mark κ)} (h : Nested w) (k : κ) :
    Nested (.opening k :: w ++ [.closing k]) := by
  rw [Nested, unclosed_append]
  simp only [unclosed, h.unclosed_eq, Option.bind_some, if_true]

lemma nested_flatMap {α : Type*} {f : α → List (Mark κ)} {as : List α}
    (h : ∀ a ∈ as, Nested (f a)) : Nested (as.flatMap f) := by
  induction as with
  | nil => exact nested_nil
  | cons a as ih =>
    rw [List.flatMap_cons]
    exact (h a List.mem_cons_self).append (ih fun b hb => h b (List.mem_cons_of_mem a hb))

/-- A bracket that is still open when one of another key closes. -/
lemma not_nested_of_unclosed {k l : κ} (hkl : k ≠ l) {w : List (Mark κ)} (h : Nested w) :
    ¬ Nested (.opening k :: .opening l :: w ++ [.closing k]) := by
  rw [Nested, unclosed_append]
  simp [unclosed, h.unclosed_eq, hkl]

end Brackets
