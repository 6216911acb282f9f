import Mathlib.Algebra.Order.Group.Basic
import Mathlib.Data.List.Pairwise

/-!
# Throttled requests

Requests come at certain times. One is accepted when more than a window of time has passed since
the last accepted one, and ignored otherwise.
-/

namespace Throttle

variable {τ : Type*} [AddCommGroup τ] [LinearOrder τ] {window last : τ} {times : List τ}

/-- The accepted times, after one that was accepted before. -/
def accepted (window last : τ) : List τ → List τ
  | []      => []
  | t :: ts =>
    if window < t - last then t :: accepted window t ts else accepted window last ts

@[simp] lemma accepted_nil : accepted window last [] = [] := rfl

lemma accepted_cons_of_lt {t : τ} (h : window < t - last) :
    accepted window last (t :: times) = t :: accepted window t times := if_pos h

lemma accepted_cons_of_not_lt {t : τ} (h : ¬ window < t - last) :
    accepted window last (t :: times) = accepted window last times := if_neg h

/-- The last of the accepted times. -/
def latest (window last : τ) (times : List τ) : τ :=
  (accepted window last times).getLast?.getD last

@[simp] lemma latest_nil : latest window last [] = last := rfl

lemma latest_cons_of_lt {t : τ} (h : window < t - last) :
    latest window last (t :: times) = latest window t times := by
  simp only [latest, accepted_cons_of_lt h, List.getLast?_cons, Option.getD_some]

lemma latest_cons_of_not_lt {t : τ} (h : ¬ window < t - last) :
    latest window last (t :: times) = latest window last times := by
  simp only [latest, accepted_cons_of_not_lt h]

/-- When the requests come in order, each has an accepted one, or the one before all, at most a
window before it. -/
theorem exists_accepted_near (hwindow : 0 ≤ window) (hsorted : (last :: times).Pairwise (· ≤ ·)) :
    ∀ t ∈ times, ∃ t' ∈ last :: accepted window last times, t' ≤ t ∧ t - t' ≤ window := by
  induction times generalizing last with
  | nil => simp
  | cons t ts ih =>
    obtain ⟨hlast, hts⟩ := List.pairwise_cons.mp hsorted
    intro u hu
    by_cases h : window < t - last
    · rw [accepted_cons_of_lt h]
      rcases List.mem_cons.mp hu with rfl | hu
      · exact ⟨u, by simp, le_refl u, by simpa using hwindow⟩
      · obtain ⟨t', ht', hnear⟩ := ih hts u hu
        exact ⟨t', List.mem_cons_of_mem last ht', hnear⟩
    · rw [accepted_cons_of_not_lt h]
      rcases List.mem_cons.mp hu with rfl | hu
      · exact ⟨last, List.mem_cons_self, hlast u List.mem_cons_self, not_lt.mp h⟩
      · have hskip : (last :: ts).Pairwise (· ≤ ·) :=
          hsorted.sublist ((List.sublist_cons_self t ts).cons_cons last)
        exact ih hskip u hu

lemma latest_le {bound : τ} (hlast : last ≤ bound) (h : ∀ t ∈ times, t ≤ bound) :
    latest window last times ≤ bound := by
  induction times generalizing last with
  | nil => exact hlast
  | cons t ts ih =>
    obtain ⟨ht, hts⟩ := List.forall_mem_cons.mp h
    by_cases hlt : window < t - last
    · rw [latest_cons_of_lt hlt]
      exact ih ht hts
    · rw [latest_cons_of_not_lt hlt]
      exact ih hlast hts

section

variable [IsOrderedAddMonoid τ]

/-- The accepted times lie more than a window apart, and after the one before all. -/
theorem accepted_pairwise (hwindow : 0 ≤ window) :
    (last :: accepted window last times).Pairwise fun t t' => window < t' - t := by
  induction times generalizing last with
  | nil => exact List.pairwise_singleton _ last
  | cons t ts ih =>
    by_cases h : window < t - last
    · rw [accepted_cons_of_lt h]
      refine List.pairwise_cons.mpr ⟨fun u hu => ?_, ih⟩
      rcases List.mem_cons.mp hu with rfl | hu
      · exact h
      · have hut : window < u - t := List.rel_of_pairwise_cons ih hu
        have htl : 0 < t - last := lt_of_le_of_lt hwindow h
        calc window < u - t := hut
          _ < u - t + (t - last) := lt_add_of_pos_right (u - t) htl
          _ = u - last := sub_add_sub_cancel u t last
    · rw [accepted_cons_of_not_lt h]
      exact ih

/-- As many windows as there are accepted times lie between the first and the last of them. -/
theorem nsmul_length_accepted_le (window last : τ) (times : List τ) :
    (accepted window last times).length • window ≤ latest window last times - last := by
  induction times generalizing last with
  | nil => simp
  | cons t ts ih =>
    by_cases h : window < t - last
    · rw [accepted_cons_of_lt h, latest_cons_of_lt h, List.length_cons, succ_nsmul]
      calc (accepted window t ts).length • window + window
          ≤ (latest window t ts - t) + (t - last) := add_le_add (ih t) h.le
        _ = latest window t ts - last := sub_add_sub_cancel _ t last
    · rw [accepted_cons_of_not_lt h, latest_cons_of_not_lt h]
      exact ih last

end

end Throttle
