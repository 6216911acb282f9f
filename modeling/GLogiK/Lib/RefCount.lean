import Mathlib.Data.Set.Card

/-!
# Counted references

Holders that each hold at most one resource, and resources with a count. The counts cover the
holders when no resource has more holders than its count; a resource that is freed when the last
reference is dropped is then never taken from another holder.
-/

namespace RefCount

variable {ι κ : Type*} {holds : ι → Option κ} {counted counted' : κ → ℕ → Prop} {i j : ι} {k : κ}
  {v : Option κ} {count : ℕ}

def holders (holds : ι → Option κ) (k : κ) : Set ι := {i | holds i = some k}

/-- No counted resource has more holders than its count. -/
def Covers (holds : ι → Option κ) (counted : κ → ℕ → Prop) : Prop :=
  ∀ k count, counted k count → (holders holds k).encard ≤ count

/-- The counts that a resource may have after `i` came to hold `v`: it has as many holders as
before, it was taken once more, it is new, or `i` let go of it. -/
inductive Recount (holds : ι → Option κ) (counted : κ → ℕ → Prop) (i : ι) (v : Option κ) (k : κ) :
    ℕ → Prop
  | kept {count : ℕ} (hcount : counted k count) (hv : v = some k → holds i = some k) :
    Recount holds counted i v k count
  | again {count : ℕ} (hcount : counted k count) : Recount holds counted i v k (count + 1)
  | fresh (hfree : ∀ j, holds j ≠ some k) : Recount holds counted i v k 1
  | released {count : ℕ} (hcount : counted k (count + 1)) (hi : holds i = some k)
    (hv : v ≠ some k) : Recount holds counted i v k count

lemma Covers.pos (h : Covers holds counted) (hcount : counted k count) (hi : holds i = some k) :
    0 < count := by
  have hne : (holders holds k).encard ≠ 0 := Set.encard_ne_zero_of_mem hi
  have hle := h k count hcount
  rw [Nat.pos_iff_ne_zero]
  rintro rfl
  exact hne (nonpos_iff_eq_zero.mp hle)

/-- With two holders the count is not the last one. -/
theorem Covers.two_le (h : Covers holds counted) (hcount : counted k count) (hi : holds i = some k)
    (hj : holds j = some k) (hij : i ≠ j) : 2 ≤ count := by
  have hpair : ({i, j} : Set ι) ⊆ holders holds k := by
    rintro x (rfl | rfl)
    · exact hi
    · exact hj
  have hle := (Set.encard_le_encard hpair).trans (h k count hcount)
  rw [Set.encard_pair hij] at hle
  exact_mod_cast hle

/-- Fewer holders and fewer resources are covered as well. -/
lemma Covers.mono {holds' : ι → Option κ} (h : Covers holds counted)
    (hholds : ∀ i k, holds' i = some k → holds i = some k)
    (hcounted : ∀ k count, counted' k count → counted k count) : Covers holds' counted' := by
  intro k count hcount
  have hsub : holders holds' k ⊆ holders holds k := fun i hi => hholds i k hi
  exact (Set.encard_le_encard hsub).trans (h k count (hcounted k count hcount))

section

variable [DecidableEq ι]

lemma holders_update_subset :
    holders (Function.update holds i v) k ⊆ insert i (holders holds k) := by
  intro j hj
  by_cases hij : j = i
  · exact Or.inl hij
  · refine Or.inr ?_
    change Function.update holds i v j = some k at hj
    rwa [Function.update_of_ne hij] at hj

/-- Who takes something else is no holder afterwards. -/
lemma holders_update_of_ne (hv : v ≠ some k) :
    holders (Function.update holds i v) k = holders holds k \ {i} := by
  ext j
  by_cases hij : j = i
  · subst hij
    simp [holders, hv]
  · simp [holders, hij]

lemma encard_holders_update_le :
    (holders (Function.update holds i v) k).encard ≤ (holders holds k).encard + 1 :=
  (Set.encard_le_encard holders_update_subset).trans (Set.encard_insert_le _ _)

/-- Counts that may be had after a step of one holder cover the holders after it. -/
theorem Covers.update (h : Covers holds counted)
    (hcounted : ∀ k count, counted' k count → Recount holds counted i v k count) :
    Covers (Function.update holds i v) counted' := by
  intro k count hafter
  cases hcounted k count hafter with
  | kept hcount hv =>
    have hsub : holders (Function.update holds i v) k ⊆ holders holds k := by
      intro j hj
      rcases holders_update_subset hj with rfl | hj'
      · refine hv ?_
        change Function.update holds j v j = some k at hj
        rwa [Function.update_self] at hj
      · exact hj'
    exact (Set.encard_le_encard hsub).trans (h k count hcount)
  | again hcount =>
    rw [Nat.cast_add, Nat.cast_one]
    exact encard_holders_update_le.trans (add_le_add_left (h k _ hcount) 1)
  | fresh hfree =>
    have hempty : holders holds k = ∅ := Set.eq_empty_of_forall_notMem hfree
    have hle : (holders (Function.update holds i v) k).encard ≤ _ := encard_holders_update_le
    rwa [hempty, Set.encard_empty, zero_add] at hle
  | released hcount hi hv =>
    have hle := h k _ hcount
    have hone := Set.encard_sdiff_singleton_add_one (s := holders holds k) hi
    rw [← hone, Nat.cast_add, Nat.cast_one] at hle
    rw [holders_update_of_ne hv]
    exact (ENat.add_le_add_iff_right ENat.one_ne_top).mp hle

end

end RefCount
