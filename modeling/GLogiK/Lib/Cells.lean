import Mathlib.Data.List.Basic

/-!
# Cells that are accessed without check

Memory whose cells are read and written by index. An access out of range does nothing here, but it
is remembered, so that it can be shown that there is none.
-/

/-- `accesses` only remembers the indexes, oldest first. -/
structure Cells (α : Type*) where
  data : List α
  accesses : List ℕ := []
  deriving DecidableEq, Repr

namespace Cells

variable {α σ : Type*}

/-- All accesses were in range. -/
def InRange (c : Cells α) : Prop := ∀ i ∈ c.accesses, i < c.data.length

def modify (c : Cells α) (i : ℕ) (f : α → α) : Cells α where
  data := c.data.modify i f
  accesses := c.accesses ++ [i]

def set (c : Cells α) (i : ℕ) (a : α) : Cells α := c.modify i fun _ => a

/-- Cells that are read one after another. -/
def touch (c : Cells α) (is : List ℕ) : Cells α := { c with accesses := c.accesses ++ is }

variable {c c' c'' : Cells α} {i j lo hi : ℕ}

@[simp] lemma length_modify (f : α → α) : (c.modify i f).data.length = c.data.length :=
  List.length_modify _ _ _

@[simp] lemma length_set (a : α) : (c.set i a).data.length = c.data.length :=
  length_modify _

lemma getElem?_set (a : α) :
    (c.set i a).data[j]? = if j = i ∧ j < c.data.length then some a else c.data[j]? := by
  rw [set, modify, List.getElem?_modify]
  by_cases hj : j < c.data.length
  · rw [List.getElem?_eq_getElem hj]
    by_cases hij : i = j
    · simp [hij, hj]
    · simp [hij, Ne.symm hij]
  · simp [hj]

/-! ### Parts of the memory -/

/-- The step only accesses cells from `lo` to before `hi`. -/
structure Within (lo hi : ℕ) (c c' : Cells α) : Prop where
  length : c'.data.length = c.data.length
  accesses : ∃ is, c'.accesses = c.accesses ++ is ∧ ∀ i ∈ is, lo ≤ i ∧ i < hi

lemma Within.refl (c : Cells α) : Within lo hi c c :=
  ⟨rfl, [], (List.append_nil _).symm, List.forall_mem_nil _⟩

lemma Within.trans (h : Within lo hi c c') (h' : Within lo hi c' c'') : Within lo hi c c'' := by
  obtain ⟨is, his, hall⟩ := h.accesses
  obtain ⟨is', his', hall'⟩ := h'.accesses
  refine ⟨h'.length.trans h.length, is ++ is', ?_, List.forall_mem_append.mpr ⟨hall, hall'⟩⟩
  rw [his', his, List.append_assoc]

lemma within_modify (f : α → α) (hlo : lo ≤ i) (hhi : i < hi) : Within lo hi c (c.modify i f) :=
  ⟨length_modify f, [i], rfl, List.forall_mem_singleton.mpr ⟨hlo, hhi⟩⟩

lemma within_set (a : α) (hlo : lo ≤ i) (hhi : i < hi) : Within lo hi c (c.set i a) :=
  within_modify _ hlo hhi

/-- A loop whose steps stay in the part. -/
lemma within_foldl {β : Type*} {body : Cells α → β → Cells α} (bs : List β)
    (h : ∀ c, ∀ b ∈ bs, Within lo hi c (body c b)) (c : Cells α) :
    Within lo hi c (bs.foldl body c) := by
  induction bs generalizing c with
  | nil => exact .refl c
  | cons b bs ih =>
    have hfirst := h c b List.mem_cons_self
    exact hfirst.trans (ih (fun c b hb => h c b (List.mem_cons_of_mem _ hb)) (body c b))

/-! ### Counting loops -/

/-- A loop over the first numbers whose body takes each state to the next one. -/
lemma foldl_range_eq {state : ℕ → σ} {body : σ → ℕ → σ} (n : ℕ)
    (h : ∀ i < n, body (state i) i = state (i + 1)) :
    (List.range n).foldl body (state 0) = state n := by
  induction n with
  | zero => rfl
  | succ n ih =>
    rw [List.range_succ, List.foldl_append, ih fun i hi => h i (Nat.lt_succ_of_lt hi)]
    exact h n (Nat.lt_succ_self n)

end Cells
