import Mathlib.Data.Nat.Notation
import Mathlib.Tactic.SplitIfs

/-!
# Actions that may throw

An action changes a state, and returns a value or throws. What was changed before the exception
stays changed. An invariant that all parts of an action keep is kept by the action, however it
ends.
-/

namespace Actions

/-- A state `σ` is changed, and an exception `ε` may be thrown. -/
abbrev Action (ε σ : Type) := ExceptT ε (StateM σ)

variable {ε σ α β : Type} {s s' : σ}

/-! ### One action after another -/

lemma bind_of_ok {x : Action ε σ α} {next : α → Action ε σ β} {value : α}
    (h : x s = (.ok value, s')) : (x >>= next) s = next value s' := by
  simp only [bind, ExceptT.bind, ExceptT.mk, ExceptT.bindCont, StateT.bind, h]

lemma bind_of_error {x : Action ε σ α} {next : α → Action ε σ β} {e : ε}
    (h : x s = (.error e, s')) : (x >>= next) s = (.error e, s') := by
  simp only [bind, ExceptT.bind, ExceptT.mk, ExceptT.bindCont, StateT.bind, h]
  rfl

/-- An action that succeeds has gone through both of its parts. -/
lemma bind_eq_ok {x : Action ε σ α} {next : α → Action ε σ β} {value : β}
    (h : (x >>= next) s = (.ok value, s')) :
    ∃ first between, x s = (.ok first, between) ∧ next first between = (.ok value, s') := by
  rcases hx : x s with ⟨e | first, between⟩
  · rw [bind_of_error hx] at h
    cases h
  · rw [bind_of_ok hx] at h
    exact ⟨first, between, rfl, h⟩

lemma tryCatch_of_ok {x : Action ε σ α} {handle : ε → Action ε σ α} {value : α}
    (h : x s = (.ok value, s')) : (tryCatch x handle) s = (.ok value, s') := by
  simp only [tryCatch, tryCatchThe, MonadExceptOf.tryCatch, ExceptT.tryCatch, ExceptT.mk, bind,
    StateT.bind, h]
  rfl

lemma tryCatch_of_error {x : Action ε σ α} {handle : ε → Action ε σ α} {e : ε}
    (h : x s = (.error e, s')) : (tryCatch x handle) s = handle e s' := by
  simp only [tryCatch, tryCatchThe, MonadExceptOf.tryCatch, ExceptT.tryCatch, ExceptT.mk, bind,
    StateT.bind, h]

/-! ### Invariants -/

/-- The action keeps the invariant, also when it throws. -/
def Keeps (inv : σ → Prop) (x : Action ε σ α) : Prop := ∀ s, inv s → inv (x s).2

variable {inv : σ → Prop}

lemma Keeps.pure (value : α) : Keeps inv (pure value : Action ε σ α) := fun _ hs => hs

lemma Keeps.throw (e : ε) : Keeps inv (throw e : Action ε σ α) := fun _ hs => hs

lemma Keeps.bind {x : Action ε σ α} {next : α → Action ε σ β} (hx : Keeps inv x)
    (hnext : ∀ value, Keeps inv (next value)) : Keeps inv (x >>= next) := by
  intro s hs
  have hbetween := hx s hs
  rcases hrun : x s with ⟨e | value, s'⟩
  · rw [hrun] at hbetween
    rw [bind_of_error hrun]
    exact hbetween
  · rw [hrun] at hbetween
    rw [bind_of_ok hrun]
    exact hnext value s' hbetween

lemma Keeps.ite {p : Prop} [Decidable p] {x y : Action ε σ α} (hx : p → Keeps inv x)
    (hy : ¬ p → Keeps inv y) : Keeps inv (if p then x else y) := by
  split_ifs with hp
  · exact hx hp
  · exact hy hp

lemma Keeps.tryCatch {x : Action ε σ α} {handle : ε → Action ε σ α} (hx : Keeps inv x)
    (hhandle : ∀ e, Keeps inv (handle e)) : Keeps inv (tryCatch x handle) := by
  intro s hs
  have hbetween := hx s hs
  rcases hrun : x s with ⟨e | value, s'⟩
  · rw [hrun] at hbetween
    rw [tryCatch_of_error hrun]
    exact hhandle e s' hbetween
  · rw [hrun] at hbetween
    rw [tryCatch_of_ok hrun]
    exact hbetween

lemma Keeps.forM {γ : Type} {as : List γ} {body : γ → Action ε σ PUnit}
    (hbody : ∀ a ∈ as, Keeps inv (body a)) : Keeps inv (as.forM body) := by
  induction as with
  | nil => exact Keeps.pure _
  | cons a as ih =>
    obtain ⟨ha, has⟩ := List.forall_mem_cons.mp hbody
    exact Keeps.bind ha fun _ => ih has

/-- A counting loop whose body succeeds and takes one invariant to the next. -/
lemma forM_range'_ok {body : ℕ → Action ε σ PUnit} {invAt : ℕ → σ → Prop} (a n : ℕ)
    (hbody : ∀ i, a ≤ i → i < a + n → ∀ s, invAt i s →
      ∃ s', body i s = (.ok ⟨⟩, s') ∧ invAt (i + 1) s')
    (hs : invAt a s) :
    ∃ s', (List.range' a n).forM body s = (.ok ⟨⟩, s') ∧ invAt (a + n) s' := by
  induction n generalizing a s with
  | zero => exact ⟨s, rfl, hs⟩
  | succ n ih =>
    obtain ⟨s₁, hfirst, hs₁⟩ := hbody a (Nat.le_refl a) (Nat.lt_add_of_pos_right n.succ_pos) s hs
    obtain ⟨s₂, hrest, hs₂⟩ := @ih s₁ (a + 1)
      (fun i hi hlt => hbody i (Nat.le_of_succ_le hi) (by omega)) hs₁
    refine ⟨s₂, ?_, ?_⟩
    · rw [List.range'_succ]
      exact (bind_of_ok hfirst).trans hrest
    · rw [Nat.add_right_comm] at hs₂
      exact hs₂

lemma forM_range_ok {body : ℕ → Action ε σ PUnit} (invAt : ℕ → σ → Prop) (n : ℕ)
    (hbody : ∀ i < n, ∀ s, invAt i s → ∃ s', body i s = (.ok ⟨⟩, s') ∧ invAt (i + 1) s')
    (hs : invAt 0 s) : ∃ s', (List.range n).forM body s = (.ok ⟨⟩, s') ∧ invAt n s' := by
  obtain ⟨s', hloop, hs'⟩ := forM_range'_ok 0 n
    (fun i _ hi => hbody i (by rwa [Nat.zero_add] at hi)) hs
  rw [Nat.zero_add] at hs'
  rw [List.range_eq_range']
  exact ⟨s', hloop, hs'⟩

end Actions
