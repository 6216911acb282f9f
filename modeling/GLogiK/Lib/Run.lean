import Mathlib.Data.List.Infix

/-!
# Runs of a labelled transition function

A system is a function that takes a state and a label to the next state. A property of steps
holds along a run when every step of the run has it; an invariant that such steps preserve holds
in every state the run visits.
-/

namespace Run

variable {σ α : Type*} {step : σ → α → σ} {s : σ}

/-- The state after the labels. -/
def run (step : σ → α → σ) (s : σ) (as : List α) : σ := as.foldl step s

/-- Every step of the run has the property, in the state in which it is taken. -/
def Steps (step : σ → α → σ) (ok : σ → α → Prop) : σ → List α → Prop
  | _, []      => True
  | s, a :: as => ok s a ∧ Steps step ok (step s a) as

instance Steps.decidable (step : σ → α → σ) (ok : σ → α → Prop) [∀ s a, Decidable (ok s a)] :
    (s : σ) → (as : List α) → Decidable (Steps step ok s as)
  | _, []      => inferInstanceAs (Decidable True)
  | s, a :: as =>
    have := Steps.decidable step ok (step s a) as
    inferInstanceAs (Decidable (ok s a ∧ Steps step ok (step s a) as))

/-- A run leads to the state. -/
def Reachable (step : σ → α → σ) (s s' : σ) : Prop := ∃ as, run step s as = s'

@[simp] lemma run_nil : run step s [] = s := rfl

@[simp] lemma run_cons (a : α) (as : List α) :
    run step s (a :: as) = run step (step s a) as := rfl

@[simp] lemma run_append (as bs : List α) :
    run step s (as ++ bs) = run step (run step s as) bs :=
  List.foldl_append

lemma Reachable.refl : Reachable step s s := ⟨[], rfl⟩

lemma Reachable.next {s' : σ} (h : Reachable step s s') (a : α) : Reachable step s (step s' a) := by
  obtain ⟨as, rfl⟩ := h
  exact ⟨as ++ [a], by simp⟩

lemma Reachable.trans {s' s'' : σ} (h : Reachable step s s') (h' : Reachable step s' s'') :
    Reachable step s s'' := by
  obtain ⟨as, rfl⟩ := h
  obtain ⟨bs, rfl⟩ := h'
  exact ⟨as ++ bs, run_append as bs⟩

section

variable {ok ok' : σ → α → Prop}

@[simp] lemma steps_nil : Steps step ok s [] := trivial

@[simp] lemma steps_cons {a : α} {as : List α} :
    Steps step ok s (a :: as) ↔ ok s a ∧ Steps step ok (step s a) as := Iff.rfl

@[simp] lemma steps_append {as bs : List α} :
    Steps step ok s (as ++ bs) ↔ Steps step ok s as ∧ Steps step ok (run step s as) bs := by
  induction as generalizing s with
  | nil => simp
  | cons a as ih => simp [ih, and_assoc]

lemma Steps.of_isPrefix {as bs : List α} (h : Steps step ok s bs) (hab : as <+: bs) :
    Steps step ok s as := by
  obtain ⟨cs, rfl⟩ := hab
  exact (steps_append.mp h).1

lemma steps_of_forall {p : α → Prop} {as : List α} (h : ∀ a ∈ as, p a) :
    Steps step (fun _ a => p a) s as := by
  induction as generalizing s with
  | nil => trivial
  | cons a as ih =>
    obtain ⟨ha, has⟩ := List.forall_mem_cons.mp h
    exact ⟨ha, ih has⟩

lemma steps_true (as : List α) : Steps step (fun _ _ => True) s as :=
  steps_of_forall fun _ _ => trivial

/-- An invariant that the steps of the run preserve holds at its end. -/
theorem Steps.induction {inv : σ → Prop} {as : List α} (h : Steps step ok s as) (hs : inv s)
    (hstep : ∀ s a, inv s → ok s a → inv (step s a)) : inv (run step s as) := by
  induction as generalizing s with
  | nil => exact hs
  | cons a as ih => exact ih h.2 (hstep s a hs h.1)

/-- Under an invariant that the steps of the run preserve, they have what it gives them. -/
theorem Steps.imp {inv : σ → Prop} {as : List α} (h : Steps step ok s as) (hs : inv s)
    (hstep : ∀ s a, inv s → ok s a → ok' s a ∧ inv (step s a)) : Steps step ok' s as := by
  induction as generalizing s with
  | nil => trivial
  | cons a as ih =>
    obtain ⟨hok, hnext⟩ := hstep s a hs h.1
    exact ⟨hok, ih h.2 hnext⟩

/-- An invariant that all steps preserve holds in every reachable state. -/
theorem Reachable.induction {inv : σ → Prop} {s' : σ} (h : Reachable step s s') (hs : inv s)
    (hstep : ∀ s a, inv s → inv (step s a)) : inv s' := by
  obtain ⟨as, rfl⟩ := h
  exact (steps_true as).induction hs fun s a hinv _ => hstep s a hinv

/-- Under an invariant, two properties of steps may be exchanged along a run. -/
theorem steps_congr {inv : σ → Prop} (hs : inv s) (hstep : ∀ s a, inv s → inv (step s a))
    (hok : ∀ s a, inv s → (ok s a ↔ ok' s a)) (as : List α) :
    Steps step ok s as ↔ Steps step ok' s as := by
  induction as generalizing s with
  | nil => exact Iff.rfl
  | cons a as ih => exact and_congr (hok s a hs) (ih (hstep s a hs))

/-- Every state of a run has a property exactly when every step meets a condition, where from a
state with the property the steps that meet it are those that keep the property. The invariant
needs the property. -/
theorem steps_iff_of_good {inv good : σ → Prop} (hs : inv s) (hgood : good s)
    (hstep : ∀ s a, inv s → good s → good (step s a) → inv (step s a))
    (hok : ∀ s a, inv s → good s → (good (step s a) ↔ ok s a)) (as : List α) :
    Steps step (fun s a => good (step s a)) s as ↔ Steps step ok s as := by
  induction as generalizing s with
  | nil => exact Iff.rfl
  | cons a as ih =>
    constructor
    · intro h
      have hnext : inv (step s a) := hstep s a hs hgood h.1
      exact ⟨(hok s a hs hgood).mp h.1, (ih hnext h.1).mp h.2⟩
    · intro h
      have hnext : good (step s a) := (hok s a hs hgood).mpr h.1
      exact ⟨hnext, (ih (hstep s a hs hgood hnext) hnext).mpr h.2⟩

/-- The same with an invariant that all steps preserve. -/
theorem steps_iff_of_keeps {inv good : σ → Prop} (hs : inv s) (hgood : good s)
    (hstep : ∀ s a, inv s → inv (step s a))
    (hok : ∀ s a, inv s → good s → (good (step s a) ↔ ok s a)) (as : List α) :
    Steps step (fun s a => good (step s a)) s as ↔ Steps step ok s as :=
  steps_iff_of_good hs hgood (fun s a hinv _ _ => hstep s a hinv) hok as

/-- The same without an invariant. -/
theorem steps_iff_of_step {good : σ → Prop} (hgood : good s)
    (hok : ∀ s a, good s → (good (step s a) ↔ ok s a)) (as : List α) :
    Steps step (fun s a => good (step s a)) s as ↔ Steps step ok s as :=
  steps_iff_of_good hgood hgood (fun _ _ _ _ hnext => hnext) (fun s a _ h => hok s a h) as

end

end Run
