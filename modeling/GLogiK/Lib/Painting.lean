import Mathlib.Data.Set.Lattice

/-!
# Painting

Steps that paint a part of a picture: what they leave in their region is always the same, and
around it they leave everything as it was. A step whose region covers the one of a former step
leaves no trace of it.
-/

/-- The step paints the region. `valid` says which states have a picture at all. -/
structure Paints {σ ι β : Type*} (view : σ → ι → β) (valid : σ → Prop) (region : Set ι)
    (step : σ → σ) : Prop where
  keeps : ∀ s, valid s → valid (step s)
  inside : ∀ s s', valid s → valid s' → ∀ i ∈ region, view (step s) i = view (step s') i
  outside : ∀ s, valid s → ∀ i ∉ region, view (step s) i = view s i

namespace Paints

variable {σ ι β : Type*} {view : σ → ι → β} {valid : σ → Prop} {region region' : Set ι}
  {step step' : σ → σ} {s s' : σ} {i : ι}

/-- A step that leaves a picture in the region. -/
lemma of_picture (picture : ι → β) (hkeeps : ∀ s, valid s → valid (step s))
    (hinside : ∀ s, valid s → ∀ i ∈ region, view (step s) i = picture i)
    (houtside : ∀ s, valid s → ∀ i ∉ region, view (step s) i = view s i) :
    Paints view valid region step :=
  ⟨hkeeps, fun s s' hs hs' i hi => (hinside s hs i hi).trans (hinside s' hs' i hi).symm, houtside⟩

lemma congr (h : Paints view valid region step) (heq : ∀ s, valid s → step' s = step s) :
    Paints view valid region step' where
  keeps s hs := (heq s hs).symm ▸ h.keeps s hs
  inside s s' hs hs' i hi := by
    rw [heq s hs, heq s' hs']
    exact h.inside s s' hs hs' i hi
  outside s hs i hi := by
    rw [heq s hs]
    exact h.outside s hs i hi

lemma nothing : Paints view valid ∅ (fun s => s) :=
  ⟨fun _ hs => hs, fun _ _ _ _ _ hi => hi.elim, fun _ _ _ _ => rfl⟩

/-- The second step paints over the first one. -/
lemma comp (h : Paints view valid region step) (h' : Paints view valid region' step') :
    Paints view valid (region ∪ region') (fun s => step' (step s)) where
  keeps s hs := h'.keeps _ (h.keeps s hs)
  inside s s' hs hs' i hi := by
    by_cases hi' : i ∈ region'
    · exact h'.inside _ _ (h.keeps s hs) (h.keeps s' hs') i hi'
    · rw [h'.outside _ (h.keeps s hs) i hi', h'.outside _ (h.keeps s' hs') i hi']
      exact h.inside s s' hs hs' i (hi.resolve_right hi')
  outside s hs i hi := by
    have hnot := not_or.mp hi
    rw [h'.outside _ (h.keeps s hs) i hnot.2]
    exact h.outside s hs i hnot.1

/-- A step that only paints where the first one did. -/
lemma comp_of_subset (h : Paints view valid region step) (h' : Paints view valid region' step')
    (hsub : region' ⊆ region) : Paints view valid region (fun s => step' (step s)) :=
  Set.union_eq_left.mpr hsub ▸ h.comp h'

/-- A loop paints the regions of its steps. -/
lemma foldl {γ : Type*} {body : σ → γ → σ} {regions : γ → Set ι} (cs : List γ)
    (h : ∀ c ∈ cs, Paints view valid (regions c) (fun s => body s c)) :
    Paints view valid (⋃ c ∈ cs, regions c) (fun s => cs.foldl body s) := by
  induction cs with
  | nil => simpa using nothing
  | cons c cs ih =>
    have hfirst := h c List.mem_cons_self
    have hrest := ih fun c hc => h c (List.mem_cons_of_mem _ hc)
    simpa [Set.biUnion_insert] using hfirst.comp hrest

/-- The states look alike after the step when they looked alike outside its region. -/
lemma view_eq (h : Paints view valid region step) (hs : valid s) (hs' : valid s')
    (heq : ∀ i ∉ region, view s i = view s' i) : view (step s) = view (step s') := by
  funext i
  by_cases hi : i ∈ region
  · exact h.inside s s' hs hs' i hi
  · rw [h.outside s hs i hi, h.outside s' hs' i hi]
    exact heq i hi

end Paints
