import Mathlib.Data.List.Basic
import GLogiK.Lib.Actions

/-!
# Handles

A handle is made by a call of a foreign library, used by other calls, and has to be released by a
last one. An action has one handle at hand; while it works with another one, that one is at hand.
What was done with a handle is known when the action is done with it.
-/

namespace Handles

open Actions

/-- What is done with a handle. -/
inductive Call
  | use
  | release
  deriving DecidableEq, Repr

/-- The handle is released once, and not used after that. -/
def ReleasedOnce (calls : List Call) : Prop :=
  calls.count .release = 1 ∧ calls.getLast? = some .release

instance (calls : List Call) : Decidable (ReleasedOnce calls) :=
  inferInstanceAs (Decidable (_ ∧ _))

lemma releasedOnce_append_release {calls : List Call} :
    ReleasedOnce (calls ++ [.release]) ↔ .release ∉ calls := by
  rw [ReleasedOnce, List.getLast?_concat, and_iff_left rfl, List.count_append,
    List.count_singleton_self, Nat.add_eq_right, List.count_eq_zero]

/-- A handle with what it stands for. -/
structure Handle (κ : Type) where
  what : κ
  calls : List Call
  deriving DecidableEq, Repr

/-- `calls` is what was done with the handle at hand, and `ended` are the handles that the action is
done with. -/
structure Held (κ σ : Type) where
  state : σ
  calls : List Call := []
  ended : List (Handle κ) := []
  deriving DecidableEq, Repr

variable {ε κ σ α β : Type}

/-- A call that only needs the handle. -/
def use : Action ε (Held κ σ) Unit := modify fun s => { s with calls := s.calls ++ [.use] }

def release : Action ε (Held κ σ) Unit := modify fun s => { s with calls := s.calls ++ [.release] }

/-- The state that is no handle is changed. -/
def change (f : σ → σ) : Action ε (Held κ σ) Unit := modify fun s => { s with state := f s.state }

/-- The action works with a new handle. -/
def withHandle (what : κ) (body : Action ε (Held κ σ) α) : Action ε (Held κ σ) α := fun s =>
  let r := body { s with calls := [] }
  (r.1, { r.2 with calls := s.calls, ended := r.2.ended ++ [⟨what, r.2.calls⟩] })

/-- The handle is released, however the body ends. -/
def released (body : Action ε (Held κ σ) Unit) : Action ε (Held κ σ) Unit := do
  tryCatch body fun e => do
    release
    throw e
  release

/-! ### Actions that succeed -/

lemma withHandle_eq_ok {what : κ} {body : Action ε (Held κ σ) α} {s s' : Held κ σ} {value : α}
    (h : withHandle what body s = (.ok value, s')) :
    ∃ s'', body { s with calls := [] } = (.ok value, s'') ∧ s'.state = s''.state := by
  obtain ⟨hvalue, rfl⟩ := Prod.mk.inj h
  exact ⟨_, Prod.ext hvalue rfl, rfl⟩

lemma released_eq_ok {body : Action ε (Held κ σ) Unit} {s s' : Held κ σ}
    (h : released body s = (.ok (), s')) :
    ∃ s'', body s = (.ok (), s'') ∧ s'.state = s''.state := by
  obtain ⟨_, s'', hbody, hrelease⟩ := bind_eq_ok h
  obtain ⟨-, rfl⟩ := Prod.mk.inj hrelease
  rcases hrun : body s with ⟨e | _, s₁⟩
  · rw [tryCatch_of_error hrun] at hbody
    cases hbody
  · rw [tryCatch_of_ok hrun] at hbody
    exact ⟨s'', hbody, rfl⟩

/-! ### Handles that are still needed -/

/-- The handle at hand is not released. -/
def Needed (s : Held κ σ) : Prop := .release ∉ s.calls

variable {body : Action ε (Held κ σ) α}

lemma needed_append_use {s : Held κ σ} (hs : Needed s) :
    Needed { s with calls := s.calls ++ [.use] } := by
  intro hmem
  rcases List.mem_append.mp hmem with h | h
  · exact hs h
  · cases List.mem_singleton.mp h

lemma needed_use : Keeps Needed (use : Action ε (Held κ σ) Unit) := fun _ hs => needed_append_use hs

lemma needed_change (f : σ → σ) : Keeps Needed (change f : Action ε (Held κ σ) Unit) :=
  fun _ hs => hs

lemma needed_withHandle (what : κ) : Keeps Needed (withHandle what body) := fun _ hs => hs

lemma releasedOnce_released {body : Action ε (Held κ σ) Unit} (hbody : Keeps Needed body)
    {s : Held κ σ} (hs : Needed s) : ReleasedOnce (released body s).2.calls := by
  have hafter := hbody s hs
  rcases hrun : body s with ⟨e | _, s'⟩ <;> rw [hrun] at hafter
  · have hthrows : (do release; throw e : Action ε (Held κ σ) Unit) s' =
        (.error e, { s' with calls := s'.calls ++ [.release] }) := rfl
    rw [released, bind_of_error ((tryCatch_of_error hrun).trans hthrows)]
    exact releasedOnce_append_release.mpr hafter
  · rw [released, bind_of_ok (tryCatch_of_ok hrun)]
    exact releasedOnce_append_release.mpr hafter

/-! ### Handles that are ended -/

variable {p : Handle κ → Prop}

/-- All handles that the action is done with have the property. -/
def AllEnded (p : Handle κ → Prop) (s : Held κ σ) : Prop := ∀ handle ∈ s.ended, p handle

lemma allEnded_use : Keeps (AllEnded p) (use : Action ε (Held κ σ) Unit) := fun _ hs => hs

lemma allEnded_release : Keeps (AllEnded p) (release : Action ε (Held κ σ) Unit) := fun _ hs => hs

lemma allEnded_change (f : σ → σ) : Keeps (AllEnded p) (change f : Action ε (Held κ σ) Unit) :=
  fun _ hs => hs

lemma allEnded_released {body : Action ε (Held κ σ) Unit} (hbody : Keeps (AllEnded p) body) :
    Keeps (AllEnded p) (released body) :=
  (hbody.tryCatch fun _ => allEnded_release.bind fun _ => Keeps.throw _).bind
    fun _ => allEnded_release

/-- The body ends with a handle that has the property. -/
lemma allEnded_withHandle {what : κ} (hbody : Keeps (AllEnded p) body)
    (hwhat : ∀ s : Held κ σ, s.calls = [] → p ⟨what, (body s).2.calls⟩) :
    Keeps (AllEnded p) (withHandle what body) := by
  intro s hs handle hmem
  rcases List.mem_append.mp hmem with hbefore | hnew
  · exact hbody { s with calls := [] } hs handle hbefore
  · rw [List.mem_singleton.mp hnew]
    exact hwhat _ rfl

end Handles
