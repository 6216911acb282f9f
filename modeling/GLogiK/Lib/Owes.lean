import Mathlib.Data.List.Basic

/-!
# What is taken and given back

A trace of events takes things and gives things back. A list of what is still owed goes along with
the trace: what was taken is on the list, or was given back later. When the list is empty, all that
was taken was given back.
-/

namespace Trace

variable {α ι : Type*} {takes gives : α → ι → Prop} {owed : List ι} {trace events : List α}

/-- Whatever the trace takes is given back later. -/
def GivesBack (takes gives : α → ι → Prop) (trace : List α) : Prop :=
  ∀ before event after i, trace = before ++ event :: after → takes event i →
    ∃ later ∈ after, gives later i

/-- Whatever the trace takes is owed, or is given back later. -/
def Owes (takes gives : α → ι → Prop) (owed : List ι) (trace : List α) : Prop :=
  ∀ before event after i, trace = before ++ event :: after → takes event i →
    i ∈ owed ∨ ∃ later ∈ after, gives later i

lemma owes_nil : Owes takes gives owed [] := by
  intro before event after i htrace
  cases before <;> cases htrace

lemma Owes.givesBack (h : Owes takes gives [] trace) : GivesBack takes gives trace := by
  intro before event after i htrace htakes
  rcases h before event after i htrace htakes with howed | hlater
  · cases howed
  · exact hlater

/-- More happens: what was taken before is owed still, or it is given back now. -/
lemma Owes.append {owed' : List ι} (h : Owes takes gives owed trace)
    (howed : ∀ i ∈ owed, i ∈ owed' ∨ ∃ event ∈ events, gives event i)
    (hevents : Owes takes gives owed' events) : Owes takes gives owed' (trace ++ events) := by
  intro before event after i htrace htakes
  rcases List.append_eq_append_iff.mp htrace with ⟨u, rfl, hright⟩ | ⟨u, rfl, hright⟩
  · exact hevents u event after i hright htakes
  · cases u with
    | nil =>
      rw [List.nil_append] at hright
      exact hevents [] event after i hright.symm htakes
    | cons event' u =>
      rw [List.cons_append] at hright
      cases hright
      rcases h before event u i rfl htakes with hi | ⟨later, hlater, hgives⟩
      · rcases howed i hi with hi' | ⟨later, hlater, hgives⟩
        · exact Or.inl hi'
        · exact Or.inr ⟨later, List.mem_append_right u hlater, hgives⟩
      · exact Or.inr ⟨later, List.mem_append_left events hlater, hgives⟩

/-- Nothing is taken. -/
lemma owes_of_not_takes (h : ∀ event ∈ events, ∀ i, ¬ takes event i) :
    Owes takes gives owed events := by
  intro before event after i htrace htakes
  refine absurd htakes (h event ?_ i)
  rw [htrace]
  exact List.mem_append_cons_self

/-- Events that take nothing. -/
lemma Owes.append_of_not_takes (h : Owes takes gives owed trace)
    (hnot : ∀ event ∈ events, ∀ i, ¬ takes event i) : Owes takes gives owed (trace ++ events) :=
  h.append (fun _ hi => Or.inl hi) (owes_of_not_takes hnot)

/-- What an event takes is owed from then on. -/
lemma Owes.append_takes {event : α} {i : ι} (h : Owes takes gives owed trace)
    (htakes : ∀ j, takes event j → j = i) : Owes takes gives (owed ++ [i]) (trace ++ [event]) := by
  refine h.append (fun j hj => Or.inl (List.mem_append_left [i] hj)) ?_
  intro before event' after j htrace hj
  refine Or.inl (List.mem_append_right owed (List.mem_singleton.mpr (htakes j ?_)))
  have hmem : event' ∈ [event] := by
    rw [htrace]
    exact List.mem_append_cons_self
  rwa [List.mem_singleton.mp hmem] at hj

/-- All that is owed is given back. -/
lemma Owes.append_gives (h : Owes takes gives owed trace)
    (hnot : ∀ event ∈ events, ∀ i, ¬ takes event i)
    (hgives : ∀ i ∈ owed, ∃ event ∈ events, gives event i) :
    Owes takes gives [] (trace ++ events) :=
  h.append (fun i hi => Or.inr (hgives i hi)) (owes_of_not_takes hnot)

end Trace
