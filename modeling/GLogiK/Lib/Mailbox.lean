import GLogiK.Lib.Run

/-!
# Mailboxes

A box with room for one message. Who posts a message replaces the one that waits in the box, and who
takes it leaves the box empty. The box is a part of a system that takes steps of any kind.
-/

namespace Mailbox

variable {α σ β : Type*}

inductive Event (α : Type*)
  | post (message : α)
  | take
  deriving DecidableEq, Repr

/-- The box after the event. -/
def Event.box : Event α → Option α
  | .post message => some message
  | .take         => none

/-- How a system uses a box. -/
structure Use (step : σ → β → σ) (α : Type*) where
  box : σ → Option α
  event : σ → β → Option (Event α)
  box_step : ∀ s b, box (step s b) = (event s b).elim (box s) Event.box

namespace Use

variable {step : σ → β → σ} (u : Use step α)

/-- What a step takes out of the box. -/
def takes (s : σ) (b : β) : Option α := (u.event s b).bind fun
  | .post _ => none
  | .take   => u.box s

/-- What a run takes out of the box. -/
def taken : σ → List β → List α
  | _, []      => []
  | s, b :: bs => (u.takes s b).toList ++ taken (step s b) bs

variable {offered : β → Option α}

/-- A message that is offered is posted, and none is replaced by it. -/
def Delivers (offered : β → Option α) (s : σ) (b : β) : Prop :=
  ∀ message, offered b = some message → u.event s b = some (.post message) ∧ u.box s = none

lemma filterMap_cons_toList (f : β → Option α) (b : β) (bs : List β) :
    (b :: bs).filterMap f = (f b).toList ++ bs.filterMap f := by
  cases h : f b with
  | none => exact List.filterMap_cons_none h
  | some a => exact List.filterMap_cons_some h

lemma eq_append_iff {as bs cs ds : List α} (h : as.Sublist (bs ++ ds)) :
    as = bs ++ (cs ++ ds) ↔ cs = [] ∧ as = bs ++ ds := by
  constructor
  · intro heq
    have hle : (bs ++ (cs ++ ds)).length ≤ (bs ++ ds).length := heq ▸ h.length_le
    have hnil : cs = [] := by
      apply List.eq_nil_of_length_eq_zero
      simp only [List.length_append] at hle
      omega
    subst hnil
    exact ⟨rfl, heq⟩
  · rintro ⟨rfl, heq⟩
    exact heq

/-- A step that posts nothing. -/
lemma delivers_iff_of_not_post {s : σ} {b : β}
    (hevent : ∀ message, u.event s b ≠ some (.post message)) :
    u.Delivers offered s b ↔ (offered b).toList = [] := by
  cases hoffered : offered b with
  | none => exact iff_of_true (fun message h => by simp [hoffered] at h) rfl
  | some message =>
    refine iff_of_false (fun h => ?_) (List.cons_ne_nil _ _)
    exact hevent message (h message hoffered).1

lemma delivers_iff_of_post {s : σ} {b : β} {message : α}
    (hevent : u.event s b = some (.post message)) (hoffered : offered b = some message) :
    u.Delivers offered s b ↔ (u.box s).toList = [] := by
  rw [Option.toList_eq_nil_iff]
  constructor
  · intro h
    exact (h message hoffered).2
  · intro hempty message' hoffered'
    obtain rfl : message = message' := Option.some.inj (hoffered.symm.trans hoffered')
    exact ⟨hevent, hempty⟩

/-- What is taken and what waits is what waited at first and what was offered, in order, but for
messages that are lost; and none is lost exactly when all that are offered are delivered. -/
theorem taken_offered
    (hoffered : ∀ s b message, u.event s b = some (.post message) → offered b = some message)
    (s : σ) (bs : List β) :
    (u.taken s bs ++ (u.box (Run.run step s bs)).toList).Sublist
        ((u.box s).toList ++ bs.filterMap offered) ∧
      (u.taken s bs ++ (u.box (Run.run step s bs)).toList =
          (u.box s).toList ++ bs.filterMap offered ↔
        Run.Steps step (u.Delivers offered) s bs) := by
  induction bs generalizing s with
  | nil => simp [taken]
  | cons b bs ih =>
    obtain ⟨hsublist, heq⟩ := ih (step s b)
    rw [u.box_step s b] at hsublist heq
    rw [Run.run_cons, Run.steps_cons, ← heq, taken, takes, filterMap_cons_toList]
    rcases hevent : u.event s b with _ | message | _ <;>
      simp only [hevent, Option.elim_none, Option.elim_some, Option.bind_none, Option.bind_some,
        Event.box, Option.toList_none, Option.toList_some, List.nil_append] at hsublist ⊢
    · have hnot : ∀ message, u.event s b ≠ some (.post message) := by simp [hevent]
      rw [u.delivers_iff_of_not_post hnot]
      refine ⟨hsublist.trans ?_, eq_append_iff hsublist⟩
      exact (List.sublist_append_right _ _).append_left _
    · have hmessage := hoffered s b message hevent
      rw [u.delivers_iff_of_post hevent hmessage, hmessage, Option.toList_some]
      -- what waited before is lost
      have hempty : (u.taken (step s b) bs ++ (u.box (Run.run step (step s b) bs)).toList).Sublist
          ([] ++ ([message] ++ bs.filterMap offered)) := hsublist
      exact ⟨hsublist.trans (List.sublist_append_right _ _), eq_append_iff hempty⟩
    · have hnot : ∀ message, u.event s b ≠ some (.post message) := by simp [hevent]
      rw [u.delivers_iff_of_not_post hnot, List.append_assoc, List.append_cancel_left_eq]
      have hempty : (u.taken (step s b) bs ++ (u.box (Run.run step (step s b) bs)).toList).Sublist
          ([] ++ bs.filterMap offered) := hsublist
      refine ⟨(hsublist.trans (List.sublist_append_right _ _)).append_left _, ?_⟩
      exact eq_append_iff hempty

end Use

end Mailbox
