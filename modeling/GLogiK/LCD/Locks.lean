import GLogiK.LCD.PluginTurns

/-!
# Locked plugins

The lock is looked at before the search for the next plugin. When it comes right after a change of
the mask, it holds a plugin that is not enabled any more: nothing is drawn from then on.
-/

namespace GLogiK

open Rotation

namespace LCDView

variable {n : ℕ} {maxFrames : ℕ → UInt16} {enabled : ℕ → Bool} {v : LCDView} {key : Bool}

lemma follower_eq_none_iff (hv : v.current < n) :
    v.follower n enabled = none ↔
      enabled v.current = false ∧ (v.locked = true ∨ ∀ j < n, enabled j = false) := by
  rw [follower]
  split_ifs with hlocked henabled
  · exact iff_of_false id fun h => absurd henabled (by rw [h.1]; decide)
  · exact iff_of_true rfl ⟨Bool.eq_false_iff.mpr henabled, .inl hlocked⟩
  · constructor
    · intro hnone
      have hall : ∀ j < n, enabled j = false := fun j hj => by
        by_contra henabled
        have hsome := next_isSome v.current hj (Bool.eq_true_of_not_eq_false henabled)
        rw [hnone] at hsome
        cases hsome
      exact ⟨hall v.current hv, .inr hall⟩
    · rintro ⟨-, hlock | hall⟩
      · exact absurd hlock hlocked
      · exact next_eq_none hall (Nat.zero_lt_of_lt hv)

lemma not_all_disabled (h : ∃ j < n, enabled j = true) : ¬ ∀ j < n, enabled j = false := by
  obtain ⟨j, hj, henabled⟩ := h
  intro hall
  rw [hall j hj] at henabled
  cases henabled

/-- The search is refused when a plugin that is not enabled is locked, or when no plugin is
enabled. -/
lemma step_eq_none_iff (hv : v.current < n) :
    (v.step n maxFrames enabled key).1 = none ↔
      maxFrames v.current ≤ v.counter + 1 ∧ enabled v.current = false ∧
        ((v.count key).locked = true ∨ ∀ j < n, enabled j = false) := by
  have hfollower : (v.count key).follower n enabled = none ↔ enabled v.current = false ∧
      ((v.count key).locked = true ∨ ∀ j < n, enabled j = false) := follower_eq_none_iff hv
  rw [step]
  by_cases hmore : (v.count key).counter < maxFrames (v.count key).current
  · rw [if_pos hmore]
    exact iff_of_false (Option.some_ne_none _) fun h => UInt16.not_le.mpr hmore h.1
  · have hover : maxFrames v.current ≤ v.counter + 1 := UInt16.not_lt.mp hmore
    rw [if_neg hmore, and_iff_right hover, ← hfollower]
    rcases (v.count key).follower n enabled with _ | j
    · exact iff_of_true rfl rfl
    · exact iff_of_false (Option.some_ne_none _) (Option.some_ne_none _)

end LCDView

namespace LCDScreenPluginsManager

/-- The frames of the current plugin are over, the mask does not enable it, and it is locked as this
call leaves it. -/
def Pinned (m : LCDScreenPluginsManager) (call : LCDCall) : Prop :=
  m.maxFrames m.itCurrentPlugin ≤ m.frameCounter + 1 ∧
  m.enabled call.LCDPluginsMask1 m.itCurrentPlugin = false ∧
  (if call.LCDKey = LCD_KEY_L2 then !m.currentPluginLocked else m.currentPluginLocked) = true

end LCDScreenPluginsManager

/-- The plugins do not throw. -/
def LCDCall.Works (call : LCDCall) : Prop :=
  ∀ plugin locked, ∃ PBMData, call.getNextPBMFrame plugin locked = .ok PBMData

lemma LCDScreenPluginsManager.draws_iff_of_works {m : LCDScreenPluginsManager} {call : LCDCall}
    (h : m.Loaded) (hworks : call.Works) :
    (∃ i, (m.getNextLCDScreenBuffer call).1 = .drawn i) ↔
      ¬ (m.view.step m.plugins.length m.maxFrames (m.enabled call.LCDPluginsMask1)
        (call.LCDKey = LCD_KEY_L2)).1 = none := by
  have hshows := (follows_getNextLCDScreenBuffer h call).shows
  revert hshows
  generalize (m.getNextLCDScreenBuffer call).1 = shown
  generalize (m.view.step _ _ _ _).1 = o
  intro hshows
  cases hshows with
  | refused =>
    refine iff_of_false ?_ (not_not_intro rfl)
    rintro ⟨i, hi⟩
    cases hi
  | drawn i => exact iff_of_true ⟨i, rfl⟩ (Option.some_ne_none i)
  | failed i herror =>
    obtain ⟨PBMData, hok⟩ := hworks _ _
    rw [herror] at hok
    cases hok

/-- A call that enables a plugin draws one. -/
def LCDEvent.Draws (m : LCDScreenPluginsManager) : LCDEvent → Prop
  | .getNextLCDScreenBuffer call =>
    m.findOneLCDScreenPlugin call.LCDPluginsMask1 = true → call.Works →
      ∃ i, (m.getNextLCDScreenBuffer call).1 = .drawn i
  | _ => True

/-- A call that enables a plugin does not find a plugin pinned that is not enabled. -/
def LCDEvent.Unpinned (m : LCDScreenPluginsManager) : LCDEvent → Prop
  | .getNextLCDScreenBuffer call =>
    m.findOneLCDScreenPlugin call.LCDPluginsMask1 = true → call.Works → ¬ m.Pinned call
  | _ => True

open LCDScreenPluginsManager

lemma draws_iff_unpinned {m : LCDScreenPluginsManager} (h : m.Ready) (event : LCDEvent) :
    event.Draws m ↔ event.Unpinned m := by
  cases event with
  | setDeviceLCDPluginsMask mask => exact Iff.rfl
  | unlockPlugin => exact Iff.rfl
  | jumpToNextPlugin => exact Iff.rfl
  | getNextLCDScreenBuffer call =>
    refine imp_congr_right fun hmask => imp_congr_right fun hworks => ?_
    obtain ⟨hloaded, j, hj, henabled⟩ := h.loaded hmask
    have hsome : ¬ ∀ j < m.plugins.length, m.enabled call.LCDPluginsMask1 j = false :=
      LCDView.not_all_disabled ⟨j, hj, henabled⟩
    have hnone : (m.view.step m.plugins.length m.maxFrames (m.enabled call.LCDPluginsMask1)
        (call.LCDKey = LCD_KEY_L2)).1 = none ↔ m.Pinned call := by
      rw [LCDView.step_eq_none_iff hloaded.current_lt, or_iff_left hsome, ← view_countFrame]
      exact Iff.rfl
    rw [← hnone, draws_iff_of_works hloaded hworks]

/-- In a run each call whose mask enables a plugin draws one exactly when none of these calls finds
a plugin locked whose frames are over and that the mask does not enable. -/
theorem steps_draws_iff (plugins : List (Option LCDPlugin)) (events : List LCDEvent) :
    Run.Steps LCDEvent.step LCDEvent.Draws (new plugins) events ↔
      Run.Steps LCDEvent.step LCDEvent.Unpinned (new plugins) events :=
  Run.steps_congr (ready_new plugins) (fun _ event h => ready_step h event)
    (fun _ event h => draws_iff_unpinned h event) events

/-- The mask is changed to the system monitor, and the key is pressed before the next frame. -/
def lockedEvents : List LCDEvent :=
  [.setDeviceLCDPluginsMask 2, .getNextLCDScreenBuffer { emptyCall 2 with LCDKey := LCD_KEY_L2 }]

/-- The splash screen is locked although it is not enabled. -/
theorem not_draws_locked : ¬ ∀ (plugins : List (Option LCDPlugin)) (events : List LCDEvent),
    Run.Steps LCDEvent.step LCDEvent.Draws (new plugins) events := by
  intro hall
  obtain ⟨-, hdraws, -⟩ := hall twoPlugins lockedEvents
  obtain ⟨i, hi⟩ := hdraws (by decide) fun _ _ => ⟨[], rfl⟩
  cases hi

end GLogiK
