import GLogiK.Base
import GLogiK.Lib.Brackets

/-!
# Balanced macros

What a macro should be when it is played back: every press has its own later release, so no
key stays down. A press is an opening bracket and a release a closing one, with the key code
as key.
-/

namespace GLogiK

open Brackets

/-! ### Playing a macro -/

/-- The keys that are down after the event. -/
def KeyEvent.play (down : Finset UInt8) (e : KeyEvent) : Finset UInt8 :=
  match e.event with
  | .eventKeyPress   => insert e.code down
  | .eventKeyRelease => down.erase e.code
  | .eventKeyUnknown => down

/-- The keys that are down after the macro has been played, starting with none. -/
def replay (m : MacroType) : Finset UInt8 := m.foldl KeyEvent.play ∅

/-- Macros made of presses and releases only. -/
def PressOrRelease (m : MacroType) : Prop := ∀ e ∈ m, e.event ≠ .eventKeyUnknown

instance (m : MacroType) : Decidable (PressOrRelease m) :=
  inferInstanceAs (Decidable (∀ e ∈ m, e.event ≠ .eventKeyUnknown))

@[simp] lemma replay_nil : replay [] = ∅ := rfl

/-! ### Brackets of a macro -/

def KeyEvent.mark (e : KeyEvent) : Option (Mark UInt8) :=
  match e.event with
  | .eventKeyPress   => some (.opening e.code)
  | .eventKeyRelease => some (.closing e.code)
  | .eventKeyUnknown => none

def marks (m : MacroType) : List (Mark UInt8) := m.filterMap KeyEvent.mark

/-- The presses and releases can be paired one to one per key code, the press first. -/
def Balanced (m : MacroType) : Prop := Paired (marks m)

lemma marks_append (m n : MacroType) : marks (m ++ n) = marks m ++ marks n :=
  List.filterMap_append

lemma marks_cons_press {e : KeyEvent} (h : e.event = .eventKeyPress) (m : MacroType) :
    marks (e :: m) = .opening e.code :: marks m := by
  simp [marks, KeyEvent.mark, h]

lemma marks_cons_release {e : KeyEvent} (h : e.event = .eventKeyRelease) (m : MacroType) :
    marks (e :: m) = .closing e.code :: marks m := by
  simp [marks, KeyEvent.mark, h]

lemma marks_cons_unknown {e : KeyEvent} (h : e.event = .eventKeyUnknown) (m : MacroType) :
    marks (e :: m) = marks m := by
  simp [marks, KeyEvent.mark, h]

/-- A key that is down is still open in the word of brackets. -/
lemma mem_pending_of_mem_play {m : MacroType} {down : Finset UInt8} {s t : Multiset UInt8}
    (hs : ∀ k ∈ down, k ∈ s) (h : pending s (marks m) = some t) :
    ∀ k ∈ m.foldl KeyEvent.play down, k ∈ t := by
  induction m generalizing down s with
  | nil =>
    obtain rfl : s = t := by simpa [marks] using h
    exact hs
  | cons e m ih =>
    rw [List.foldl_cons]
    match he : e.event with
    | .eventKeyPress =>
      rw [marks_cons_press he, pending_opening] at h
      refine ih ?_ h
      intro k hk
      rw [KeyEvent.play, he, Finset.mem_insert] at hk
      rcases hk with rfl | hk
      · exact Multiset.mem_cons_self _ _
      · exact Multiset.mem_cons_of_mem (hs k hk)
    | .eventKeyRelease =>
      rw [marks_cons_release he] at h
      by_cases hmem : e.code ∈ s
      · rw [pending_closing_of_mem hmem] at h
        refine ih ?_ h
        intro k hk
        rw [KeyEvent.play, he, Finset.mem_erase] at hk
        exact (Multiset.mem_erase_of_ne hk.1).mpr (hs k hk.2)
      · rw [pending_closing_of_notMem hmem] at h
        cases h
    | .eventKeyUnknown =>
      rw [marks_cons_unknown he] at h
      rw [KeyEvent.play, he]
      exact ih hs h

/-- Playing a balanced macro leaves no key down. -/
theorem Balanced.replay_eq {m : MacroType} (h : Balanced m) : replay m = ∅ := by
  refine Finset.eq_empty_of_forall_notMem fun k hk => ?_
  have hmem := mem_pending_of_mem_play (by simp) (paired_iff_pending.mp h) k hk
  exact Multiset.notMem_zero k hmem

/-! ### Counting presses -/

def pressCount (m : MacroType) : ℕ := m.countP fun e => e.event = .eventKeyPress

lemma pressCount_append (m n : MacroType) :
    pressCount (m ++ n) = pressCount m + pressCount n := List.countP_append

lemma pressCount_cons_press {e : KeyEvent} (h : e.event = .eventKeyPress) (m : MacroType) :
    pressCount (e :: m) = pressCount m + 1 := List.countP_cons_of_pos (by simp [h])

lemma pressCount_cons_of_ne {e : KeyEvent} (h : e.event ≠ .eventKeyPress) (m : MacroType) :
    pressCount (e :: m) = pressCount m := List.countP_cons_of_neg (by simp [h])

/-- Every event is a press or a release that closes one of the open keys. -/
lemma length_add_card_of_pending {m : MacroType} (hm : PressOrRelease m) {s t : Multiset UInt8}
    (h : pending s (marks m) = some t) :
    m.length + t.card = 2 * pressCount m + s.card := by
  induction m generalizing s with
  | nil =>
    obtain rfl : s = t := by simpa [marks] using h
    simp [pressCount]
  | cons e m ih =>
    have hm' : PressOrRelease m := fun x hx => hm x (List.mem_cons_of_mem _ hx)
    match he : e.event with
    | .eventKeyPress =>
      rw [marks_cons_press he, pending_opening] at h
      have := ih hm' h
      rw [Multiset.card_cons] at this
      rw [pressCount_cons_press he, List.length_cons]
      omega
    | .eventKeyRelease =>
      rw [marks_cons_release he] at h
      by_cases hmem : e.code ∈ s
      · rw [pending_closing_of_mem hmem] at h
        have := ih hm' h
        have hcard := Multiset.card_erase_add_one hmem
        rw [pressCount_cons_of_ne (by simp [he]), List.length_cons]
        omega
      · rw [pending_closing_of_notMem hmem] at h
        cases h
    | .eventKeyUnknown => exact absurd he (hm e List.mem_cons_self)

lemma Balanced.length_eq {m : MacroType} (hm : PressOrRelease m) (h : Balanced m) :
    m.length = 2 * pressCount m := by
  simpa using length_add_card_of_pending hm (paired_iff_pending.mp h)

end GLogiK
