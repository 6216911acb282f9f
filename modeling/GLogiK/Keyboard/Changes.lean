import GLogiK.Keyboard.Driver
import Mathlib.Data.Finset.Basic

/-!
# The changes of a report

The events that `fillStandardKeysEvents` appends are the changes of the report, in order, less
those that the size limits of a macro forbid.
-/

namespace GLogiK

variable {δ : Type*}

/-! ### Changes -/

/-- A key code and what happened to the key. -/
abbrev Change := UInt8 × EventValue

/-- The bit of the modifier is set. -/
abbrev ModifierKey.isIn (mKey : ModifierKey) (byte : UInt8) : Bool := byte &&& mKey.key ≠ 0

/-- The changes of the modifier byte as `handleModifierKeys` sees them. -/
def modifierChanges (previous pressed : UInt8) : List Change :=
  if previous = pressed then []
  else if previous > pressed then
    (modifierKeys.filter (·.isIn (previous - pressed))).map (·.code, .eventKeyRelease)
  else (modifierKeys.filter (·.isIn (pressed - previous))).map (·.code, .eventKeyPress)

def keyChanges (previous pressed : KeysBuffer) : List Change :=
  keySlots.filterMap fun i => keyChange (previous i) (pressed i)

/-- Append a change to the macro, if the limits allow it; the number is the interval of the next
event. -/
def pushChange (s : MacroType × UInt16) (c : Change) : MacroType × UInt16 :=
  if s.1.length ≥ MACRO_T_MAX_SIZE ∨
      (s.1.length ≥ MACRO_T_KEYPRESS_MAX_SIZE ∧ c.2 ≠ .eventKeyRelease) then s
  else (s.1 ++ [⟨c.1, c.2, s.2⟩], 1)

lemma addKeyEvents_eq_foldl (previous pressed : KeysBuffer) (slots : List (Fin 8))
    (interval : UInt16) (m : MacroType) :
    addKeyEvents previous pressed slots interval m =
      ((slots.filterMap fun i => keyChange (previous i) (pressed i)).foldl pushChange
        (m, interval)).1 := by
  induction slots generalizing interval m with
  | nil => rfl
  | cons i slots ih =>
    match h : keyChange (previous i) (pressed i) with
    | none => simp only [addKeyEvents, h, ih, List.filterMap_cons]
    | some (code, event) =>
      simp only [addKeyEvents, h, ih, List.filterMap_cons, List.foldl_cons, pushChange]
      split_ifs <;> rfl

/-! ### The loop over the modifier keys -/

/-- The modifier keys the loop finds in `diff`. -/
def foundModifiers : List ModifierKey → UInt8 → List ModifierKey
  | [], _ => []
  | mKey :: mKeys, diff =>
    if mKey.isIn diff then
      mKey :: (if diff - mKey.key = 0 then [] else foundModifiers mKeys (diff - mKey.key))
    else if diff = 0 then [] else foundModifiers mKeys diff

lemma forall_uint8 {p : UInt8 → Prop} (h : ∀ v : BitVec 8, p (UInt8.ofBitVec v)) (b : UInt8) :
    p b := h b.toBitVec

lemma foundModifiers_eq (diff : UInt8) :
    foundModifiers modifierKeys diff = modifierKeys.filter (·.isIn diff) := by
  revert diff
  exact forall_uint8 (by decide +kernel)

lemma uint8_pos_iff {b : UInt8} : b > 0 ↔ 0 < b.toNat := by
  rw [gt_iff_lt, UInt8.lt_iff_toNat_lt]
  rfl

/-- The loop is a fold of `pushChange`, and its counter tells whether an event was added. -/
lemma addModifierEvents_eq_foldl (event : EventValue) (mKeys : List ModifierKey) (diff : UInt8)
    (interval : UInt16) (m : MacroType) (ret : UInt8) (hm : m.length + mKeys.length < 256)
    (hret : ret.toNat + mKeys.length < 256) :
    ((foundModifiers mKeys diff).map fun k => (k.code, event)).foldl pushChange
        (m, if ret > 0 then 1 else interval) =
      ((addModifierEvents event mKeys diff interval m ret).1,
        if (addModifierEvents event mKeys diff interval m ret).2 > 0 then 1 else interval) ∧
      ret.toNat ≤ (addModifierEvents event mKeys diff interval m ret).2.toNat := by
  induction mKeys generalizing diff interval m ret with
  | nil => exact ⟨rfl, le_rfl⟩
  | cons k ks ih =>
    simp only [List.length_cons] at hm hret
    by_cases hk : k.isIn diff
    · have hk' : diff &&& k.key ≠ 0 := by simpa using hk
      have hsize : (UInt8.ofNat m.length).toNat = m.length := by
        simp only [UInt8.toNat_ofNat']
        omega
      rw [foundModifiers, if_pos hk, List.map_cons, List.foldl_cons, addModifierEvents, if_pos hk']
      simp only [pushChange, hsize]
      by_cases hskip : m.length ≥ MACRO_T_MAX_SIZE ∨
          (m.length ≥ MACRO_T_KEYPRESS_MAX_SIZE ∧ event ≠ .eventKeyRelease)
      · have hnext := ih (diff - k.key) interval m ret (by omega) (by omega)
        simp only [if_pos hskip]
        by_cases hdiff : diff - k.key = 0
        · simp [if_pos hdiff]
        · simpa only [if_neg hdiff] using hnext
      · have hret' : (ret + 1).toNat = ret.toNat + 1 := by
          rw [UInt8.toNat_add]
          exact Nat.mod_eq_of_lt (by simp; omega)
        have hpos : ret + 1 > 0 := uint8_pos_iff.mpr (by rw [hret']; exact Nat.succ_pos _)
        have hnext := ih (diff - k.key) (if ret > 0 then 1 else interval)
          (m ++ [⟨k.code, event, if ret > 0 then 1 else interval⟩]) (ret + 1)
          (by rw [List.length_append, List.length_singleton]; omega) (by omega)
        rw [if_pos hpos] at hnext
        simp only [if_neg hskip]
        by_cases hdiff : diff - k.key = 0
        · simp [if_pos hdiff, if_pos hpos, hret']
        · simp only [if_neg hdiff]
          obtain ⟨hfold, hcount⟩ := hnext
          rw [hret'] at hcount
          have hadded := uint8_pos_iff.mpr (lt_of_lt_of_le (Nat.succ_pos _) hcount)
          rw [hfold, if_pos hadded, if_pos hadded]
          exact ⟨rfl, (Nat.le_succ _).trans hcount⟩
    · have hk' : ¬ diff &&& k.key ≠ 0 := by simpa using hk
      have hnext := ih diff interval m ret (by omega) (by omega)
      rw [foundModifiers, if_neg hk, addModifierEvents, if_neg hk']
      by_cases hdiff : diff = 0
      · simp [if_pos hdiff]
      · simpa only [if_neg hdiff] using hnext

lemma handleModifierKeys_eq_foldl (previous pressed : UInt8) (interval : UInt16) (m : MacroType)
    (hm : m.length + 8 < 256) :
    (modifierChanges previous pressed).foldl pushChange (m, interval) =
      ((handleModifierKeys previous pressed interval m).1,
        if (handleModifierKeys previous pressed interval m).2 > 0 then 1 else interval) := by
  have hloop (event : EventValue) (diff : UInt8) :=
    (addModifierEvents_eq_foldl event modifierKeys diff interval m 0 hm (by decide)).1
  simp only [foundModifiers_eq] at hloop
  rw [handleModifierKeys, modifierChanges]
  by_cases heq : previous = pressed
  · simp only [if_pos heq]
    rfl
  · by_cases hgt : previous > pressed
    · simp only [if_neg heq, if_pos hgt]
      exact hloop _ _
    · simp only [if_neg heq, if_neg hgt]
      exact hloop _ _

/-- The events of a report whose first byte is right. -/
def changes (previous pressed : KeysBuffer) : List Change :=
  modifierChanges (previous 1) (pressed 1) ++ keyChanges previous pressed

theorem fillStandardKeysEvents_newMacro (d : USBDevice δ) (now : ℕ)
    (hm : d.newMacro.length + 8 < 256) :
    (fillStandardKeysEvents d now).newMacro =
      ((changes d.previousPressedKeys d.pressedKeys).foldl pushChange
        (d.newMacro, getTimeLapse d now)).1 := by
  simp only [fillStandardKeysEvents, addKeyEvents_eq_foldl, changes, List.foldl_append,
    handleModifierKeys_eq_foldl _ _ _ _ hm, keyChanges]

end GLogiK
