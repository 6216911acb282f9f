import GLogiK.Keyboard.Driver
import GLogiK.Lib.Actions
import GLogiK.Macro.Check
import GLogiK.Service.GKeysBanks

/-!
# Macros that are received

`GKeysEventManager::setMacro`, with the map as it is left when something is thrown. A macro that
comes from the daemon was checked there, and is checked once more.
-/

namespace GLogiK

namespace GKeysEventManager

open Actions BanksByID

/-- A function that changes a map of banks. It may throw when it has changed something. -/
abbrev BanksAction := Action KeyFailure BanksByID

/-- `GKeysBanks.at(bankID)`. -/
def bankAt (bankID : EnumByte) : BanksAction MBank := fun banks =>
  match banks[bankID]? with
  | none      => (.error .wrongBankID, banks)
  | some bank => (.ok bank, banks)

/-- `bank.at(keyID) = event`, where `bank` is a reference into the map. -/
def assignKey (bankID keyID : EnumByte) (bank : MBank) (event : GKeysEvent) : BanksAction Unit :=
  fun banks =>
    if bank.contains keyID then (.ok (), banks.insert bankID (bank.insert keyID event))
    else (.error .wrongGKeyID, banks)

/-- The private function, on a macro that was checked. -/
def setCheckedMacro (bankID keyID : EnumByte) (events : MacroType) : BanksAction Unit := do
  if keyID = invalidKeyID then throw .invalidGKeyID
  else
    let bank ← bankAt bankID
    if MACRO_T_MAX_SIZE ≤ events.length then throw .skippingMacro
    else assignKey bankID keyID bank (.new events)

/-- The public function. -/
def setMacro (events : MacroType) (bankID keyID : EnumByte) : BanksAction Unit := do
  if keyID = invalidKeyID then return ()
  else setCheckedMacro bankID keyID (checkMacro events)

/-! ### What is left in the map -/

/-- The event of a key. -/
def slot (banks : BanksByID) (bankID keyID : EnumByte) : Option GKeysEvent :=
  banks[bankID]?.bind (·[keyID]?)

/-- The maps differ at most in the event of the key. -/
structure SameElsewhere (bankID keyID : EnumByte) (banks banks' : BanksByID) : Prop where
  otherBanks : ∀ bankID' ≠ bankID, banks'[bankID']? = banks[bankID']?
  otherKeys : ∀ keyID' ≠ keyID, slot banks' bankID keyID' = slot banks bankID keyID'

section

variable {banks : BanksByID} {bankID keyID : EnumByte} {events : MacroType}

lemma setMacro_of_invalid (h : keyID = invalidKeyID) :
    setMacro events bankID keyID banks = (.ok (), banks) := by
  rw [setMacro, if_pos h]
  rfl

lemma setMacro_of_no_bank (h : keyID ≠ invalidKeyID) (hbank : banks[bankID]? = none) :
    setMacro events bankID keyID banks = (.error .wrongBankID, banks) := by
  have hat : bankAt bankID banks = (.error .wrongBankID, banks) := by
    simp only [bankAt, hbank]
  rw [setMacro, if_neg h, setCheckedMacro, if_neg h]
  exact bind_of_error hat

/-- A checked macro is never skipped. -/
lemma setMacro_of_bank (h : keyID ≠ invalidKeyID) {bank : MBank}
    (hbank : banks[bankID]? = some bank) :
    setMacro events bankID keyID banks =
      assignKey bankID keyID bank (.new (checkMacro events)) banks := by
  have hat : bankAt bankID banks = (.ok bank, banks) := by
    simp only [bankAt, hbank]
  have hshort : ¬ MACRO_T_MAX_SIZE ≤ (checkMacro events).length :=
    Nat.not_le.mpr (length_checkMacro_lt events)
  rw [setMacro, if_neg h, setCheckedMacro, if_neg h, bind_of_ok hat, if_neg hshort]

lemma slot_eq_of_bank {bank : MBank} (hbank : banks[bankID]? = some bank) (keyID : EnumByte) :
    slot banks bankID keyID = bank[keyID]? := by
  rw [slot, hbank, Option.bind_some]

/-- A key that is there gets the checked macro, and nothing else changes. -/
lemma setMacro_of_slot (h : keyID ≠ invalidKeyID) (hslot : (slot banks bankID keyID).isSome) :
    ∃ banks', setMacro events bankID keyID banks = (.ok (), banks') ∧
      slot banks' bankID keyID = some (.new (checkMacro events)) ∧
      SameElsewhere bankID keyID banks banks' := by
  cases hbank : banks[bankID]? with
  | none =>
    rw [slot, hbank] at hslot
    cases hslot
  | some bank =>
    rw [slot_eq_of_bank hbank, ← Std.ExtTreeMap.contains_eq_isSome_getElem?] at hslot
    let bank' := bank.insert keyID (.new (checkMacro events))
    have hbank' : (banks.insert bankID bank')[bankID]? = some bank' := by
      rw [getElem?_insert_eq, if_pos rfl]
    refine ⟨banks.insert bankID bank', ?_, ?_, ?_, ?_⟩
    · rw [setMacro_of_bank h hbank, assignKey, if_pos hslot]
    · rw [slot_eq_of_bank hbank', getElem?_insert_eq, if_pos rfl]
    · intro bankID' hne
      rw [getElem?_insert_eq, if_neg hne]
    · intro keyID' hne
      rw [slot_eq_of_bank hbank', slot_eq_of_bank hbank, getElem?_insert_eq, if_neg hne]

/-- Without the key, the map stays as it is. -/
lemma setMacro_of_no_slot (hslot : keyID = invalidKeyID ∨ slot banks bankID keyID = none) :
    (setMacro events bankID keyID banks).2 = banks ∧
      (setMacro events bankID keyID banks).1 ≠ .error .skippingMacro := by
  by_cases h : keyID = invalidKeyID
  · rw [setMacro_of_invalid h]
    exact ⟨rfl, by simp⟩
  · replace hslot := hslot.resolve_left h
    cases hbank : banks[bankID]? with
    | none =>
      rw [setMacro_of_no_bank h hbank]
      exact ⟨rfl, by simp⟩
    | some bank =>
      rw [slot_eq_of_bank hbank] at hslot
      have hcontains : ¬ bank.contains keyID := by
        rw [Std.ExtTreeMap.contains_eq_isSome_getElem?, hslot]
        exact Bool.false_ne_true
      rw [setMacro_of_bank h hbank, assignKey, if_neg hcontains]
      exact ⟨rfl, by simp⟩

end

/-- Whatever is received, a valid key that is there gets the checked macro, which is short enough, and
no other key changes; for any other key or bank the map stays as it is. No macro is skipped. -/
theorem setMacro_stores_or_keeps (banks : BanksByID) (bankID keyID : EnumByte)
    (events : MacroType) :
    let r := setMacro events bankID keyID banks
    r.1 ≠ .error .skippingMacro ∧
      if keyID ≠ invalidKeyID ∧ (slot banks bankID keyID).isSome then
        r.1 = .ok () ∧ SameElsewhere bankID keyID banks r.2 ∧
          slot r.2 bankID keyID = some (.new (checkMacro events)) ∧
            (checkMacro events).length < MACRO_T_MAX_SIZE
      else r.2 = banks := by
  intro r
  by_cases hkey : keyID ≠ invalidKeyID ∧ (slot banks bankID keyID).isSome
  · rw [if_pos hkey]
    obtain ⟨banks', hr, hslot, hsame⟩ := @setMacro_of_slot banks bankID keyID events hkey.1 hkey.2
    have hr' : r = (.ok (), banks') := hr
    rw [hr']
    exact ⟨by simp, rfl, hsame, hslot, length_checkMacro_lt events⟩
  · rw [if_neg hkey]
    have hslot : keyID = invalidKeyID ∨ slot banks bankID keyID = none := by
      by_contra hnot
      rw [not_or] at hnot
      exact hkey ⟨hnot.1, Option.isSome_iff_ne_none.mpr hnot.2⟩
    obtain ⟨hkept, hskip⟩ := @setMacro_of_no_slot banks bankID keyID events hslot
    exact ⟨hskip, hkept⟩

/-! ### A macro of the daemon -/

/-- What the listening thread broadcasts was checked. -/
lemma eq_checkMacro_of_recorded {δ : Type*} {d : USBDevice δ} {devID : δ} {keyID : GKeysID}
    {recorded : MacroType}
    (h : .deviceMacroRecorded devID keyID recorded ∈ (recordProcessed d).2) :
    recorded = checkMacro d.newMacro := by
  rw [recordProcessed] at h
  split_ifs at h
  · cases h
  · cases hkey : checkGKey d with
    | none =>
      rw [hkey] at h
      cases h
    | some pressed =>
      rw [hkey] at h
      have hsignal := List.mem_singleton.mp h
      rw [macroSignal] at hsignal
      split_ifs at hsignal
      cases hsignal
      rfl

/-- A macro of presses and releases is checked once: the service stores what the daemon
broadcast. -/
theorem checkMacro_idempotent (δ : Type*) {m : MacroType} (hm : PressOrRelease m) :
    checkMacro (checkMacro m) = checkMacro m ∧
      ∀ (d : USBDevice δ) (devID : δ) (pressed : GKeysID) (recorded : MacroType),
        d.newMacro = m → .deviceMacroRecorded devID pressed recorded ∈ (recordProcessed d).2 →
        ∀ (banks : BanksByID) (bankID keyID : EnumByte), keyID ≠ invalidKeyID →
          (slot banks bankID keyID).isSome →
          slot (setMacro recorded bankID keyID banks).2 bankID keyID = some (.new recorded) := by
  have hagain := checkMacro_checkMacro_eq hm
  refine ⟨hagain, ?_⟩
  intro d devID pressed recorded hd hrecorded banks bankID keyID hvalid hslot
  have hchecked := eq_checkMacro_of_recorded hrecorded
  rw [hd] at hchecked
  obtain ⟨banks', hr, hstored, -⟩ := @setMacro_of_slot banks bankID keyID recorded hvalid hslot
  rw [hr, hstored, hchecked, hagain]

/-- Left control is pressed and not released, then G1 is pressed: the release is added once. -/
theorem checkMacro_idempotent_control :
    let recorded : MacroType := [⟨29, .eventKeyPress, 5⟩, ⟨29, .eventKeyRelease, 1⟩]
    let banks : BanksByID := (∅ : BanksByID).insert 0 ((∅ : MBank).insert 1 {})
    checkMacro recorded = recorded ∧
      slot (setMacro recorded 0 1 banks).2 0 1 = some (.new recorded) := by
  intro recorded banks
  let g510 : USBDeviceID ℕ :=
    { devID := 0, capabilities := 15, driverID := 0, GKeysTransferLength := 5 }
  let d : USBDevice ℕ := { newUSBDevice g510 with
    newMacro := [⟨29, .eventKeyPress, 5⟩], pressedRKeysMask := 1 }
  obtain ⟨hagain, hstored⟩ := checkMacro_idempotent ℕ
    (show PressOrRelease [⟨29, .eventKeyPress, 5⟩] by decide)
  have hrecorded : .deviceMacroRecorded 0 1 recorded ∈ (recordProcessed d).2 := by
    decide +kernel
  exact ⟨hagain, hstored d 0 1 recorded rfl hrecorded banks 0 1 (by decide) (by decide +kernel)⟩

end GKeysEventManager

end GLogiK
