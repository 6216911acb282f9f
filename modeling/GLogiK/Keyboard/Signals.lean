import GLogiK.Keyboard.Session

/-!
# The signals of a turn

What a turn of the listening thread broadcasts names its device, and the last
`DeviceMBankSwitch` carries the bank that the leds show afterwards.
-/

namespace GLogiK

variable {δ : Type*}

def DeviceSignal.devID : DeviceSignal δ → δ
  | .deviceMBankSwitch devID _     => devID
  | .deviceMacroRecorded devID _ _ => devID
  | .deviceMacroCleared devID _    => devID
  | .deviceGKeyEvent devID _       => devID

/-- The banks that a list of signals switches to. -/
def switchesOf (signals : List (DeviceSignal δ)) : List MKeysID :=
  signals.filterMap fun
    | .deviceMBankSwitch _ bankID => some bankID
    | _                           => none

@[simp] lemma switchesOf_nil : switchesOf ([] : List (DeviceSignal δ)) = [] := rfl

@[simp] lemma switchesOf_append (signals signals' : List (DeviceSignal δ)) :
    switchesOf (signals ++ signals') = switchesOf signals ++ switchesOf signals' :=
  List.filterMap_append

@[simp] lemma getLastD_append {α : Type*} (l l' : List α) (a : α) :
    (l ++ l').getLastD a = l'.getLastD (l.getLastD a) := by
  rw [List.getLastD_eq_getLast?, List.getLast?_append]
  cases hl' : l'.getLast? with
  | none => simp [List.getLastD_eq_getLast?, hl']
  | some b => simp [List.getLastD_eq_getLast?, hl']

/-- What is done to the device and what is broadcast fit together. -/
structure Announces (d : USBDevice δ) (r : USBDevice δ × List (DeviceSignal δ)) : Prop where
  id : r.1.toUSBDeviceID = d.toUSBDeviceID
  named : ∀ signal ∈ r.2, signal.devID = d.devID
  bank : shownBank r.1.MxKeysLedsMask = (switchesOf r.2).getLastD (shownBank d.MxKeysLedsMask)

section

variable {d : USBDevice δ}

lemma Announces.trans {r r' : USBDevice δ × List (DeviceSignal δ)} (h : Announces d r)
    (h' : Announces r.1 r') : Announces d (r'.1, r.2 ++ r'.2) := by
  refine ⟨h'.id.trans h.id, fun signal hsignal => ?_, ?_⟩
  · rcases List.mem_append.mp hsignal with hmem | hmem
    · exact h.named signal hmem
    · rw [h'.named signal hmem, h.id]
  · rw [switchesOf_append, getLastD_append, ← h.bank]
    exact h'.bank

/-- Before or after, the device changes without a signal, and keeps its leds. -/
lemma Announces.after {d' : USBDevice δ} {r : USBDevice δ × List (DeviceSignal δ)}
    (h : Announces d' r) (hid : d'.toUSBDeviceID = d.toUSBDeviceID)
    (hmask : d'.MxKeysLedsMask = d.MxKeysLedsMask) : Announces d r :=
  ⟨h.id.trans hid, fun signal hsignal => by rw [h.named signal hsignal, hid], by rw [h.bank, hmask]⟩

lemma Announces.before {d' : USBDevice δ} {r : USBDevice δ × List (DeviceSignal δ)}
    (h : Announces d r) (hid : d'.toUSBDeviceID = r.1.toUSBDeviceID)
    (hmask : d'.MxKeysLedsMask = r.1.MxKeysLedsMask) : Announces d (d', r.2) :=
  ⟨hid.trans h.id, h.named, by rw [hmask]; exact h.bank⟩

/-- The leds stay, and nothing is broadcast. -/
lemma announces_of_mask {d' : USBDevice δ} (hid : d'.toUSBDeviceID = d.toUSBDeviceID)
    (hmask : d'.MxKeysLedsMask = d.MxKeysLedsMask) : Announces d (d', []) :=
  ⟨hid, by simp, by simp [hmask]⟩

lemma announces_update (disableMR : Bool) :
    Announces d ((updateDeviceMxKeysLedsMask d disableMR).1,
      (updateDeviceMxKeysLedsMask d disableMR).2.2) := by
  have hbank := shownBank_updateMRMask d disableMR (updateMxKeyMask d).1
  rcases updateMxKeyMask_cases d with h | ⟨bankID, h⟩
  · rw [h] at hbank
    exact ⟨rfl, by simp [updateDeviceMxKeysLedsMask, h], by
      simp [updateDeviceMxKeysLedsMask, h, hbank]⟩
  · rw [h] at hbank
    exact ⟨rfl, by simp [updateDeviceMxKeysLedsMask, h, DeviceSignal.devID], by
      simp [updateDeviceMxKeysLedsMask, h, hbank, switchesOf]⟩

lemma announces_leaveMacroRecordMode : Announces d (leaveMacroRecordMode d) := by
  rw [leaveMacroRecordMode]
  simp only
  split_ifs
  · exact (announces_update true).after rfl rfl
  · exact announces_of_mask rfl rfl

lemma announces_checkExit : Announces d (checkExit d) := by
  rw [checkExit]
  split_ifs
  · exact announces_leaveMacroRecordMode
  · exact announces_of_mask rfl rfl

/-- A signal that is no bank switch. -/
lemma announces_signal {d' : USBDevice δ} {signal : DeviceSignal δ}
    (hid : d'.toUSBDeviceID = d.toUSBDeviceID) (hmask : d'.MxKeysLedsMask = d.MxKeysLedsMask)
    (hnamed : signal.devID = d.devID) (hswitch : switchesOf [signal] = []) :
    Announces d (d', [signal]) :=
  ⟨hid, by simpa using hnamed, by simp [hswitch, hmask]⟩

lemma announces_recordProcessed : Announces d (recordProcessed d) := by
  rw [recordProcessed]
  split_ifs
  · exact announces_of_mask rfl rfl
  · cases checkGKey d with
    | none => exact announces_of_mask rfl rfl
    | some keyID =>
      refine announces_signal rfl rfl ?_ ?_
      · rw [macroSignal]
        split_ifs <;> rfl
      · rw [macroSignal]
        split_ifs <;> rfl

lemma announces_processKeyEvent (t : KeysTransfer) : Announces d ((processKeyEvent d t).1, []) := by
  obtain ⟨hmask, _, hsame⟩ := processKeyEvent_frame d t
  exact announces_of_mask hsame.id hmask

lemma announces_recordTransfer (t : KeysTransfer) : Announces d (recordTransfer d t) := by
  match hstatus : (processKeyEvent d t).2 with
  | .keySkipped =>
    simp only [recordTransfer, hstatus]
    exact announces_processKeyEvent t
  | .keyProcessed =>
    simp only [recordTransfer, hstatus]
    exact announces_recordProcessed.after (announces_processKeyEvent t).id
      (processKeyEvent_frame d t).1

lemma announces_listenProcessed (length now : ℕ) : Announces d (listenProcessed d length now) := by
  rw [listenProcessed]
  split_ifs
  · simp only
    split_ifs
    · exact (announces_update false).before rfl rfl
    · cases checkGKey (updateDeviceMxKeysLedsMask d false).1 with
      | none => exact announces_update false
      | some keyID =>
        have hkey : Announces (updateDeviceMxKeysLedsMask d false).1
            ({ (updateDeviceMxKeysLedsMask d false).1 with GKeyID := keyID },
              [.deviceGKeyEvent d.devID keyID]) := announces_signal rfl rfl rfl rfl
        exact (announces_update false).trans hkey
  · exact announces_of_mask rfl rfl

lemma announces_listenTransfer (t : KeysTransfer) : Announces d (listenTransfer d t) := by
  match hstatus : (processKeyEvent d t).2 with
  | .keySkipped =>
    simp only [listenTransfer, hstatus]
    exact announces_processKeyEvent t
  | .keyProcessed =>
    simp only [listenTransfer, hstatus]
    exact (announces_listenProcessed _ _).after (announces_processKeyEvent t).id
      (processKeyEvent_frame d t).1

theorem announces_keysTurn (turn : KeysTurn) : Announces d (keysTurn d turn) := by
  simp only [keysTurn]
  split_ifs
  · cases turn with
    | transfer t => exact (announces_recordTransfer t).trans announces_checkExit
    | timeout => exact announces_checkExit
  · cases turn with
    | transfer t => exact announces_listenTransfer t
    | timeout => exact announces_of_mask rfl rfl
  · exact announces_of_mask rfl rfl

end

end GLogiK
