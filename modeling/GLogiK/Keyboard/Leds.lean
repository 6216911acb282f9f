import GLogiK.Keyboard.Changes

/-!
# The mask of the M-key leds

The bank a mask shows, and what `updateDeviceMxKeysLedsMask` does to the mask: a pressed M-key
sets the mask of the bank it broadcasts, and the MR led never changes the bank.
-/

namespace GLogiK

variable {δ : Type*}

/-- The mask in which only the led of the bank is on. -/
def MKeysID.mask : MKeysID → UInt8
  | .m0 => 0
  | .m1 => Leds.m1.mask
  | .m2 => Leds.m2.mask
  | .m3 => Leds.m3.mask

/-- The bank of the first M-key led that is on. -/
def shownBank (mask : UInt8) : MKeysID :=
  if mask &&& Leds.m1.mask ≠ 0 then .m1
  else if mask &&& Leds.m2.mask ≠ 0 then .m2
  else if mask &&& Leds.m3.mask ≠ 0 then .m3
  else .m0

@[simp] lemma shownBank_zero : shownBank 0 = .m0 := rfl

@[simp] lemma shownBank_mask (bankID : MKeysID) : shownBank bankID.mask = bankID := by
  cases bankID <;> rfl

@[simp] lemma mask_and_mr (bankID : MKeysID) : bankID.mask &&& Leds.mr.mask = 0 := by
  cases bankID <;> rfl

@[simp] lemma and_not_mr_and_mr (mask : UInt8) : (mask &&& ~~~Leds.mr.mask) &&& Leds.mr.mask = 0 := by
  revert mask
  exact forall_uint8 (by decide +kernel)

@[simp] lemma or_mr_and_mr (mask : UInt8) : (mask ||| Leds.mr.mask) &&& Leds.mr.mask ≠ 0 := by
  revert mask
  exact forall_uint8 (by decide +kernel)

@[simp] lemma shownBank_and_not_mr (mask : UInt8) :
    shownBank (mask &&& ~~~Leds.mr.mask) = shownBank mask := by
  revert mask
  exact forall_uint8 (by decide +kernel)

@[simp] lemma shownBank_or_mr (mask : UInt8) :
    shownBank (mask ||| Leds.mr.mask) = shownBank mask := by
  revert mask
  exact forall_uint8 (by decide +kernel)

/-- Without M-key the mask stays; with one it becomes the mask of the bank that is broadcast. -/
lemma updateMxKeyMask_cases (d : USBDevice δ) :
    updateMxKeyMask d = (d.MxKeysLedsMask, []) ∨
      ∃ bankID : MKeysID, updateMxKeyMask d = (bankID.mask, [.deviceMBankSwitch d.devID bankID]) := by
  rw [updateMxKeyMask, USBDevice.pressedMxKey]
  by_cases h1 : d.isPressed .m1
  · by_cases hon : d.isLedOn .m1
    · exact Or.inr ⟨.m0, by simp [h1, hon, MKeysID.mask]⟩
    · exact Or.inr ⟨.m1, by simp [h1, hon, MKeysID.mask]⟩
  · by_cases h2 : d.isPressed .m2
    · by_cases hon : d.isLedOn .m2
      · exact Or.inr ⟨.m0, by simp [h1, h2, hon, MKeysID.mask]⟩
      · exact Or.inr ⟨.m2, by simp [h1, h2, hon, MKeysID.mask]⟩
    · by_cases h3 : d.isPressed .m3
      · by_cases hon : d.isLedOn .m3
        · exact Or.inr ⟨.m0, by simp [h1, h2, h3, hon, MKeysID.mask]⟩
        · exact Or.inr ⟨.m3, by simp [h1, h2, h3, hon, MKeysID.mask]⟩
      · exact Or.inl (by simp [h1, h2, h3])

lemma shownBank_updateMRMask (d : USBDevice δ) (disableMR : Bool) (mask : UInt8) :
    shownBank (updateMRMask d disableMR mask) = shownBank mask := by
  rw [updateMRMask]
  split_ifs <;> simp

/-- The MR led after `updateDeviceMxKeysLedsMask`, when it was off. -/
lemma isLedOn_mr_update_of_off {d : USBDevice δ} (hoff : d.isLedOn .mr = false) :
    (updateDeviceMxKeysLedsMask d false).1.isLedOn .mr = d.isPressed .mr := by
  have hmask : (updateMxKeyMask d).1 &&& Leds.mr.mask = 0 := by
    rcases updateMxKeyMask_cases d with h | ⟨bankID, h⟩
    · simpa [h, USBDevice.isLedOn] using hoff
    · simp [h]
  by_cases hmr : d.isPressed .mr
  · simp only [updateDeviceMxKeysLedsMask, updateMRMask, hmr, hoff, if_true, Bool.false_eq_true,
      if_false]
    simp [USBDevice.isLedOn]
  · simp [updateDeviceMxKeysLedsMask, updateMRMask, hmr, USBDevice.isLedOn, hmask]

/-- The MR led after the update that ends a session, in which it was on. -/
lemma isLedOn_mr_update_of_on {d : USBDevice δ} (hon : d.isLedOn .mr) :
    (updateDeviceMxKeysLedsMask d true).1.isLedOn .mr = false := by
  by_cases hmr : d.isPressed .mr
  · simp only [updateDeviceMxKeysLedsMask, updateMRMask, hmr, hon, if_true]
    simp [USBDevice.isLedOn]
  · simp [updateDeviceMxKeysLedsMask, updateMRMask, hmr, USBDevice.isLedOn]

/-! ### Transfers -/

/-- The keys that a transfer puts into `pressedRKeysMask`. -/
def KeysTransfer.keysMask (t : KeysTransfer) : UInt64 :=
  if t.length = 2 ∧ t.bytes 0 = 0x02 then pressedKeysOf t.bytes mediaKeys2BytesMap 0
  else if t.length = 5 ∧ t.bytes 0 = 0x03 then
    pressedKeysOf t.bytes allKeys5BytesMap 0
  else 0

/-- What becomes of a transfer that records nothing. -/
def KeysTransfer.status (t : KeysTransfer) : KeyStatus :=
  if t.length = 2 ∨ (t.length = 5 ∧ t.keysMask ≠ 0) then .keyProcessed else .keySkipped

/-- An 8-byte report outside macro record mode, or any other report, only sets the keys. -/
lemma processKeyEvent_of_not_recorded {d : USBDevice δ} {t : KeysTransfer}
    (h : ¬ (t.length = 8 ∧ d.isLedOn .mr)) :
    processKeyEvent d t =
      ({ d with pressedKeys := t.bytes, pressedRKeysMask := t.keysMask }, t.status) := by
  have hled : USBDevice.isLedOn { d with pressedKeys := t.bytes, pressedRKeysMask := 0 } .mr =
      d.isLedOn .mr := rfl
  by_cases h2 : t.length = 2
  · by_cases hfirst : t.bytes 0 = 0x02 <;>
      simp [processKeyEvent, processKeyEvent2Bytes, KeysTransfer.keysMask, KeysTransfer.status, h2,
        hfirst]
  · by_cases h5 : t.length = 5
    · by_cases hfirst : t.bytes 0 = 0x03
      · by_cases hzero : pressedKeysOf t.bytes allKeys5BytesMap 0 = 0 <;>
          simp [processKeyEvent, processKeyEvent5Bytes, KeysTransfer.keysMask, KeysTransfer.status,
            h5, hfirst, hzero]
      · simp [processKeyEvent, processKeyEvent5Bytes, KeysTransfer.keysMask, KeysTransfer.status,
          h5, hfirst]
    · have hmask : t.keysMask = 0 := by simp [KeysTransfer.keysMask, h2, h5]
      have hstatus : t.status = .keySkipped := by simp [KeysTransfer.status, h2, h5]
      by_cases h8 : t.length = 8
      · have hoff : ¬ d.isLedOn .mr := fun hon => h ⟨h8, hon⟩
        simp [processKeyEvent, h8, hled, hoff, hmask, hstatus]
      · simp [processKeyEvent, h2, h5, h8, hmask, hstatus]

/-- An 8-byte report in macro record mode. -/
lemma processKeyEvent_of_recorded {d : USBDevice δ} {t : KeysTransfer} (h : t.length = 8)
    (hon : d.isLedOn .mr) :
    processKeyEvent d t =
      ({ processKeyEvent8Bytes { d with pressedKeys := t.bytes, pressedRKeysMask := 0 } t.now with
          previousPressedKeys := t.bytes }, .keyProcessed) := by
  have hled : USBDevice.isLedOn { d with pressedKeys := t.bytes, pressedRKeysMask := 0 } .mr =
      true := hon
  have hbytes : (processKeyEvent8Bytes { d with pressedKeys := t.bytes, pressedRKeysMask := 0 }
      t.now).pressedKeys = t.bytes := by
    unfold processKeyEvent8Bytes
    split_ifs <;> rfl
  simp [processKeyEvent, h, hled, hbytes]

/-- A recorded report changes the macro and the time of the last report only. -/
lemma processKeyEvent8Bytes_eq (d : USBDevice δ) (now : ℕ) :
    processKeyEvent8Bytes d now =
      { d with
        newMacro := (processKeyEvent8Bytes d now).newMacro
        lastTimePoint := (processKeyEvent8Bytes d now).lastTimePoint } := by
  unfold processKeyEvent8Bytes
  split_ifs <;> rfl

/-- What no thread changes: the detected device, and whether it has a plugins manager. -/
structure USBDevice.Same (d d' : USBDevice δ) : Prop where
  id : d'.toUSBDeviceID = d.toUSBDeviceID
  manager : d'.hasLCDPluginsManager = d.hasLCDPluginsManager

lemma USBDevice.Same.trans {d d' d'' : USBDevice δ} (h : d.Same d') (h' : d'.Same d'') :
    d.Same d'' :=
  ⟨h'.id.trans h.id, h'.manager.trans h.manager⟩

/-- A transfer changes neither the leds nor the loop the thread is in. -/
lemma processKeyEvent_frame (d : USBDevice δ) (t : KeysTransfer) :
    (processKeyEvent d t).1.MxKeysLedsMask = d.MxKeysLedsMask ∧
      (processKeyEvent d t).1.inMacroRecordMode = d.inMacroRecordMode ∧
      d.Same (processKeyEvent d t).1 := by
  by_cases h : t.length = 8 ∧ d.isLedOn .mr
  · rw [processKeyEvent_of_recorded h.1 h.2, processKeyEvent8Bytes_eq]
    exact ⟨rfl, rfl, rfl, rfl⟩
  · rw [processKeyEvent_of_not_recorded h]
    exact ⟨rfl, rfl, rfl, rfl⟩

/-! ### Operations of the other threads -/

section

variable (d : USBDevice δ) (c : RGBBytes) (LCDPluginsMask1 : UInt64)

/-- A reset changes the leds, the colour, the plugins and the exit flag only. -/
lemma resetDeviceState_eq :
    resetDeviceState d =
      { d with
        exitMacroRecordMode :=
          if d.checkDeviceCapability .macrosKeys then true else d.exitMacroRecordMode
        MxKeysLedsMask := if d.checkDeviceCapability .macrosKeys then 0 else d.MxKeysLedsMask
        RGB := if d.checkDeviceCapability .backlightColor then defaultRGB else d.RGB
        LCDPluginsMask1 := if d.checkDeviceCapability .lcdScreen then
          GK_LCD_SPLASHSCREEN ||| GK_LCD_SYSTEM_MONITOR else d.LCDPluginsMask1 } := by
  rw [resetDeviceState, setDeviceBacklightColor, setDeviceLCDPluginsMask]
  by_cases h1 : d.checkDeviceCapability .macrosKeys <;>
    by_cases h2 : d.checkDeviceCapability .backlightColor <;>
    by_cases h3 : d.checkDeviceCapability .lcdScreen <;> simp [h1, h2, h3]

/-- A configuration changes the colour, the plugins and the exit flag only. -/
lemma setDeviceActiveConfiguration_eq :
    setDeviceActiveConfiguration d c LCDPluginsMask1 =
      { d with
        exitMacroRecordMode :=
          if d.checkDeviceCapability .macrosKeys then true else d.exitMacroRecordMode
        RGB := if d.checkDeviceCapability .backlightColor then c else d.RGB
        LCDPluginsMask1 := if d.checkDeviceCapability .lcdScreen then
          (if LCDPluginsMask1 = 0 then GK_LCD_SPLASHSCREEN ||| GK_LCD_SYSTEM_MONITOR
            else LCDPluginsMask1)
          else d.LCDPluginsMask1 } := by
  rw [setDeviceActiveConfiguration, setDeviceBacklightColor, setDeviceLCDPluginsMask]
  by_cases h1 : d.checkDeviceCapability .macrosKeys <;>
    by_cases h2 : d.checkDeviceCapability .backlightColor <;>
    by_cases h3 : d.checkDeviceCapability .lcdScreen <;> simp [h1, h2, h3]

end

end GLogiK
