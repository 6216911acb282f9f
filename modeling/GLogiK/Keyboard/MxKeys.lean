import GLogiK.Keyboard.Session

/-!
# The leds of a running device

A turn of the listening thread updates the mask of the leds at most once, and the other threads
only reset it. So the mask is that of one bank, with or without MR, in every state of a device.
-/

namespace GLogiK

variable {δ : Type*}

/-! ### What a step does to the mask -/

/-- The masks a step can leave: the mask stays, is reset, or is updated with the keys of the last
report. -/
inductive MaskChange (d : USBDevice δ) : UInt8 → Prop
  | keep : MaskChange d d.MxKeysLedsMask
  | reset : MaskChange d 0
  | update (d' : USBDevice δ) (disableMR : Bool) (h : d'.MxKeysLedsMask = d.MxKeysLedsMask) :
      MaskChange d (updateDeviceMxKeysLedsMask d' disableMR).1.MxKeysLedsMask

section

variable {d d' : USBDevice δ} {mask : UInt8}

lemma MaskChange.of_eq (h : mask = d.MxKeysLedsMask) : MaskChange d mask := by
  rw [h]
  exact .keep

lemma MaskChange.congr (h : MaskChange d' mask) (heq : d'.MxKeysLedsMask = d.MxKeysLedsMask) :
    MaskChange d mask := by
  cases h with
  | keep => exact .of_eq heq
  | reset => exact .reset
  | update e disableMR he => exact .update e disableMR (he.trans heq)

lemma maskChange_listenProcessed (d : USBDevice δ) (length now : ℕ) :
    MaskChange d (listenProcessed d length now).1.MxKeysLedsMask := by
  rw [listenProcessed]
  split_ifs
  · have hupdate : MaskChange d (updateDeviceMxKeysLedsMask d false).1.MxKeysLedsMask :=
      .update d false rfl
    simp only
    split_ifs
    · exact hupdate
    · cases checkGKey (updateDeviceMxKeysLedsMask d false).1 with
      | none => exact hupdate
      | some keyID => exact hupdate
  · exact .keep

lemma maskChange_listenTransfer (d : USBDevice δ) (t : KeysTransfer) :
    MaskChange d (listenTransfer d t).1.MxKeysLedsMask := by
  obtain ⟨hmask, _⟩ := processKeyEvent_frame d t
  simp only [listenTransfer]
  cases (processKeyEvent d t).2 with
  | keySkipped => exact .of_eq hmask
  | keyProcessed => exact (maskChange_listenProcessed _ _ _).congr hmask

lemma maskChange_checkExit (d : USBDevice δ) : MaskChange d (checkExit d).1.MxKeysLedsMask := by
  rw [checkExit]
  split_ifs
  · rw [leaveMacroRecordMode]
    simp only
    split_ifs
    · exact .update _ true rfl
    · exact .keep
  · exact .keep

lemma maskChange_keysTurn (d : USBDevice δ) (turn : KeysTurn) :
    MaskChange d (keysTurn d turn).1.MxKeysLedsMask := by
  simp only [keysTurn]
  split_ifs
  · cases turn with
    | transfer t => exact (maskChange_checkExit _).congr (recordTransfer_frame d t).1
    | timeout => exact maskChange_checkExit d
  · cases turn with
    | transfer t => exact maskChange_listenTransfer d t
    | timeout => exact .keep
  · exact .keep

lemma maskChange_deviceStep (d : USBDevice δ) (ev : DeviceEvent) :
    MaskChange d (deviceStep d ev).1.MxKeysLedsMask := by
  cases ev with
  | turn turn => exact maskChange_keysTurn d turn
  | resetDeviceState =>
    rw [deviceStep, resetDeviceState_eq]
    dsimp only
    split_ifs
    · exact .reset
    · exact .keep
  | setDeviceActiveConfiguration c m =>
    rw [deviceStep, setDeviceActiveConfiguration_eq]
    exact .keep
  | stopThreads => exact .keep

end

/-! ### The bank the leds show -/

/-- The leds that are on are those of one bank, with or without MR. -/
def OneBank (mask : UInt8) : Prop :=
  ∃ bankID : MKeysID, mask = bankID.mask ∨ mask = bankID.mask ||| Leds.mr.mask

lemma oneBank_mask (bankID : MKeysID) : OneBank bankID.mask := ⟨bankID, Or.inl rfl⟩

lemma OneBank.or_mr {mask : UInt8} (h : OneBank mask) : OneBank (mask ||| Leds.mr.mask) := by
  obtain ⟨bankID, rfl | rfl⟩ := h
  · exact ⟨bankID, Or.inr rfl⟩
  · exact ⟨bankID, Or.inr (by cases bankID <;> rfl)⟩

lemma OneBank.and_not_mr {mask : UInt8} (h : OneBank mask) : OneBank (mask &&& ~~~Leds.mr.mask) := by
  obtain ⟨bankID, rfl | rfl⟩ := h
  · exact ⟨bankID, Or.inl (by cases bankID <;> rfl)⟩
  · exact ⟨bankID, Or.inl (by cases bankID <;> rfl)⟩

lemma OneBank.updateMxKeyMask {d : USBDevice δ} (h : OneBank d.MxKeysLedsMask) :
    OneBank (updateMxKeyMask d).1 := by
  rcases updateMxKeyMask_cases d with heq | ⟨bankID, heq⟩
  · rw [heq]
    exact h
  · rw [heq]
    exact oneBank_mask bankID

lemma OneBank.updateMRMask {mask : UInt8} (h : OneBank mask) (d : USBDevice δ) (disableMR : Bool) :
    OneBank (updateMRMask d disableMR mask) := by
  rw [GLogiK.updateMRMask]
  split_ifs
  · exact h.and_not_mr
  · exact h.or_mr
  · exact h.and_not_mr
  · exact h

lemma MaskChange.oneBank {d : USBDevice δ} {mask : UInt8} (h : MaskChange d mask)
    (hd : OneBank d.MxKeysLedsMask) : OneBank mask := by
  cases h with
  | keep => exact hd
  | reset => exact oneBank_mask .m0
  | update d' disableMR heq => exact (OneBank.updateMxKeyMask (heq ▸ hd)).updateMRMask d' disableMR

/-- Two bank leds that are on are the same. -/
lemma OneBank.led_eq {mask : UInt8} (h : OneBank mask) {led led' : Leds} (hled : led ≠ .mr)
    (hled' : led' ≠ .mr) (hon : mask &&& led.mask ≠ 0) (hon' : mask &&& led'.mask ≠ 0) :
    led = led' := by
  obtain ⟨bankID, hmask⟩ := h
  have hbank : ∀ led : Leds, led ≠ .mr → mask &&& led.mask = bankID.mask &&& led.mask := by
    intro led hled
    rcases hmask with rfl | rfl
    · rfl
    · cases bankID <;> cases led <;> first | rfl | exact absurd rfl hled
  rw [hbank led hled] at hon
  rw [hbank led' hled'] at hon'
  revert hon hon'
  cases bankID <;> cases led <;> cases led' <;> decide

lemma oneBank_deviceRun {d : USBDevice δ} (h : OneBank d.MxKeysLedsMask) (evs : List DeviceEvent) :
    OneBank (deviceRun d evs).MxKeysLedsMask := by
  induction evs generalizing d with
  | nil => exact h
  | cons ev evs ih => exact ih ((maskChange_deviceStep d ev).oneBank h)

/-- Whatever reports a device sends, whatever ends its recordings and whenever it is reset, no two
of the leds M1, M2 and M3 are on, and MR is off whenever the thread listens. -/
theorem leds_deviceRun (det : USBDeviceID δ) (evs : List DeviceEvent) :
    let d := deviceRun (newUSBDevice det) evs
    (∀ led led' : Leds, led ≠ .mr → led' ≠ .mr → d.isLedOn led → d.isLedOn led' → led = led') ∧
      (¬ d.inMacroRecordMode → d.isLedOn .mr = false) := by
  have hbank : OneBank (deviceRun (newUSBDevice det) evs).MxKeysLedsMask :=
    oneBank_deviceRun (oneBank_mask .m0) evs
  obtain ⟨hinv, _⟩ := deviceRun_inv (threadInv_newUSBDevice det) evs
  refine ⟨fun led led' hled hled' hon hon' => ?_, hinv.mrOff⟩
  exact hbank.led_eq hled hled' (by simpa [USBDevice.isLedOn] using hon)
    (by simpa [USBDevice.isLedOn] using hon')

end GLogiK
