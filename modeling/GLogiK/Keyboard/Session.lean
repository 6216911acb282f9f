import GLogiK.Keyboard.Leds
import GLogiK.Keyboard.Recording

/-!
# Recording sessions

The life of a device: turns of its listening thread and operations of the other threads. A
recording session starts when a report turns the MR led on. What it records depends on earlier
sessions through `previousPressedKeys` only, which nothing resets.
-/

namespace GLogiK

variable {δ : Type*}

/-! ### Runs of a device -/

inductive DeviceEvent
  | turn (turn : KeysTurn)
  | resetDeviceState
  | setDeviceActiveConfiguration (c : RGBBytes) (LCDPluginsMask1 : UInt64)
  | stopThreads

def deviceStep (d : USBDevice δ) : DeviceEvent → USBDevice δ × List (DeviceSignal δ)
  | .turn t                            => keysTurn d t
  | .resetDeviceState                  => (resetDeviceState d, [])
  | .setDeviceActiveConfiguration c m  => (setDeviceActiveConfiguration d c m, [])
  | .stopThreads                       => ({ d with threadsStatus := false }, [])

def deviceRun (d : USBDevice δ) (evs : List DeviceEvent) : USBDevice δ :=
  evs.foldl (fun d ev => (deviceStep d ev).1) d

/-- A session that goes on with the events: the macro when `enterMacroRecordMode` leaves its
loop, or when the events end. -/
def recordedMacro (d : USBDevice δ) : List DeviceEvent → MacroType
  | [] => d.newMacro
  | .turn turn :: evs =>
    let d := match turn with
      | .transfer t => (recordTransfer d t).1
      | .timeout    => d
    if d.exitMacroRecordMode || !d.threadsStatus then d.newMacro else recordedMacro d evs
  | ev :: evs => recordedMacro (deviceStep d ev).1 evs

/-! ### Between sessions -/

/-- Between two sessions the macro is empty and the MR led off; in a session the led is on, or
the device was reset. -/
structure ThreadInv (d : USBDevice δ) : Prop where
  newMacro : ¬ d.inMacroRecordMode → d.newMacro = []
  mrOff : ¬ d.inMacroRecordMode → d.isLedOn .mr = false
  mrOn : d.inMacroRecordMode → d.isLedOn .mr ∨ d.MxKeysLedsMask = 0

lemma threadInv_newUSBDevice (det : USBDeviceID δ) : ThreadInv (newUSBDevice det) :=
  ⟨fun _ => rfl, fun _ => by simp [newUSBDevice, USBDevice.isLedOn],
    fun h => absurd h (by simp [newUSBDevice])⟩

lemma recordProcessed_frame (d : USBDevice δ) :
    (recordProcessed d).1.MxKeysLedsMask = d.MxKeysLedsMask ∧
      (recordProcessed d).1.inMacroRecordMode = d.inMacroRecordMode := by
  rw [recordProcessed]
  split_ifs
  · exact ⟨rfl, rfl⟩
  · split <;> exact ⟨rfl, rfl⟩

lemma recordTransfer_frame (d : USBDevice δ) (t : KeysTransfer) :
    (recordTransfer d t).1.MxKeysLedsMask = d.MxKeysLedsMask ∧
      (recordTransfer d t).1.inMacroRecordMode = d.inMacroRecordMode := by
  obtain ⟨hmask, hmode, _⟩ := processKeyEvent_frame d t
  obtain ⟨hmask', hmode'⟩ := recordProcessed_frame (processKeyEvent d t).1
  match hstatus : (processKeyEvent d t).2 with
  | .keySkipped =>
    simp only [recordTransfer, hstatus]
    exact ⟨hmask, hmode⟩
  | .keyProcessed =>
    simp only [recordTransfer, hstatus]
    exact ⟨hmask'.trans hmask, hmode'.trans hmode⟩

lemma threadInv_leaveMacroRecordMode {d : USBDevice δ}
    (h : d.isLedOn .mr ∨ d.MxKeysLedsMask = 0) : ThreadInv (leaveMacroRecordMode d).1 := by
  rw [leaveMacroRecordMode]
  by_cases hmask : d.MxKeysLedsMask = 0
  · simp only [hmask, ne_eq, not_true_eq_false, if_false]
    exact ⟨fun _ => rfl, fun _ => by simp [USBDevice.isLedOn], fun h => by simp at h⟩
  · simp only [hmask, ne_eq, not_false_eq_true, if_true]
    refine ⟨fun _ => rfl, fun _ => isLedOn_mr_update_of_on (h.resolve_right hmask), ?_⟩
    exact fun h => by simp [updateDeviceMxKeysLedsMask] at h

lemma threadInv_checkExit {d : USBDevice δ} (hd : d.inMacroRecordMode)
    (h : d.isLedOn .mr ∨ d.MxKeysLedsMask = 0) : ThreadInv (checkExit d).1 := by
  rw [checkExit]
  split_ifs
  · exact threadInv_leaveMacroRecordMode h
  · exact ⟨fun hn => absurd hd hn, fun hn => absurd hd hn, fun _ => h⟩

lemma threadInv_listenProcessed {d : USBDevice δ} (hd : ¬ d.inMacroRecordMode) (h : ThreadInv d)
    (length now : ℕ) : ThreadInv (listenProcessed d length now).1 := by
  rw [listenProcessed]
  split_ifs with hlen
  · simp only
    split_ifs with hmr
    · exact ⟨fun hn => absurd rfl hn, fun hn => absurd rfl hn, fun _ => Or.inl hmr⟩
    · rw [Bool.not_eq_true] at hmr
      split
      · exact ⟨h.newMacro, fun _ => hmr, fun hr => absurd hr hd⟩
      · exact ⟨h.newMacro, fun _ => hmr, fun hr => absurd hr hd⟩
  · exact h

lemma threadInv_listenTransfer {d : USBDevice δ} (hd : ¬ d.inMacroRecordMode) (h : ThreadInv d)
    (t : KeysTransfer) : ThreadInv (listenTransfer d t).1 := by
  have hprocess : processKeyEvent d t =
      ({ d with pressedKeys := t.bytes, pressedRKeysMask := t.keysMask }, t.status) :=
    processKeyEvent_of_not_recorded (by simp [h.mrOff hd])
  let d' := { d with pressedKeys := t.bytes, pressedRKeysMask := t.keysMask }
  have hkeys : ThreadInv d' := ⟨h.newMacro, h.mrOff, h.mrOn⟩
  simp only [listenTransfer, hprocess]
  cases t.status with
  | keySkipped => exact hkeys
  | keyProcessed => exact threadInv_listenProcessed (d := d') hd hkeys _ _

lemma threadInv_deviceStep {d : USBDevice δ} (h : ThreadInv d) (ev : DeviceEvent) :
    ThreadInv (deviceStep d ev).1 := by
  match ev with
  | .turn turn =>
    simp only [deviceStep, keysTurn]
    by_cases hd : d.inMacroRecordMode
    · simp only [if_pos hd]
      match turn with
      | .timeout => exact threadInv_checkExit hd (h.mrOn hd)
      | .transfer t =>
        obtain ⟨hmask, hmode⟩ := recordTransfer_frame d t
        refine threadInv_checkExit (hmode.trans hd) ?_
        rw [USBDevice.isLedOn, hmask]
        exact h.mrOn hd
    · simp only [if_neg hd]
      split_ifs
      · match turn with
        | .timeout => exact h
        | .transfer t => exact threadInv_listenTransfer hd h t
      · exact h
  | .resetDeviceState =>
    simp only [deviceStep, resetDeviceState_eq]
    refine ⟨h.newMacro, fun hn => ?_, fun hr => ?_⟩
    · have hoff := h.mrOff hn
      simp only [USBDevice.isLedOn] at hoff ⊢
      split_ifs
      · simp
      · exact hoff
    · have hon := h.mrOn hr
      simp only [USBDevice.isLedOn] at hon ⊢
      split_ifs
      · exact Or.inr rfl
      · exact hon
  | .setDeviceActiveConfiguration c m =>
    simp only [deviceStep, setDeviceActiveConfiguration_eq]
    exact ⟨h.newMacro, h.mrOff, h.mrOn⟩
  | .stopThreads => exact ⟨h.newMacro, h.mrOff, h.mrOn⟩

/-! ### Two runs of a session -/

/-- The devices agree on all that a session reads; the first byte of the previous report is never
compared. -/
structure Alike (d d' : USBDevice δ) : Prop where
  capabilities : d.capabilities = d'.capabilities
  newMacro : d.newMacro = d'.newMacro
  lastTimePoint : d.lastTimePoint = d'.lastTimePoint
  exitMacroRecordMode : d.exitMacroRecordMode = d'.exitMacroRecordMode
  threadsStatus : d.threadsStatus = d'.threadsStatus
  mr : d.isLedOn .mr = d'.isLedOn .mr
  previous : ∀ i ≠ 0, d.previousPressedKeys i = d'.previousPressedKeys i

lemma addKeyEvents_congr {previous previous' pressed : KeysBuffer} {slots : List (Fin 8)}
    (h : ∀ i ∈ slots, previous i = previous' i) (interval : UInt16) (m : MacroType) :
    addKeyEvents previous pressed slots interval m =
      addKeyEvents previous' pressed slots interval m := by
  induction slots generalizing interval m with
  | nil => rfl
  | cons i slots ih =>
    obtain ⟨hi, hslots⟩ := List.forall_mem_cons.mp h
    simp only [addKeyEvents, hi, ih hslots]

lemma Alike.fillStandardKeysEvents {d d' : USBDevice δ} (h : Alike d d')
    (hkeys : d.pressedKeys = d'.pressedKeys) (now : ℕ) :
    (fillStandardKeysEvents d now).newMacro = (fillStandardKeysEvents d' now).newMacro := by
  have hslots : ∀ i ∈ keySlots, d.previousPressedKeys i = d'.previousPressedKeys i :=
    fun i hi => h.previous i (by rintro rfl; revert hi; decide)
  simp only [GLogiK.fillStandardKeysEvents, getTimeLapse, h.newMacro, h.lastTimePoint, hkeys,
    h.previous 1 (by decide), addKeyEvents_congr hslots]
  rfl

lemma Alike.processKeyEvent {d d' : USBDevice δ} (h : Alike d d') (t : KeysTransfer) :
    (processKeyEvent d t).2 = (processKeyEvent d' t).2 ∧
      (processKeyEvent d t).1.pressedRKeysMask = (processKeyEvent d' t).1.pressedRKeysMask ∧
      Alike (processKeyEvent d t).1 (processKeyEvent d' t).1 := by
  by_cases hrec : t.length = 8 ∧ d.isLedOn .mr
  · have hon' : d'.isLedOn .mr := h.mr ▸ hrec.2
    rw [processKeyEvent_of_recorded hrec.1 hrec.2, processKeyEvent_of_recorded hrec.1 hon']
    have hsame : Alike { d with pressedKeys := t.bytes, pressedRKeysMask := 0 }
        { d' with pressedKeys := t.bytes, pressedRKeysMask := 0 } := ⟨h.capabilities, h.newMacro,
      h.lastTimePoint, h.exitMacroRecordMode, h.threadsStatus, h.mr, h.previous⟩
    by_cases hfirst : t.bytes 0 = 0x01
    · simp only [processKeyEvent8Bytes, hfirst, ne_eq, not_true_eq_false, if_false]
      exact ⟨trivial, rfl, h.capabilities, hsame.fillStandardKeysEvents rfl t.now, rfl,
        h.exitMacroRecordMode, h.threadsStatus, h.mr, fun _ _ => rfl⟩
    · simp only [processKeyEvent8Bytes, hfirst, ne_eq, not_false_eq_true, if_true]
      exact ⟨trivial, trivial, h.capabilities, h.newMacro, h.lastTimePoint, h.exitMacroRecordMode,
        h.threadsStatus, h.mr, fun _ _ => rfl⟩
  · have hrec' : ¬ (t.length = 8 ∧ d'.isLedOn .mr) := h.mr ▸ hrec
    rw [processKeyEvent_of_not_recorded hrec, processKeyEvent_of_not_recorded hrec']
    exact ⟨rfl, rfl, h.capabilities, h.newMacro, h.lastTimePoint, h.exitMacroRecordMode,
      h.threadsStatus, h.mr, h.previous⟩

lemma isPressed_congr {d d' : USBDevice δ} (h : d.pressedRKeysMask = d'.pressedRKeysMask)
    (key : Keys) : d.isPressed key = d'.isPressed key := by
  simp only [USBDevice.isPressed, h]

lemma checkGKey_congr {d d' : USBDevice δ} (h : d.pressedRKeysMask = d'.pressedRKeysMask) :
    checkGKey d = checkGKey d' := by
  simp only [checkGKey, isPressed_congr h]

lemma Alike.recordProcessed {d d' : USBDevice δ} (h : Alike d d')
    (hmask : d.pressedRKeysMask = d'.pressedRKeysMask) :
    Alike (recordProcessed d).1 (recordProcessed d').1 := by
  simp only [GLogiK.recordProcessed, isPressed_congr hmask, checkGKey_congr hmask]
  split_ifs
  · exact ⟨h.capabilities, h.newMacro, h.lastTimePoint, rfl, h.threadsStatus, h.mr, h.previous⟩
  · cases checkGKey d' with
    | none => exact h
    | some keyID =>
      exact ⟨h.capabilities, congrArg checkMacro h.newMacro, h.lastTimePoint, rfl,
        h.threadsStatus, h.mr, h.previous⟩

lemma Alike.recordTransfer {d d' : USBDevice δ} (h : Alike d d') (t : KeysTransfer) :
    Alike (recordTransfer d t).1 (recordTransfer d' t).1 := by
  obtain ⟨hstatus, hmask, halike⟩ := h.processKeyEvent t
  match hs : (GLogiK.processKeyEvent d' t).2 with
  | .keySkipped =>
    simp only [GLogiK.recordTransfer, hstatus, hs]
    exact halike
  | .keyProcessed =>
    simp only [GLogiK.recordTransfer, hstatus, hs]
    exact halike.recordProcessed hmask

lemma Alike.resetDeviceState {d d' : USBDevice δ} (h : Alike d d') :
    Alike (resetDeviceState d) (resetDeviceState d') := by
  have hcap (cap : Caps) : d.checkDeviceCapability cap = d'.checkDeviceCapability cap := by
    simp only [USBDeviceID.checkDeviceCapability, h.capabilities]
  rw [resetDeviceState_eq, resetDeviceState_eq]
  refine ⟨h.capabilities, h.newMacro, h.lastTimePoint, ?_, h.threadsStatus, ?_, h.previous⟩
  · simp only [hcap, h.exitMacroRecordMode]
  · have hmr := h.mr
    simp only [USBDevice.isLedOn, hcap] at hmr ⊢
    split_ifs
    · rfl
    · exact hmr

lemma Alike.setDeviceActiveConfiguration {d d' : USBDevice δ} (h : Alike d d') (c : RGBBytes)
    (m : UInt64) : Alike (setDeviceActiveConfiguration d c m)
      (setDeviceActiveConfiguration d' c m) := by
  have hcap : d.checkDeviceCapability .macrosKeys = d'.checkDeviceCapability .macrosKeys := by
    simp only [USBDeviceID.checkDeviceCapability, h.capabilities]
  rw [setDeviceActiveConfiguration_eq, setDeviceActiveConfiguration_eq]
  refine ⟨h.capabilities, h.newMacro, h.lastTimePoint, ?_, h.threadsStatus, h.mr, h.previous⟩
  simp only [hcap, h.exitMacroRecordMode]

/-- Two sessions that start alike and go on with the same events record the same macro. -/
theorem Alike.recordedMacro_eq (evs : List DeviceEvent) {d d' : USBDevice δ} (h : Alike d d') :
    recordedMacro d evs = recordedMacro d' evs := by
  induction evs generalizing d d' with
  | nil => exact h.newMacro
  | cons ev evs ih =>
    match ev with
    | .turn turn =>
      have hturn : Alike
          (match turn with | .transfer t => (GLogiK.recordTransfer d t).1 | .timeout => d)
          (match turn with | .transfer t => (GLogiK.recordTransfer d' t).1 | .timeout => d') := by
        cases turn with
        | transfer t => exact h.recordTransfer t
        | timeout => exact h
      simp only [recordedMacro, hturn.exitMacroRecordMode, hturn.threadsStatus, hturn.newMacro,
        ih hturn]
    | .resetDeviceState => exact ih h.resetDeviceState
    | .setDeviceActiveConfiguration c m => exact ih (h.setDeviceActiveConfiguration c m)
    | .stopThreads => exact ih ⟨h.capabilities, h.newMacro, h.lastTimePoint,
        h.exitMacroRecordMode, rfl, h.mr, h.previous⟩

/-! ### The device stays the same -/

section

variable (d : USBDevice δ)

lemma same_leaveMacroRecordMode : d.Same (leaveMacroRecordMode d).1 := by
  rw [leaveMacroRecordMode]
  simp only
  split_ifs <;> exact ⟨rfl, rfl⟩

lemma same_checkExit : d.Same (checkExit d).1 := by
  rw [checkExit]
  split_ifs
  · exact same_leaveMacroRecordMode d
  · exact ⟨rfl, rfl⟩

lemma same_recordProcessed : d.Same (recordProcessed d).1 := by
  rw [recordProcessed]
  split_ifs
  · exact ⟨rfl, rfl⟩
  · split <;> exact ⟨rfl, rfl⟩

lemma same_listenProcessed (length now : ℕ) : d.Same (listenProcessed d length now).1 := by
  rw [listenProcessed]
  split_ifs
  · simp only
    split_ifs
    · exact ⟨rfl, rfl⟩
    · split <;> exact ⟨rfl, rfl⟩
  · exact ⟨rfl, rfl⟩

lemma same_recordTransfer (t : KeysTransfer) : d.Same (recordTransfer d t).1 := by
  obtain ⟨_, _, hsame⟩ := processKeyEvent_frame d t
  match hstatus : (processKeyEvent d t).2 with
  | .keySkipped =>
    simp only [recordTransfer, hstatus]
    exact hsame
  | .keyProcessed =>
    simp only [recordTransfer, hstatus]
    exact hsame.trans (same_recordProcessed _)

lemma same_listenTransfer (t : KeysTransfer) : d.Same (listenTransfer d t).1 := by
  obtain ⟨_, _, hsame⟩ := processKeyEvent_frame d t
  match hstatus : (processKeyEvent d t).2 with
  | .keySkipped =>
    simp only [listenTransfer, hstatus]
    exact hsame
  | .keyProcessed =>
    simp only [listenTransfer, hstatus]
    exact hsame.trans (same_listenProcessed _ _ _)

lemma same_keysTurn (turn : KeysTurn) : d.Same (keysTurn d turn).1 := by
  simp only [keysTurn]
  split_ifs
  · match turn with
    | .transfer t => exact (same_recordTransfer d t).trans (same_checkExit _)
    | .timeout => exact same_checkExit d
  · match turn with
    | .transfer t => exact same_listenTransfer d t
    | .timeout => exact ⟨rfl, rfl⟩
  · exact ⟨rfl, rfl⟩

lemma same_resetDeviceState : d.Same (resetDeviceState d) := by
  rw [resetDeviceState_eq]
  exact ⟨rfl, rfl⟩

lemma same_setDeviceActiveConfiguration (c : RGBBytes) (LCDPluginsMask1 : UInt64) :
    d.Same (setDeviceActiveConfiguration d c LCDPluginsMask1) := by
  rw [setDeviceActiveConfiguration_eq]
  exact ⟨rfl, rfl⟩

lemma same_deviceStep (ev : DeviceEvent) : d.Same (deviceStep d ev).1 := by
  match ev with
  | .turn turn => exact same_keysTurn d turn
  | .resetDeviceState => exact same_resetDeviceState d
  | .setDeviceActiveConfiguration c m => exact same_setDeviceActiveConfiguration d c m
  | .stopThreads => exact ⟨rfl, rfl⟩

end

/-- Every run keeps the invariant of the thread and the identity of the device. -/
lemma deviceRun_inv {d : USBDevice δ} (h : ThreadInv d) (evs : List DeviceEvent) :
    ThreadInv (deviceRun d evs) ∧ (deviceRun d evs).toUSBDeviceID = d.toUSBDeviceID := by
  induction evs generalizing d with
  | nil => exact ⟨h, rfl⟩
  | cons ev evs ih =>
    obtain ⟨hinv, hid⟩ := ih (threadInv_deviceStep h ev)
    exact ⟨hinv, hid.trans (same_deviceStep d ev).id⟩

/-! ### The start of a session -/

/-- The report takes the thread from `listenLoop` into `enterMacroRecordMode`. -/
def StartsSession (d : USBDevice δ) (t : KeysTransfer) : Prop :=
  ¬ d.inMacroRecordMode ∧ (keysTurn d (.transfer t)).1.inMacroRecordMode

/-- The report is a G-keys report that has the MR key. -/
def KeysTransfer.hasMR (t : KeysTransfer) (det : USBDeviceID δ) : Prop :=
  t.status = .keyProcessed ∧ (det.checkDeviceCapability .macrosKeys ∧
    t.length = det.GKeysTransferLength) ∧ t.keysMask &&& Keys.mr.mask ≠ 0

/-- The device after `getPressedKeys` outside macro record mode. -/
abbrev USBDevice.afterTransfer (d : USBDevice δ) (t : KeysTransfer) : USBDevice δ :=
  { d with pressedKeys := t.bytes, pressedRKeysMask := t.keysMask }

section

variable {d : USBDevice δ} {t : KeysTransfer}

lemma keysTurn_of_listening (hd : ¬ d.inMacroRecordMode) (hoff : d.isLedOn .mr = false)
    (hthreads : d.threadsStatus) :
    keysTurn d (.transfer t) =
      match t.status with
      | .keySkipped   => (d.afterTransfer t, [])
      | .keyProcessed => listenProcessed (d.afterTransfer t) t.length t.now := by
  have hprocess : processKeyEvent d t = (d.afterTransfer t, t.status) :=
    processKeyEvent_of_not_recorded (by simp [hoff])
  simp only [keysTurn, hd, hthreads, if_true, listenTransfer, hprocess]
  rfl

lemma mr_afterTransfer (hoff : d.isLedOn .mr = false) :
    (updateDeviceMxKeysLedsMask (d.afterTransfer t) false).1.isLedOn .mr = true ↔
      t.keysMask &&& Keys.mr.mask ≠ 0 := by
  have hoff' : (d.afterTransfer t).isLedOn .mr = false := hoff
  rw [isLedOn_mr_update_of_off hoff']
  simp [USBDevice.isPressed]

/-- A report with the MR key starts a session. -/
lemma keysTurn_of_hasMR (hd : ¬ d.inMacroRecordMode) (hoff : d.isLedOn .mr = false)
    (hthreads : d.threadsStatus) (h : t.hasMR d.toUSBDeviceID) :
    (keysTurn d (.transfer t)).1 =
      enterMacroRecordMode (updateDeviceMxKeysLedsMask (d.afterTransfer t) false).1 t.now := by
  obtain ⟨hstatus, ⟨hcap, hlen⟩, hmr⟩ := h
  have hkeys : ((d.afterTransfer t).checkDeviceCapability .macrosKeys &&
      t.length == (d.afterTransfer t).GKeysTransferLength) = true := by
    rw [Bool.and_eq_true, beq_iff_eq]
    exact ⟨hcap, hlen⟩
  rw [keysTurn_of_listening hd hoff hthreads, hstatus]
  simp only [listenProcessed, if_pos hkeys, (mr_afterTransfer hoff).mpr hmr, if_true]

/-- No other report does. -/
lemma hasMR_of_startsSession (hinv : ThreadInv d) (h : StartsSession d t) :
    d.threadsStatus ∧ t.hasMR d.toUSBDeviceID := by
  obtain ⟨hd, hrec⟩ := h
  have hoff := hinv.mrOff hd
  by_cases hthreads : d.threadsStatus
  · rw [keysTurn_of_listening hd hoff hthreads] at hrec
    match hstatus : t.status with
    | .keySkipped =>
      rw [hstatus] at hrec
      exact absurd hrec hd
    | .keyProcessed =>
      rw [hstatus] at hrec
      simp only [listenProcessed] at hrec
      split_ifs at hrec with hlen hmr
      · rw [Bool.and_eq_true, beq_iff_eq] at hlen
        exact ⟨hthreads, hstatus, hlen, (mr_afterTransfer hoff).mp hmr⟩
      · cases hkey : checkGKey (updateDeviceMxKeysLedsMask (d.afterTransfer t) false).1 with
        | none =>
          rw [hkey] at hrec
          exact absurd hrec hd
        | some keyID =>
          rw [hkey] at hrec
          exact absurd hrec hd
      · exact absurd hrec hd
  · rw [keysTurn, if_neg hd, if_neg hthreads] at hrec
    exact absurd hrec hd

end

/-- At the start of a session the macro is empty and the previous report is remembered. -/
lemma session_start {d : USBDevice δ} {t : KeysTransfer} (hinv : ThreadInv d)
    (h : StartsSession d t) :
    (keysTurn d (.transfer t)).1.isLedOn .mr ∧ (keysTurn d (.transfer t)).1.newMacro = [] ∧
      (keysTurn d (.transfer t)).1.previousPressedKeys = d.previousPressedKeys := by
  obtain ⟨hthreads, hMR⟩ := hasMR_of_startsSession hinv h
  rw [keysTurn_of_hasMR h.1 (hinv.mrOff h.1) hthreads hMR]
  exact ⟨(mr_afterTransfer (hinv.mrOff h.1)).mpr hMR.2.2, hinv.newMacro h.1, rfl⟩

/-- The macro a session records that starts with the report and goes on with the events. -/
def sessionMacro (d : USBDevice δ) (t : KeysTransfer) (evs : List DeviceEvent) : MacroType :=
  recordedMacro (keysTurn d (.transfer t)).1 evs

/-- Two devices between sessions start one alike, if they remember the same previous report. -/
lemma alike_of_startsSession {d d' : USBDevice δ} {t : KeysTransfer} (hinv : ThreadInv d)
    (hinv' : ThreadInv d') (hid : d.toUSBDeviceID = d'.toUSBDeviceID)
    (hd' : ¬ d'.inMacroRecordMode) (hthreads' : d'.threadsStatus) (h : StartsSession d t) :
    StartsSession d' t ∧ ∀ p, (∀ i ≠ 0, d.previousPressedKeys i = p i) →
      Alike (keysTurn d (.transfer t)).1
        { (keysTurn d' (.transfer t)).1 with previousPressedKeys := p } := by
  obtain ⟨hthreads, hMR⟩ := hasMR_of_startsSession hinv h
  have hMR' : t.hasMR d'.toUSBDeviceID := hid ▸ hMR
  have hstart := keysTurn_of_hasMR h.1 (hinv.mrOff h.1) hthreads hMR
  have hstart' := keysTurn_of_hasMR hd' (hinv'.mrOff hd') hthreads' hMR'
  have hmr := (mr_afterTransfer (hinv.mrOff h.1)).mpr hMR.2.2
  have hmr' := (mr_afterTransfer (hinv'.mrOff hd')).mpr hMR'.2.2
  refine ⟨⟨hd', by rw [hstart']; rfl⟩, fun p hp => ?_⟩
  rw [hstart, hstart']
  exact ⟨congrArg USBDeviceID.capabilities hid,
    (hinv.newMacro h.1).trans (hinv'.newMacro hd').symm, rfl, rfl,
    hthreads.trans hthreads'.symm, hmr.trans hmr'.symm, hp⟩

/-! ### The report that tells two devices apart -/

/-- The report with the keys of `p`. -/
def sameKeys (p : KeysBuffer) : KeysBuffer := fun i => if i = 0 then 0x01 else p i

lemma keyChange_self (b : UInt8) : keyChange b b = none := by simp [keyChange]

lemma changes_sameKeys (p : KeysBuffer) : reportChanges p (sameKeys p) = [] := by
  have hslots : ∀ i ∈ keySlots, keyChange (p i) (sameKeys p i) = none := by
    intro i hi
    have hne : i ≠ 0 := by rintro rfl; revert hi; decide
    rw [sameKeys, if_neg hne, keyChange_self]
  simp only [reportChanges, sameKeys, if_true, changes, modifierChanges]
  simpa [keyChanges, List.filterMap_eq_nil_iff] using hslots

lemma modifierChanges_zero_eq_nil {b : UInt8} (h : modifierChanges 0 b = []) : b = 0 := by
  have hall := forall_uint8 (p := fun b => modifierChanges 0 b = [] → b = 0) (by decide +kernel)
  exact hall b h

lemma keyChange_zero_eq_none {b : UInt8} (h : keyChange 0 b = none) : b = 0 := by
  by_contra hb
  simp [keyChange, Ne.symm hb] at h

/-- From the released state the report shows its keys. -/
lemma eq_zero_of_changes {p : KeysBuffer} (h : reportChanges (fun _ => 0) (sameKeys p) = []) :
    ∀ i ≠ 0, p i = 0 := by
  simp only [reportChanges, sameKeys, if_true, changes, List.append_eq_nil_iff] at h
  obtain ⟨hmod, hkeys⟩ := h
  have hslots : ∀ i ∈ keySlots, keyChange 0 (sameKeys p i) = none :=
    List.filterMap_eq_nil_iff.mp hkeys
  intro i hi
  by_cases h1 : i = 1
  · subst h1
    exact modifierChanges_zero_eq_nil hmod
  · have hslot : i ∈ keySlots := by revert hi h1; revert i; decide
    have hnone := hslots i hslot
    rw [sameKeys, if_neg hi] at hnone
    exact keyChange_zero_eq_none hnone

lemma length_modifierChanges (p q : UInt8) : (modifierChanges p q).length ≤ 8 := by
  rw [modifierChanges]
  split_ifs
  · simp
  · rw [List.length_map]
    exact List.length_filter_le _ _
  · rw [List.length_map]
    exact List.length_filter_le _ _

lemma length_reportChanges (p q : KeysBuffer) : (reportChanges p q).length ≤ 14 := by
  rw [reportChanges]
  split_ifs
  · rw [changes, List.length_append]
    exact Nat.add_le_add (length_modifierChanges _ _) (List.length_filterMap_le _ _)
  · simp

/-- An empty macro has room for a whole report. -/
lemma noneSkipped_reportChanges (p q : KeysBuffer) : NoneSkipped ([] ++ reportChanges p q) := by
  have hlen := length_reportChanges p q
  refine ⟨hlen.trans (by decide), fun c hc => ?_⟩
  rw [List.nil_append, List.drop_of_length_le (hlen.trans (by decide))] at hc
  cases hc

/-- A session with one report records the changes of the report. -/
lemma macroChanges_recordedMacro {e : USBDevice δ} (hMR : e.isLedOn .mr) (hnew : e.newMacro = [])
    (r : TimedReport) :
    macroChanges (recordedMacro e [.turn (.transfer ⟨8, r.bytes, r.now⟩)]) =
      reportChanges e.previousPressedKeys r.bytes := by
  have hrec := macroChanges_recordReport r hMR
    (by rw [hnew]; exact noneSkipped_reportChanges _ _)
  rw [hnew] at hrec
  simp only [recordedMacro, ite_self]
  exact hrec

/-- After any history, every session records what a fresh device would record exactly when the
last report that was handled in macro record mode had no key down. -/
theorem sessionMacro_eq_fresh_iff {det : USBDeviceID δ} {history : List DeviceEvent}
    {t : KeysTransfer} (h : StartsSession (deviceRun (newUSBDevice det) history) t) :
    StartsSession (newUSBDevice det) t ∧
      ((∀ evs, sessionMacro (deviceRun (newUSBDevice det) history) t evs =
          sessionMacro (newUSBDevice det) t evs) ↔
        ∀ i ≠ 0, (deviceRun (newUSBDevice det) history).previousPressedKeys i = 0) := by
  obtain ⟨hinv, hid⟩ := deviceRun_inv (threadInv_newUSBDevice det) history
  obtain ⟨hfresh, halike⟩ := alike_of_startsSession hinv (threadInv_newUSBDevice det) hid
    (by simp [newUSBDevice]) rfl h
  obtain ⟨hmr, hnew, hprev⟩ := session_start hinv h
  obtain ⟨hmr', hnew', hprev'⟩ := session_start (threadInv_newUSBDevice det) hfresh
  refine ⟨hfresh, fun hall => ?_, fun hzero evs => ?_⟩
  · -- the session whose only report has the keys that are remembered
    let p := (deviceRun (newUSBDevice det) history).previousPressedKeys
    have hone := congrArg macroChanges (hall [.turn (.transfer ⟨8, sameKeys p, 0⟩)])
    have hleft := macroChanges_recordedMacro hmr hnew ⟨sameKeys p, 0⟩
    have hright := macroChanges_recordedMacro hmr' hnew' ⟨sameKeys p, 0⟩
    rw [hprev] at hleft
    rw [hprev'] at hright
    refine eq_zero_of_changes (hright.symm.trans (hone.symm.trans (hleft.trans ?_)))
    exact changes_sameKeys p
  · have hsame := halike (fun _ => 0) hzero
    rw [show (fun _ => 0 : KeysBuffer) = (keysTurn (newUSBDevice det)
      (.transfer t)).1.previousPressedKeys from hprev'.symm] at hsame
    exact hsame.recordedMacro_eq evs

/-! ### A key that is still held -/

private def g510 : USBDeviceID ℕ :=
  { devID := 0, capabilities := 15, driverID := 0, GKeysTransferLength := 5 }

private def report (bytes : KeysBuffer) (length now : ℕ) : DeviceEvent :=
  .turn (.transfer ⟨length, bytes, now⟩)

private def pressMR : KeysTransfer := ⟨5, ![3, 0, 0, 0x80, 0, 0, 0, 0], 0⟩

private def pressG1 : DeviceEvent := report ![3, 1, 0, 0, 0, 0, 0, 0] 5 9

/-- `a` is pressed and released, then G1 ends the session. -/
def releasedHistory : List DeviceEvent :=
  [.turn (.transfer pressMR), report ![1, 0, 4, 0, 0, 0, 0, 0] 8 1,
    report ![1, 0, 0, 0, 0, 0, 0, 0] 8 2, pressG1]

theorem sessionMacro_releasedHistory :
    StartsSession (newUSBDevice g510) pressMR ∧
      ∀ evs, sessionMacro (deviceRun (newUSBDevice g510) releasedHistory) pressMR evs =
        sessionMacro (newUSBDevice g510) pressMR evs := by
  have hstart : StartsSession (deviceRun (newUSBDevice g510) releasedHistory) pressMR :=
    ⟨by decide +kernel, by decide +kernel⟩
  obtain ⟨hfresh, hiff⟩ := sessionMacro_eq_fresh_iff hstart
  exact ⟨hfresh, hiff.mpr (by decide +kernel)⟩

/-- `a` is still held when G1 ends the session. -/
def heldHistory : List DeviceEvent :=
  [.turn (.transfer pressMR), report ![1, 0, 4, 0, 0, 0, 0, 0] 8 1, pressG1]

/-- The next session, in which `a` is typed once, records nothing. -/
theorem sessionMacro_heldHistory :
    let evs := [report ![1, 0, 4, 0, 0, 0, 0, 0] 8 1, report ![1, 0, 0, 0, 0, 0, 0, 0] 8 2, pressG1]
    StartsSession (deviceRun (newUSBDevice g510) heldHistory) pressMR ∧
      sessionMacro (deviceRun (newUSBDevice g510) heldHistory) pressMR evs = [] ∧
      sessionMacro (newUSBDevice g510) pressMR evs =
        [⟨30, .eventKeyPress, 1⟩, ⟨30, .eventKeyRelease, 1⟩] := by
  refine ⟨⟨by decide +kernel, by decide +kernel⟩, by decide +kernel, by decide +kernel⟩

end GLogiK
