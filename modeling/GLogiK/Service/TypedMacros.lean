import GLogiK.DBus.DeviceSignals
import GLogiK.Lib.Run
import GLogiK.Service.Playback

/-!
# From the keyboard to the applications

A macro is typed while the MR led is on, and stored with a G-key. The daemon broadcasts it, the
desktop service puts it into the current bank, and plays it when the G-key is pressed again. The
applications see the keys as they were typed.
-/

namespace GLogiK

open BanksByID Brackets GKeysEventManager

/-! ### The messages that the service handles -/

namespace KeysService

variable {δ : Type*} [LinearOrder δ] (s : KeysService δ)

/-- The file is saved when nothing was thrown. -/
def deviceMacroRecorded (devID : δ) (keyID : GKeysID) (recorded : MacroType)
    (answer : DirectoryAnswer) : KeysService δ :=
  let set := s.devices.startedDevices[devID]?.bind fun device =>
    (device.GKeysBanks.setMacro device.currentBankID.byte (GKeysID.byte keyID) recorded).toOption
  if set.isSome then
    { s with
      devices := (s.devices.setDeviceMacro devID (GKeysID.byte keyID)
        recorded).saveDeviceConfigurationFile devID answer }
  else s

/-- The file is saved when there was a macro. -/
def deviceMacroCleared (devID : δ) (keyID : GKeysID) (answer : DirectoryAnswer) : KeysService δ :=
  let cleared := s.devices.startedDevices[devID]?.bind fun device =>
    (device.GKeysBanks.clearMacro device.currentBankID.byte (GKeysID.byte keyID)).toOption
  if cleared.any (·.2) then
    { s with
      devices := (s.devices.clearDeviceMacro devID
        (GKeysID.byte keyID)).saveDeviceConfigurationFile devID answer }
  else s

/-- The callback functions of the signals. -/
def callback (answer : DirectoryAnswer) (results : ℕ → WriteResult) :
    DeviceSignal δ → KeysService δ
  | .deviceGKeyEvent devID keyID => s.deviceGKeyEvent devID keyID results
  | .deviceMBankSwitch devID bankID =>
    if !s.registerStatus || !s.sessionActive then s
    else { s with devices := s.devices.setDeviceCurrentBankID devID bankID }
  | .deviceMacroRecorded devID keyID recorded =>
    if !s.registerStatus || !s.sessionActive then s
    else s.deviceMacroRecorded devID keyID recorded answer
  | .deviceMacroCleared devID keyID =>
    if !s.registerStatus || !s.sessionActive then s else s.deviceMacroCleared devID keyID answer

end KeysService

/-- A message that reaches the service. `before` is what an earlier message left on the stacks,
`answer` the answer of the file system, and `results` are the results of the writes. -/
structure ReceivedMessage where
  message : DBusMessage
  before : Arguments
  answer : DirectoryAnswer
  results : ℕ → WriteResult

/-- An exception is logged. -/
def KeysService.receive (s : KeysService String) (received : ReceivedMessage) :
    KeysService String :=
  match received.message.deviceSignal received.before with
  | some (.ok signal)          => s.callback received.answer received.results signal
  | some (.error _) | none     => s

/-! ### Typing a macro -/

/-- The listening thread is in `enterMacroRecordMode`. -/
structure Records (d : USBDevice String) : Prop where
  inMacroRecordMode : d.inMacroRecordMode
  isLedOn : d.isLedOn .mr
  exitMacroRecordMode : d.exitMacroRecordMode = false
  threadsStatus : d.threadsStatus

/-- The event of an 8-byte report. -/
def TimedReport.event (r : TimedReport) : DeviceEvent := .turn (.transfer ⟨8, r.bytes, r.now⟩)

/-- A time-out, or a report that is skipped, which one of 8 bytes is only outside of a recording. -/
def DeviceEvent.Idle (records : Prop) : DeviceEvent → Prop
  | .turn .timeout      => True
  | .turn (.transfer t) => t.status = .keySkipped ∧ ¬ (t.length = 8 ∧ records)
  | _                   => False

/-- The reports, with idle turns in between. -/
inductive Typing : List TimedReport → List DeviceEvent → Prop
  | nil : Typing [] []
  | report {rs : List TimedReport} {events : List DeviceEvent} (r : TimedReport) :
    Typing rs events → Typing (r :: rs) (r.event :: events)
  | idle {rs : List TimedReport} {events : List DeviceEvent} {event : DeviceEvent} :
    event.Idle True → Typing rs events → Typing rs (event :: events)

section

variable {d : USBDevice String}

/-- The keys of the last report, which the next one replaces. -/
def withKeys (d : USBDevice String) (bytes : KeysBuffer) (mask : UInt64) : USBDevice String :=
  { d with pressedKeys := bytes, pressedRKeysMask := mask }

lemma Records.withKeys (h : Records d) (bytes : KeysBuffer) (mask : UInt64) :
    Records (withKeys d bytes mask) :=
  ⟨h.inMacroRecordMode, h.isLedOn, h.exitMacroRecordMode, h.threadsStatus⟩

/-- An idle turn of a recording. -/
lemma Records.deviceStep_idle (h : Records d) {event : DeviceEvent} (hidle : event.Idle True) :
    ∃ bytes mask, deviceStep d event = (GLogiK.withKeys d bytes mask, []) := by
  have hexit : ∀ bytes mask, checkExit (GLogiK.withKeys d bytes mask) =
      (GLogiK.withKeys d bytes mask, []) := by
    intro bytes mask
    have hgoes : ¬ (d.exitMacroRecordMode || !d.threadsStatus) := by
      simp [h.exitMacroRecordMode, h.threadsStatus]
    exact if_neg hgoes
  rcases event with (t | _) | _ | _ | _
  · have hprocess : processKeyEvent d t = (GLogiK.withKeys d t.bytes t.keysMask, t.status) :=
      processKeyEvent_of_not_recorded fun hrecorded => hidle.2 ⟨hrecorded.1, trivial⟩
    have hrecord : recordTransfer d t = (GLogiK.withKeys d t.bytes t.keysMask, []) := by
      rw [recordTransfer, hprocess, hidle.1]
    refine ⟨t.bytes, t.keysMask, ?_⟩
    simp only [deviceStep, keysTurn, h.inMacroRecordMode, if_true, hrecord, hexit, List.append_nil]
  · refine ⟨d.pressedKeys, d.pressedRKeysMask, ?_⟩
    simp only [deviceStep, keysTurn, h.inMacroRecordMode, if_true]
    exact hexit _ _
  · exact hidle.elim
  · exact hidle.elim
  · exact hidle.elim

lemma recordReport_withKeys (h : Records d) (bytes : KeysBuffer) (mask : UInt64) (r : TimedReport) :
    recordReport (withKeys d bytes mask) r = recordReport d r := by
  rw [recordReport_eq h.isLedOn, recordReport_eq (h.withKeys bytes mask).isLedOn]
  rfl

lemma foldl_recordReport_withKeys (h : Records d) (bytes : KeysBuffer) (mask : UInt64)
    (rs : List TimedReport) :
    ∃ bytes' mask', rs.foldl recordReport (withKeys d bytes mask) =
      withKeys (rs.foldl recordReport d) bytes' mask' := by
  cases rs with
  | nil => exact ⟨bytes, mask, rfl⟩
  | cons r rs =>
    rw [List.foldl_cons, List.foldl_cons, recordReport_withKeys h]
    exact ⟨(rs.foldl recordReport (recordReport d r)).pressedKeys,
      (rs.foldl recordReport (recordReport d r)).pressedRKeysMask, rfl⟩

/-- A report is recorded, and nothing is broadcast. -/
lemma deviceStep_report (h : Records d) (r : TimedReport) :
    deviceStep d r.event = (recordReport d r, []) := by
  have hprocess : processKeyEvent d ⟨8, r.bytes, r.now⟩ = _ :=
    processKeyEvent_of_recorded rfl h.isLedOn
  have hrecord : recordTransfer d ⟨8, r.bytes, r.now⟩ = (recordReport d r, []) := by
    rw [recordReport, recordTransfer, hprocess]
    dsimp only
    rw [recordProcessed_of_zero]
    rw [processKeyEvent8Bytes_eq]
  have hexit : checkExit (recordReport d r) = (recordReport d r, []) := by
    rw [checkExit, recordReport_eq h.isLedOn, processKeyEvent8Bytes_eq]
    simp [h.exitMacroRecordMode, h.threadsStatus]
  simp only [deviceStep, TimedReport.event, keysTurn, h.inMacroRecordMode, if_true, hrecord,
    hexit, List.append_nil]

lemma records_recordReport (h : Records d) (r : TimedReport) : Records (recordReport d r) := by
  refine ⟨?_, recordReport_isLedOn r h.isLedOn, ?_, ?_⟩ <;>
    rw [recordReport_eq h.isLedOn, processKeyEvent8Bytes_eq]
  · exact h.inMacroRecordMode
  · exact h.exitMacroRecordMode
  · exact h.threadsStatus

lemma same_recordReport (h : Records d) (r : TimedReport) : d.Same (recordReport d r) := by
  have hsame := same_deviceStep (d := d) r.event
  rwa [deviceStep_report h] at hsame

/-- All reports are recorded. -/
lemma Records.foldl_recordReport (h : Records d) (rs : List TimedReport) :
    Records (rs.foldl recordReport d) ∧ d.Same (rs.foldl recordReport d) := by
  induction rs generalizing d with
  | nil => exact ⟨h, rfl, rfl⟩
  | cons r rs ih =>
    obtain ⟨hrecords, hsame⟩ := ih (records_recordReport h r)
    exact ⟨hrecords, (same_recordReport h r).trans hsame⟩

/-- While the macro is typed, nothing is broadcast. -/
lemma Records.deviceSignals_typing (h : Records d) {rs : List TimedReport}
    {typing : List DeviceEvent} (htyping : Typing rs typing) (events : List DeviceEvent) :
    ∃ bytes mask, deviceSignals d (typing ++ events) =
      deviceSignals (GLogiK.withKeys (rs.foldl recordReport d) bytes mask) events := by
  induction htyping generalizing d with
  | nil => exact ⟨d.pressedKeys, d.pressedRKeysMask, rfl⟩
  | report r htyping ih =>
    obtain ⟨bytes, mask, hrest⟩ := ih (records_recordReport h r)
    refine ⟨bytes, mask, ?_⟩
    rw [List.cons_append, deviceSignals, deviceStep_report h, List.nil_append, hrest,
      List.foldl_cons]
  | @idle rs typing event hidle htyping ih =>
    obtain ⟨bytes, mask, hstep⟩ := h.deviceStep_idle hidle
    obtain ⟨bytes₁, mask₁, hrest⟩ := ih (h.withKeys bytes mask)
    obtain ⟨bytes₂, mask₂, hfold⟩ := foldl_recordReport_withKeys h bytes mask rs
    refine ⟨bytes₁, mask₁, ?_⟩
    rw [List.cons_append, deviceSignals, hstep, List.nil_append, hrest, hfold]
    rfl

/-- When nothing is skipped, the macro has all changes of the reports. -/
lemma Records.macroChanges_foldl (h : Records d) (rs : List TimedReport)
    (hskip : NoneSkipped (macroChanges d.newMacro ++ recordedChanges d.previousPressedKeys rs)) :
    macroChanges (rs.foldl recordReport d).newMacro =
      macroChanges d.newMacro ++ recordedChanges d.previousPressedKeys rs := by
  induction rs generalizing d with
  | nil => exact (List.append_nil _).symm
  | cons r rs ih =>
    rw [recordedChanges, ← List.append_assoc] at hskip ⊢
    have hreport := macroChanges_recordReport r h.isLedOn hskip.of_append
    have hprevious := recordReport_previousPressedKeys r h.isLedOn
    have hrest := ih (records_recordReport h r) (by rwa [hreport, hprevious])
    rwa [hreport, hprevious] at hrest

end

/-! ### The changes of the reports -/

def Change.mark (c : Change) : Option (Mark UInt8) :=
  match c.2 with
  | .eventKeyPress   => some (.opening c.1)
  | .eventKeyRelease => some (.closing c.1)
  | .eventKeyUnknown => none

lemma marks_eq_filterMap (m : MacroType) : marks m = (macroChanges m).filterMap Change.mark := by
  rw [marks, macroChanges, List.filterMap_map]
  rfl

lemma pressCount_eq_countP (m : MacroType) :
    pressCount m = (macroChanges m).countP fun c => c.2 = .eventKeyPress := by
  rw [pressCount, macroChanges, List.countP_map]
  rfl

/-- A change is a press or a release of a key, whose code comes from the tables. -/
def Change.Known (c : Change) : Prop :=
  c.2 ≠ .eventKeyUnknown ∧ (c.1 = 0 ∨ codeEnabled c.1)

lemma known_hidKeyboard (usage : UInt8) (event : EventValue) (h : event ≠ .eventKeyUnknown) :
    Change.Known (hidKeyboard usage, event) := by
  refine ⟨h, ?_⟩
  by_cases hzero : hidKeyboard usage = 0
  · exact Or.inl hzero
  · exact Or.inr (codeEnabled_hidKeyboard usage hzero)

lemma known_of_keyChange {previous pressed : UInt8} {c : Change}
    (h : keyChange previous pressed = some c) : c.Known := by
  rw [keyChange] at h
  split_ifs at h
  · cases h
    exact known_hidKeyboard pressed _ (by simp)
  · cases h
    exact known_hidKeyboard previous _ (by simp)

lemma codeEnabled_modifierKeys : ∀ mKey ∈ modifierKeys, codeEnabled mKey.code := by decide

lemma known_of_modifierChanges {previous pressed : UInt8} {c : Change}
    (h : c ∈ modifierChanges previous pressed) : c.Known := by
  rw [modifierChanges] at h
  split_ifs at h
  · cases h
  · obtain ⟨mKey, hmKey, rfl⟩ := List.mem_map.mp h
    exact ⟨by simp, Or.inr (codeEnabled_modifierKeys mKey (List.mem_of_mem_filter hmKey))⟩
  · obtain ⟨mKey, hmKey, rfl⟩ := List.mem_map.mp h
    exact ⟨by simp, Or.inr (codeEnabled_modifierKeys mKey (List.mem_of_mem_filter hmKey))⟩

lemma known_of_recordedChanges {previous : KeysBuffer} {rs : List TimedReport} {c : Change}
    (h : c ∈ recordedChanges previous rs) : c.Known := by
  induction rs generalizing previous with
  | nil => cases h
  | cons r rs ih =>
    rcases List.mem_append.mp h with hreport | hrest
    · rw [reportChanges] at hreport
      split_ifs at hreport
      · rcases List.mem_append.mp hreport with hmodifier | hkey
        · exact known_of_modifierChanges hmodifier
        · obtain ⟨i, -, hchange⟩ := List.mem_filterMap.mp hkey
          exact known_of_keyChange hchange
      · cases hreport
    · exact ih hrest

/-- The reports can be recorded: no limit is reached, a key is pressed, and every key that is
pressed is released. -/
structure Typed (previous : KeysBuffer) (rs : List TimedReport) : Prop where
  noneSkipped : NoneSkipped (recordedChanges previous rs)
  ne_nil : recordedChanges previous rs ≠ []
  paired : Paired ((recordedChanges previous rs).filterMap Change.mark)
  presses : (recordedChanges previous rs).countP (fun c => c.2 = .eventKeyPress) < 12

/-- Such a macro stays as it is when it is checked. -/
lemma Typed.checkMacro_eq {previous : KeysBuffer} {rs : List TimedReport} (h : Typed previous rs)
    {m : MacroType} (hm : macroChanges m = recordedChanges previous rs) : checkMacro m = m := by
  have hknown : PressOrRelease m := by
    intro e he
    have hmem : (e.code, e.event) ∈ recordedChanges previous rs := by
      rw [← hm]
      exact List.mem_map_of_mem he
    exact (known_of_recordedChanges hmem).1
  rw [GLogiK.checkMacro_eq hknown, pressCount_eq_countP, hm, if_pos h.presses]
  apply fixedReleases_of_pending
  rw [marks_eq_filterMap, hm]
  exact paired_iff_pending.mp h.paired

/-- The events that are seen are those whose code is not `KEY_RESERVED`. -/
lemma macroChanges_filter_codeEnabled {previous : KeysBuffer} {rs : List TimedReport}
    {m : MacroType} (hm : macroChanges m = recordedChanges previous rs) :
    macroChanges (m.filter fun key => codeEnabled key.code) =
      (recordedChanges previous rs).filter fun c => c.1 ≠ 0 := by
  have hfilter : macroChanges (m.filter fun key => codeEnabled key.code) =
      (macroChanges m).filter fun c => codeEnabled c.1 := by
    rw [macroChanges, macroChanges, List.filter_map]
    rfl
  rw [hfilter, hm]
  apply List.filter_congr
  intro c hc
  rcases (known_of_recordedChanges hc).2 with hzero | hcode
  · rw [hzero]
    decide
  · have hne : c.1 ≠ 0 := by
      intro hzero
      rw [hzero] at hcode
      exact absurd hcode (by decide)
    rw [hcode, decide_eq_true hne]

/-! ### Pressing the G-key -/

/-- The first G-key of a transfer. -/
def KeysTransfer.gKey (t : KeysTransfer) : Option GKeysID :=
  (List.finRange 18).find? (fun n => t.keysMask &&& (Keys.g n).mask ≠ 0) |>.map Fin.succ

/-- A 5-byte report has the G-key, and no M-key. -/
structure KeysTransfer.PressesGKey (t : KeysTransfer) (keyID : GKeysID) : Prop where
  length : t.length = 5
  gKey : t.gKey = some keyID
  others : ∀ key ∈ [Keys.m1, .m2, .m3, .mr], t.keysMask &&& key.mask = 0

section

variable {d : USBDevice String} {t : KeysTransfer} {keyID : GKeysID}

lemma KeysTransfer.PressesGKey.status (h : t.PressesGKey keyID) : t.status = .keyProcessed := by
  have hmask : t.keysMask ≠ 0 := by
    intro hzero
    have hkey := h.gKey
    rw [KeysTransfer.gKey, hzero, List.find?_eq_none.mpr (by simp)] at hkey
    cases hkey
  rw [KeysTransfer.status, if_pos (Or.inr ⟨h.length, hmask⟩)]

lemma KeysTransfer.PressesGKey.isPressed (h : t.PressesGKey keyID)
    (hmask : d.pressedRKeysMask = t.keysMask) {key : Keys} (hkey : key ∈ [Keys.m1, .m2, .m3, .mr]) :
    d.isPressed key = false := by
  rw [USBDevice.isPressed, hmask, h.others key hkey]
  rfl

lemma KeysTransfer.PressesGKey.checkGKey (h : t.PressesGKey keyID)
    (hmask : d.pressedRKeysMask = t.keysMask) : checkGKey d = some keyID := by
  rw [← h.gKey, GLogiK.checkGKey, KeysTransfer.gKey, ← hmask]
  rfl

lemma KeysTransfer.PressesGKey.ne_invalid (h : t.PressesGKey keyID) : keyID ≠ GKeyID_INV := by
  obtain ⟨n, -, rfl⟩ := Option.map_eq_some_iff.mp h.gKey
  exact Fin.succ_ne_zero n

/-- Without an M-key, nothing is switched. -/
lemma KeysTransfer.PressesGKey.update (h : t.PressesGKey keyID)
    (hmask : d.pressedRKeysMask = t.keysMask) (disableMR : Bool) :
    (updateDeviceMxKeysLedsMask d disableMR).2.2 = [] := by
  have hnone : d.pressedMxKey = none := by
    simp [USBDevice.pressedMxKey, h.isPressed hmask (by simp : Keys.m1 ∈ _),
      h.isPressed hmask (by simp : Keys.m2 ∈ _), h.isPressed hmask (by simp : Keys.m3 ∈ _)]
  change (updateMxKeyMask d).2 = []
  rw [updateMxKeyMask, hnone]

/-- A transfer after which the thread leaves `enterMacroRecordMode`. -/
lemma keysTurn_of_exit {d' : USBDevice String} {signals : List (DeviceSignal String)}
    (hd : d.inMacroRecordMode) (h : recordTransfer d t = (d', signals))
    (hexit : d'.exitMacroRecordMode) :
    keysTurn d (.transfer t) =
      ((leaveMacroRecordMode d').1, signals ++ (leaveMacroRecordMode d').2) := by
  have hleave : checkExit d' = leaveMacroRecordMode d' := by
    rw [checkExit, hexit, Bool.true_or, if_pos rfl]
  simp only [keysTurn, hd, if_true, h, hleave]

/-- The G-key ends the recording, and the checked macro is broadcast. -/
lemma deviceStep_gKey_of_records (hd : Records d) (h : t.PressesGKey keyID)
    (hne : checkMacro d.newMacro ≠ []) :
    (deviceStep d (.turn (.transfer t))).2 =
        [.deviceMacroRecorded d.devID keyID (checkMacro d.newMacro)] ∧
      ¬ (deviceStep d (.turn (.transfer t))).1.inMacroRecordMode ∧
      (deviceStep d (.turn (.transfer t))).1.isLedOn .mr = false ∧
      (deviceStep d (.turn (.transfer t))).1.threadsStatus := by
  have hprocess : processKeyEvent d t = (d.afterTransfer t, .keyProcessed) := by
    rw [← h.status]
    exact processKeyEvent_of_not_recorded fun h8 => by simp [h.length] at h8
  have hmask : (d.afterTransfer t).pressedRKeysMask = t.keysMask := rfl
  have hkeys : ¬ ((d.afterTransfer t).isPressed .m1 || (d.afterTransfer t).isPressed .m2 ||
      (d.afterTransfer t).isPressed .m3 || (d.afterTransfer t).isPressed .mr) := by
    simp [h.isPressed hmask (by simp : Keys.m1 ∈ _), h.isPressed hmask (by simp : Keys.m2 ∈ _),
      h.isPressed hmask (by simp : Keys.m3 ∈ _), h.isPressed hmask (by simp : Keys.mr ∈ _)]
  have hmacro : macroSignal { d.afterTransfer t with
      GKeyID := keyID, newMacro := checkMacro d.newMacro } =
        .deviceMacroRecorded d.devID keyID (checkMacro d.newMacro) := if_neg hne
  have hrecord : recordTransfer d t =
      ({ d.afterTransfer t with
          GKeyID := keyID
          newMacro := checkMacro d.newMacro
          exitMacroRecordMode := true },
        [.deviceMacroRecorded d.devID keyID (checkMacro d.newMacro)]) := by
    rw [recordTransfer, hprocess]
    dsimp only
    rw [recordProcessed, if_neg hkeys, h.checkGKey hmask, ← hmacro]
  have hled : d.MxKeysLedsMask ≠ 0 := by
    intro hzero
    have hon := hd.isLedOn
    rw [USBDevice.isLedOn, hzero] at hon
    simp at hon
  let left : USBDevice String := { d.afterTransfer t with
    GKeyID := keyID
    newMacro := []
    exitMacroRecordMode := true
    inMacroRecordMode := false }
  have hturn : deviceStep d (.turn (.transfer t)) =
      ((updateDeviceMxKeysLedsMask left true).1,
        [.deviceMacroRecorded d.devID keyID (checkMacro d.newMacro)]) := by
    have hleave : leaveMacroRecordMode { d.afterTransfer t with
        GKeyID := keyID
        newMacro := checkMacro d.newMacro
        exitMacroRecordMode := true } = ((updateDeviceMxKeysLedsMask left true).1, []) := by
      rw [leaveMacroRecordMode, if_pos hled, ← h.update (d := left) rfl true]
    have hexit := keysTurn_of_exit hd.inMacroRecordMode hrecord rfl
    rw [hleave] at hexit
    exact hexit
  rw [hturn]
  exact ⟨rfl, Bool.false_ne_true, isLedOn_mr_update_of_on (d := left) hd.isLedOn,
    hd.threadsStatus⟩

/-- Outside of a recording, the G-key is broadcast. -/
lemma deviceStep_gKey_of_listening (hd : ¬ d.inMacroRecordMode) (hoff : d.isLedOn .mr = false)
    (hthreads : d.threadsStatus) (hcap : d.checkDeviceCapability .macrosKeys)
    (hlength : d.GKeysTransferLength = 5) (h : t.PressesGKey keyID) :
    (deviceStep d (.turn (.transfer t))).2 = [.deviceGKeyEvent d.devID keyID] := by
  have hmask : (d.afterTransfer t).pressedRKeysMask = t.keysMask := rfl
  have hkeys : ((d.afterTransfer t).checkDeviceCapability .macrosKeys &&
      t.length == (d.afterTransfer t).GKeysTransferLength) = true := by
    rw [Bool.and_eq_true, beq_iff_eq]
    exact ⟨hcap, h.length.trans hlength.symm⟩
  have hmr : ¬ (updateDeviceMxKeysLedsMask (d.afterTransfer t) false).1.isLedOn .mr := by
    rw [isLedOn_mr_update_of_off (d := d.afterTransfer t) hoff,
      h.isPressed hmask (by simp : Keys.mr ∈ _)]
    exact Bool.false_ne_true
  have hkey : checkGKey (updateDeviceMxKeysLedsMask (d.afterTransfer t) false).1 = some keyID :=
    h.checkGKey rfl
  have hturn := keysTurn_of_listening (t := t) hd hoff hthreads
  rw [h.status] at hturn
  change (keysTurn d (.transfer t)).2 = _
  rw [hturn]
  simp only [listenProcessed, if_pos hkeys, if_neg hmr, hkey, h.update hmask, List.nil_append]
  rfl

end

/-! ### Storing and playing -/

/-- A key that is there gets the checked macro. -/
lemma BanksByID.slot_setMacro {banks : BanksByID} {bankID keyID : EnumByte}
    (h : keyID ≠ invalidKeyID) (hslot : (slot banks bankID keyID).isSome) (events : MacroType) :
    ∃ banks', banks.setMacro bankID keyID events = .ok banks' ∧
      slot banks' bankID keyID = some (.new (checkMacro events)) := by
  cases hbank : banks[bankID]? with
  | none =>
    rw [slot, hbank] at hslot
    cases hslot
  | some bank =>
    rw [slot_eq_of_bank hbank, ← Std.ExtTreeMap.contains_eq_isSome_getElem?] at hslot
    refine ⟨banks.insert bankID (bank.insert keyID (.new (checkMacro events))), ?_, ?_⟩
    · rw [BanksByID.setMacro, if_neg h, hbank]
      dsimp only
      rw [if_neg (Nat.not_le.mpr (length_checkMacro_lt events)), if_pos hslot]
    · rw [slot_insert, if_pos rfl, getElem?_insert_eq, if_pos rfl]

namespace KeysService

variable {s : KeysService String} {devID : String} {keyID : GKeysID} {recorded : MacroType}

/-- The event of the key in the current bank. -/
def currentEvent (s : KeysService String) (devID : String) (keyID : GKeysID) : Option GKeysEvent :=
  s.devices.startedDevices[devID]?.bind fun device =>
    slot device.GKeysBanks device.currentBankID.byte (GKeysID.byte keyID)

/-- The service handles the signals of the device. -/
structure Handles (s : KeysService String) : Prop where
  registerStatus : s.registerStatus
  sessionActive : s.sessionActive

lemma Handles.not_skipped (h : s.Handles) : ¬ (!s.registerStatus || !s.sessionActive) := by
  simp [h.registerStatus, h.sessionActive]

/-- Saving the file of a device changes neither its banks nor its current bank. -/
lemma startedDevices_saveDeviceConfigurationFile {devices : ServiceDevices String}
    {device : DeviceRecord} (h : devices.startedDevices[devID]? = some device)
    (answer : DirectoryAnswer) :
    ∃ saved, (devices.saveDeviceConfigurationFile devID answer).startedDevices[devID]? = some saved ∧
      saved.GKeysBanks = device.GKeysBanks ∧ saved.currentBankID = device.currentBankID := by
  refine ⟨(devices.initializeConfigurationDirectory device true answer).2, ?_, ?_, ?_⟩
  · rw [ServiceDevices.saveDeviceConfigurationFile, h]
    dsimp only
    rw [ServiceDevices.ignoreNextNotification]
    exact (getElem?_insert_eq _ _ _ _).trans (if_pos rfl)
  · exact ServiceDevices.eq_initializeConfigurationDirectory
      (f := fun device => device.GKeysBanks) (fun _ _ => rfl) device true answer
  · exact ServiceDevices.eq_initializeConfigurationDirectory
      (f := fun device => device.currentBankID) (fun _ _ => rfl) device true answer

/-- The macro is in the current bank, and nothing else changes but the devices. -/
lemma deviceMacroRecorded_of_key (hkey : keyID ≠ GKeyID_INV)
    (h : (s.currentEvent devID keyID).isSome) (recorded : MacroType) (answer : DirectoryAnswer) :
    ∃ devices, s.deviceMacroRecorded devID keyID recorded answer = { s with devices := devices } ∧
      currentEvent { s with devices := devices } devID keyID =
        some (.new (checkMacro recorded)) := by
  rw [currentEvent] at h
  cases hdevice : s.devices.startedDevices[devID]? with
  | none =>
    rw [hdevice] at h
    cases h
  | some device =>
    rw [hdevice, Option.bind_some] at h
    obtain ⟨banks, hbanks, hslot⟩ := BanksByID.slot_setMacro
      (fun hinvalid => hkey (keyByte_eq_invalid_iff.mp hinvalid)) h recorded
    have hset : s.devices.setDeviceMacro devID (GKeysID.byte keyID) recorded =
        { s.devices with
          startedDevices := s.devices.startedDevices.insert devID
            { device with GKeysBanks := banks } } := by
      rw [ServiceDevices.setDeviceMacro, ServiceDevices.changeStarted, hdevice, Option.bind_some,
        hbanks]
      rfl
    have hstored : s.deviceMacroRecorded devID keyID recorded answer =
        { s with
          devices := (s.devices.setDeviceMacro devID (GKeysID.byte keyID)
            recorded).saveDeviceConfigurationFile devID answer } := by
      simp only [deviceMacroRecorded, hdevice, Option.bind_some, hbanks]
      rfl
    refine ⟨_, hstored, ?_⟩
    have hbefore : (s.devices.setDeviceMacro devID (GKeysID.byte keyID)
        recorded).startedDevices[devID]? = some { device with GKeysBanks := banks } := by
      rw [hset]
      exact (getElem?_insert_eq _ _ _ _).trans (if_pos rfl)
    obtain ⟨saved, hsaved, hsavedBanks, hsavedBankID⟩ :=
      startedDevices_saveDeviceConfigurationFile hbefore answer
    rw [currentEvent, hsaved, Option.bind_some, hsavedBanks, hsavedBankID]
    exact hslot

/-- The macro of the current bank is sent to the virtual keyboard. -/
lemma deviceGKeyEvent_of_macro (hs : s.Handles) (hkey : keyID ≠ GKeyID_INV) (hne : recorded ≠ [])
    (h : s.currentEvent devID keyID = some (.new recorded)) (results : ℕ → WriteResult) :
    (s.deviceGKeyEvent devID keyID results).virtualKeyboard =
      s.virtualKeyboard.sendMacro results recorded := by
  obtain ⟨device, hdevice, hslot⟩ := Option.bind_eq_some_iff.mp h
  obtain ⟨bank, hbank, hevent⟩ := Option.bind_eq_some_iff.mp hslot
  have hrun : runEvent device.GKeysBanks device.currentBankID.byte (GKeysID.byte keyID) =
      .ok (.sendMacro recorded) := by
    rw [runEvent, if_neg fun hinvalid => hkey (keyByte_eq_invalid_iff.mp hinvalid), hbank]
    dsimp only
    rw [hevent]
    simp [GKeysEvent.new, hne]
  rw [deviceGKeyEvent, if_neg hs.not_skipped, hdevice]
  dsimp only
  rw [hrun]
  rfl

end KeysService

/-! ### The whole way -/

open VirtualKeyboard

/-- Outside of a recording, idle turns only change the keys. -/
lemma deviceSignals_idle {d : USBDevice String} (hd : ¬ d.inMacroRecordMode)
    (hoff : d.isLedOn .mr = false) (hthreads : d.threadsStatus) {idles : List DeviceEvent}
    (hidles : ∀ event ∈ idles, event.Idle False) (events : List DeviceEvent) :
    ∃ bytes mask, deviceSignals d (idles ++ events) =
      deviceSignals (withKeys d bytes mask) events := by
  induction idles generalizing d with
  | nil => exact ⟨d.pressedKeys, d.pressedRKeysMask, rfl⟩
  | cons event idles ih =>
    obtain ⟨hidle, hidles⟩ := List.forall_mem_cons.mp hidles
    have hstep : ∃ bytes mask, deviceStep d event = (withKeys d bytes mask, []) := by
      rcases event with (t | _) | _ | _ | _
      · have hturn := keysTurn_of_listening (t := t) hd hoff hthreads
        rw [hidle.1] at hturn
        exact ⟨t.bytes, t.keysMask, hturn⟩
      · refine ⟨d.pressedKeys, d.pressedRKeysMask, ?_⟩
        simp only [deviceStep, keysTurn, hd, hthreads, if_true]
        rfl
      · exact hidle.elim
      · exact hidle.elim
      · exact hidle.elim
    obtain ⟨bytes, mask, hstep⟩ := hstep
    obtain ⟨bytes', mask', hrest⟩ := @ih (withKeys d bytes mask) hd hoff hthreads hidles
    refine ⟨bytes', mask', ?_⟩
    rw [List.cons_append, deviceSignals, hstep, List.nil_append, hrest]
    rfl

/-- The daemon broadcasts the macro as it was typed, and then the G-key. -/
lemma deviceSignals_typed {d : USBDevice String} {rs : List TimedReport} {keyID : GKeysID}
    {typing idles : List DeviceEvent} {t t' : KeysTransfer} (hd : Records d)
    (hnew : d.newMacro = []) (hcap : d.checkDeviceCapability .macrosKeys)
    (hlength : d.GKeysTransferLength = 5) (htyped : Typed d.previousPressedKeys rs)
    (htyping : Typing rs typing) (ht : t.PressesGKey keyID)
    (hidles : ∀ event ∈ idles, event.Idle False) (ht' : t'.PressesGKey keyID) :
    ∃ typed, macroChanges typed = recordedChanges d.previousPressedKeys rs ∧
      checkMacro typed = typed ∧ typed ≠ [] ∧
      deviceSignals d (typing ++ .turn (.transfer t) :: (idles ++ [.turn (.transfer t')])) =
        [.deviceMacroRecorded d.devID keyID typed, .deviceGKeyEvent d.devID keyID] := by
  obtain ⟨hrecords, hsame⟩ := hd.foldl_recordReport rs
  have hchanges := hd.macroChanges_foldl rs (by rw [hnew]; exact htyped.noneSkipped)
  rw [hnew] at hchanges
  obtain ⟨bytes, mask, htypingSignals⟩ := hd.deviceSignals_typing htyping
    (.turn (.transfer t) :: (idles ++ [.turn (.transfer t')]))
  -- the device when the macro has been typed
  obtain ⟨d', hd', hrecords', hID, hchanges'⟩ : ∃ d', withKeys (rs.foldl recordReport d) bytes mask =
      d' ∧ Records d' ∧ d'.toUSBDeviceID = d.toUSBDeviceID ∧
        macroChanges d'.newMacro = recordedChanges d.previousPressedKeys rs :=
    ⟨_, rfl, hrecords.withKeys bytes mask, hsame.id, hchanges⟩
  rw [hd'] at htypingSignals
  have hcheck : checkMacro d'.newMacro = d'.newMacro := htyped.checkMacro_eq hchanges'
  have hne : d'.newMacro ≠ [] := by
    intro hempty
    rw [hempty] at hchanges'
    exact htyped.ne_nil hchanges'.symm
  obtain ⟨hsignals, hleft, hoff, hthreads⟩ :=
    deviceStep_gKey_of_records hrecords' ht (by rwa [hcheck])
  have hID' : (deviceStep d' (.turn (.transfer t))).1.toUSBDeviceID = d.toUSBDeviceID :=
    (same_deviceStep (d := d') _).id.trans hID
  -- the device when the G-key is pressed again
  obtain ⟨bytes', mask', hidleSignals⟩ :=
    deviceSignals_idle hleft hoff hthreads hidles [.turn (.transfer t')]
  obtain ⟨d'', hd'', hevent⟩ : ∃ d'', withKeys (deviceStep d' (.turn (.transfer t))).1 bytes' mask' =
      d'' ∧ (deviceStep d'' (.turn (.transfer t'))).2 = [.deviceGKeyEvent d.devID keyID] := by
    refine ⟨_, rfl, ?_⟩
    rw [← hID']
    exact deviceStep_gKey_of_listening
      (d := withKeys (deviceStep d' (.turn (.transfer t))).1 bytes' mask') hleft hoff hthreads
      (by rw [USBDeviceID.checkDeviceCapability, withKeys, hID']; exact hcap)
      (by rw [withKeys, hID']; exact hlength) ht'
  rw [hd''] at hidleSignals
  refine ⟨d'.newMacro, hchanges', hcheck, hne, ?_⟩
  rw [htypingSignals, deviceSignals, hsignals, hidleSignals, deviceSignals, hevent, deviceSignals,
    hcheck, hID]
  rfl

/-- The macro is typed, stored with the G-key, and played with it: what the applications see then
is what was typed, apart from keys without a code. The service is registered and active and has the
key, and `uinput` takes the key events. -/
theorem typedMacro_played {d : USBDevice String} {s : KeysService String} {rs : List TimedReport}
    {keyID : GKeysID} {typing idles : List DeviceEvent} {t t' : KeysTransfer}
    {received : List ReceivedMessage} (hd : Records d) (hnew : d.newMacro = [])
    (hcap : d.checkDeviceCapability .macrosKeys) (hlength : d.GKeysTransferLength = 5)
    (htyped : Typed d.previousPressedKeys rs) (htyping : Typing rs typing)
    (ht : t.PressesGKey keyID) (hidles : ∀ event ∈ idles, event.Idle False)
    (ht' : t'.PressesGKey keyID)
    (hs : s.Handles) (hkey : (s.currentEvent d.devID keyID).isSome)
    (hreceived : received.map (·.message) =
      (deviceSignals d (typing ++ .turn (.transfer t) ::
        (idles ++ [.turn (.transfer t')]))).map DeviceSignal.message)
    (hresults : ∀ message ∈ received, ∀ i, message.results i ≠ .keyFails) :
    macroChanges (seen (Run.run KeysService.receive s received).virtualKeyboard.actions) =
      macroChanges (seen s.virtualKeyboard.actions) ++
        (recordedChanges d.previousPressedKeys rs).filter fun c => c.1 ≠ 0 := by
  obtain ⟨typed, hchanges, hcheck, hne, hsignals⟩ :=
    deviceSignals_typed hd hnew hcap hlength htyped htyping ht hidles ht'
  have hvalid := ht.ne_invalid
  rw [hsignals] at hreceived
  obtain ⟨first, rest, rfl, hfirst, hrest⟩ := List.map_eq_cons_iff.mp hreceived
  obtain ⟨second, rest, rfl, hsecond, hrest⟩ := List.map_eq_cons_iff.mp hrest
  obtain rfl := List.map_eq_nil_iff.mp hrest
  obtain ⟨devices, hstored, hcurrent⟩ :=
    KeysService.deviceMacroRecorded_of_key hvalid hkey typed first.answer
  rw [hcheck] at hcurrent
  have hmacro : (DeviceSignal.deviceMacroRecorded d.devID keyID typed).Readable := ⟨hvalid, hne⟩
  have hevent : (DeviceSignal.deviceGKeyEvent d.devID keyID).Readable := hvalid
  -- the macro is stored
  have hfirst' : s.receive first = { s with devices := devices } := by
    rw [KeysService.receive, hfirst, deviceSignal_message hmacro]
    dsimp only
    rw [KeysService.callback, if_neg hs.not_skipped, hstored]
  -- and played
  have hsecond' : (KeysService.receive { s with devices := devices } second).virtualKeyboard =
      s.virtualKeyboard.sendMacro second.results typed := by
    rw [KeysService.receive, hsecond, deviceSignal_message hevent]
    exact KeysService.deviceGKeyEvent_of_macro (s := { s with devices := devices })
      ⟨hs.registerStatus, hs.sessionActive⟩ hvalid hne hcurrent second.results
  rw [Run.run_cons, hfirst', Run.run_cons, Run.run_nil, hsecond',
    seen_sendMacro (hresults second (by simp)), macroChanges_append,
    macroChanges_filter_codeEnabled hchanges]

/-! ### A typed letter -/

private def recordingKeyboard : USBDevice String where
  devID := "b1d2"
  capabilities := 15
  driverID := 0
  GKeysTransferLength := 5
  MxKeysLedsMask := 8
  inMacroRecordMode := true

private def serviceOfKeyboard : KeysService String where
  devices :=
    { directory := id
      startedDevices := (∅ : StdMap String DeviceRecord).insert "b1d2"
        { GKeysBanks := (∅ : BanksByID).insert 0 ((∅ : MBank).insert 1 {}) } }
  registerStatus := true
  sessionActive := true

private def pressedLetter : TimedReport := ⟨![1, 0, 4, 0, 0, 0, 0, 0], 80⟩

private def releasedLetter : TimedReport := ⟨![1, 0, 0, 0, 0, 0, 0, 0], 160⟩

private def typedLetter : List TimedReport := [pressedLetter, releasedLetter]

/-- No key was pressed for a while. -/
private def typedEvents : List DeviceEvent :=
  [pressedLetter.event, releasedLetter.event, .turn .timeout]

private def pressedG1 : KeysTransfer := ⟨5, ![3, 1, 0, 0, 0, 0, 0, 0], 400⟩

private def releasedG1 : KeysTransfer := ⟨5, ![3, 0, 0, 0, 0, 0, 0, 0], 480⟩

/-- The letter a is typed, and stored with G1. -/
theorem typedMacro_played_letter :
    let signals := deviceSignals recordingKeyboard (typedEvents ++ .turn (.transfer pressedG1) ::
      ([.turn (.transfer releasedG1)] ++ [.turn (.transfer pressedG1)]))
    let received := signals.map fun signal =>
      (⟨signal.message, {}, ⟨true, true⟩, fun _ => .written⟩ : ReceivedMessage)
    macroChanges (seen (Run.run KeysService.receive serviceOfKeyboard
        received).virtualKeyboard.actions) =
      [(30, .eventKeyPress), (30, .eventKeyRelease)] := by
  intro signals received
  have hG1 : pressedG1.PressesGKey 1 := ⟨rfl, by decide +kernel, by decide +kernel⟩
  have hchanges : recordedChanges recordingKeyboard.previousPressedKeys typedLetter =
      [(30, .eventKeyPress), (30, .eventKeyRelease)] := by decide +kernel
  have htyped : Typed recordingKeyboard.previousPressedKeys typedLetter := by
    constructor <;> rw [hchanges]
    · exact ⟨by decide, by decide⟩
    · exact List.cons_ne_nil _ _
    · exact paired_iff_pending.mpr (by decide)
    · decide
  have hkey : (serviceOfKeyboard.currentEvent "b1d2" 1).isSome := by
    rw [KeysService.currentEvent, serviceOfKeyboard, getElem?_insert_eq, if_pos rfl,
      Option.bind_some]
    exact congrArg Option.isSome ((BanksByID.slot_insert _ _ _).trans
      ((if_pos rfl).trans ((getElem?_insert_eq _ _ _ _).trans (if_pos rfl))))
  have hmessages : received.map (·.message) = signals.map DeviceSignal.message :=
    List.map_map
  have hresults : ∀ message ∈ received, ∀ i, message.results i ≠ .keyFails := by
    intro message hmessage i
    obtain ⟨signal, -, rfl⟩ := List.mem_map.mp hmessage
    simp
  have htyping : Typing typedLetter typedEvents := .report _ (.report _ (.idle trivial .nil))
  have hidles : ∀ event ∈ [DeviceEvent.turn (.transfer releasedG1)], event.Idle False := by
    intro event hevent
    rw [List.mem_singleton.mp hevent]
    exact ⟨by decide +kernel, fun h => h.2⟩
  have hplayed := typedMacro_played ⟨rfl, by decide, rfl, rfl⟩ rfl (by decide) rfl htyped htyping hG1
    hidles hG1 ⟨rfl, rfl⟩ hkey hmessages hresults
  rw [hchanges] at hplayed
  exact hplayed

end GLogiK
