import GLogiK.Keyboard.Session
import GLogiK.LCD.PluginTurns
import GLogiK.Lib.Mailbox

/-!
# The keys of the LCD screen

The listening thread of a device stores the name of the LCD key that a report has, and the thread of
the LCD screen takes it before it asks the plugins manager for the next buffer. A key that is stored
while another one waits replaces it.
-/

namespace GLogiK

variable {δ : Type*}

/-! ### Names of keys -/

/-- Some keys have an empty name. -/
def getKeyName : Keys → String
  | .g n   => ["G1", "G2", "G3", "G4", "G5", "G6", "G7", "G8", "G9", "G10", "G11", "G12", "G13",
      "G14", "G15", "G16", "G17", "G18"].getD n ""
  | .m1    => "M1"
  | .m2    => "M2"
  | .m3    => "M3"
  | .l n   => ["L1", LCD_KEY_L2, "L3", "L4", "L5"].getD n ""
  | .audio n => ["XF86AudioNext", "XF86AudioPrev", "XF86AudioStop", "XF86AudioPlay",
      "XF86AudioMute", "XF86AudioRaiseVolume", "XF86AudioLowerVolume"].getD n ""
  | .light | .mr | .muteHeadset | .muteMicro => ""

lemma getKeyName_l_ne_empty (n : Fin 5) : getKeyName (.l n) ≠ "" := by
  revert n
  decide

/-! ### The listening thread -/

def GK_LCD_ENDSCREEN : UInt64 := 4

def MediaKeysTransferLength : ℕ := 2

def LCDKeysTransferLength : ℕ := 5

/-- The first key of a table that the last report has. -/
def USBDevice.firstPressed (d : USBDevice δ) (table : List RKey) : Option Keys :=
  (table.find? fun key => d.isPressed key.key).map RKey.key

def checkMediaKey (d : USBDevice δ) : Option String :=
  (d.firstPressed mediaKeys2BytesMap).map getKeyName

def checkLCDKey (d : USBDevice δ) : Option String :=
  (d.firstPressed LCDKeys5BytesMap).map getKeyName

/-- A device with what its LCD thread works with. -/
structure LCDDevice (δ : Type*) where
  device : USBDevice δ
  mediaKey : String := ""
  LCDKey : String := ""
  plugins : LCDScreenPluginsManager
  exited : Bool := false

/-- After the turn `listenLoop` goes on with the media keys and the LCD keys: not when the report was
skipped, or while a macro is recorded. -/
def goesOn (d : USBDevice δ) (t : KeysTransfer) : Bool :=
  !(keysTurn d (.transfer t)).1.inMacroRecordMode &&
    (d.inMacroRecordMode || (d.threadsStatus && (processKeyEvent d t).2 = .keyProcessed))

namespace LCDDevice

variable (s : LCDDevice δ)

/-- The end of `S_KEY_PROCESSED` for the media keys, with the event that is broadcast. -/
def listenMediaKey (length : ℕ) : LCDDevice δ × Option (δ × String) :=
  if s.device.checkDeviceCapability .mediaKeys && length == MediaKeysTransferLength then
    match checkMediaKey s.device with
    | none     => (s, none)
    | some key => ({ s with mediaKey := key }, some (s.device.devID, key))
  else (s, none)

/-- The end of `S_KEY_PROCESSED` for the LCD keys. -/
def listenLCDKey (length : ℕ) : LCDDevice δ :=
  if s.device.checkDeviceCapability .lcdScreen && length == LCDKeysTransferLength then
    match checkLCDKey s.device with
    | none     => s
    | some key => { s with LCDKey := key }
  else s

/-- A turn of the listening thread, with the signals and the media event. -/
def listen (turn : KeysTurn) : LCDDevice δ × List (DeviceSignal δ) × Option (δ × String) :=
  let (device, signals) := keysTurn s.device turn
  let s' := { s with device := device }
  match turn with
  | .timeout    => (s', signals, none)
  | .transfer t =>
    if goesOn s.device t then
      let (s', media) := s'.listenMediaKey t.length
      (s'.listenLCDKey t.length, signals, media)
    else (s', signals, none)

/-- The call of the plugins manager in a turn. -/
def nextCall (getNextPBMFrame : LCDPlugin → Bool → Except String PixelsData) : LCDCall where
  LCDKey := s.LCDKey
  LCDPluginsMask1 := s.device.LCDPluginsMask1
  getNextPBMFrame := getNextPBMFrame

/-- A turn of `LCDScreenLoop`, or its end. -/
def LCDScreenTurn (getNextPBMFrame : LCDPlugin → Bool → Except String PixelsData) : LCDDevice δ :=
  if s.exited then s
  else if s.device.threadsStatus then
    { s with
      LCDKey := ""
      plugins := (s.plugins.getNextLCDScreenBuffer (s.nextCall getNextPBMFrame)).2 }
  else
    let plugins := s.plugins.unlockPlugin.jumpToNextPlugin
    { s with
      exited := true
      plugins :=
        if plugins.findOneLCDScreenPlugin GK_LCD_ENDSCREEN then
          (plugins.getNextLCDScreenBuffer ⟨"", GK_LCD_ENDSCREEN, getNextPBMFrame⟩).2
        else plugins }

end LCDDevice

/-! ### Runs -/

/-- What the threads do with a device. The manager's part of a change of the mask comes at any time
after the device's part. -/
inductive LCDDeviceEvent
  | device (event : DeviceEvent)
  | LCDScreenTurn (getNextPBMFrame : LCDPlugin → Bool → Except String PixelsData)
  | setDeviceLCDPluginsMask (mask : UInt64)

namespace LCDDevice

def step (s : LCDDevice δ) : LCDDeviceEvent → LCDDevice δ
  | .device (.turn turn)             => (s.listen turn).1
  | .device event                    => { s with device := (deviceStep s.device event).1 }
  | .LCDScreenTurn getNextPBMFrame   => s.LCDScreenTurn getNextPBMFrame
  | .setDeviceLCDPluginsMask mask    => { s with plugins := s.plugins.setDeviceLCDPluginsMask mask }

/-- The key that waits to be taken. -/
def waiting (s : LCDDevice δ) : Option String := if s.LCDKey = "" then none else some s.LCDKey

/-- What a step does with the key that waits. -/
def keyEvent (s : LCDDevice δ) : LCDDeviceEvent → Option (Mailbox.Event String)
  | .device (.turn (.transfer t)) =>
    if goesOn s.device t && s.device.checkDeviceCapability .lcdScreen &&
        t.length == LCDKeysTransferLength then
      (checkLCDKey (keysTurn s.device (.transfer t)).1).map .post
    else none
  | .LCDScreenTurn _ => if s.exited || !s.device.threadsStatus then none else some .take
  | _                => none

end LCDDevice

/-- The LCD key of a report. -/
def LCDDeviceEvent.reportedLCDKey : LCDDeviceEvent → Option String
  | .device (.turn (.transfer t)) =>
    if t.length = LCDKeysTransferLength then
      (LCDKeys5BytesMap.find? fun key => t.keysMask &&& key.key.mask ≠ 0).map
        fun key => getKeyName key.key
    else none
  | _ => none

/-! ### The key that waits -/

lemma pressedRKeysMask_checkExit (d : USBDevice δ) :
    (checkExit d).1.pressedRKeysMask = d.pressedRKeysMask := by
  rw [checkExit, leaveMacroRecordMode]
  split_ifs <;> rfl

lemma pressedRKeysMask_recordProcessed (d : USBDevice δ) :
    (recordProcessed d).1.pressedRKeysMask = d.pressedRKeysMask := by
  rw [recordProcessed]
  split_ifs
  · rfl
  · cases checkGKey d <;> rfl

lemma pressedRKeysMask_listenProcessed (d : USBDevice δ) (length now : ℕ) :
    (listenProcessed d length now).1.pressedRKeysMask = d.pressedRKeysMask := by
  simp only [listenProcessed]
  split_ifs
  · rfl
  · split <;> rfl
  · rfl

/-- A processed report that is no recorded one sets the keys. -/
lemma pressedRKeysMask_processKeyEvent (d : USBDevice δ) {t : KeysTransfer}
    (ht : t.length ≠ 8) : (processKeyEvent d t).1.pressedRKeysMask = t.keysMask := by
  rw [processKeyEvent_of_not_recorded fun h => ht h.1]

/-- The keys that are looked at after the turn are those of the report. -/
lemma pressedRKeysMask_keysTurn {d : USBDevice δ} {t : KeysTransfer} (ht : t.length ≠ 8)
    (hgoes : goesOn d t = true) : (keysTurn d (.transfer t)).1.pressedRKeysMask = t.keysMask := by
  have hprocess := pressedRKeysMask_processKeyEvent d ht
  by_cases hrecord : d.inMacroRecordMode
  · simp only [keysTurn, if_pos hrecord, pressedRKeysMask_checkExit, recordTransfer]
    cases (processKeyEvent d t).2 with
    | keySkipped => exact hprocess
    | keyProcessed => exact (pressedRKeysMask_recordProcessed _).trans hprocess
  · rw [goesOn, Bool.and_eq_true, Bool.eq_false_iff.mpr hrecord, Bool.false_or, Bool.and_eq_true,
      decide_eq_true_iff] at hgoes
    obtain ⟨hstatus, hprocessed⟩ := hgoes.2
    simp only [keysTurn, if_neg hrecord, if_pos hstatus, listenTransfer, hprocessed]
    exact (pressedRKeysMask_listenProcessed _ _ _).trans hprocess

namespace LCDDevice

variable {s : LCDDevice δ}

lemma checkLCDKey_keysTurn {t : KeysTransfer} (ht : t.length = LCDKeysTransferLength)
    (hgoes : goesOn s.device t = true) :
    checkLCDKey (keysTurn s.device (.transfer t)).1 =
      LCDDeviceEvent.reportedLCDKey (.device (.turn (.transfer t))) := by
  have hmask := pressedRKeysMask_keysTurn (by rw [ht]; decide) hgoes
  simp only [checkLCDKey, USBDevice.firstPressed, USBDevice.isPressed, hmask, Option.map_map,
    LCDDeviceEvent.reportedLCDKey, if_pos ht]
  rfl

lemma listenMediaKey_frame (length : ℕ) :
    (s.listenMediaKey length).1 = { s with mediaKey := (s.listenMediaKey length).1.mediaKey } := by
  rw [listenMediaKey]
  split_ifs
  · cases checkMediaKey s.device <;> rfl
  · rfl

lemma listenLCDKey_frame (length : ℕ) :
    s.listenLCDKey length = { s with LCDKey := (s.listenLCDKey length).LCDKey } := by
  rw [listenLCDKey]
  split_ifs
  · cases checkLCDKey s.device <;> rfl
  · rfl

/-- All LCD keys have a name. -/
lemma ne_empty_of_checkLCDKey {d : USBDevice δ} {key : String} (h : checkLCDKey d = some key) :
    key ≠ "" := by
  obtain ⟨k, hfirst, rfl⟩ := Option.map_eq_some_iff.mp h
  obtain ⟨rkey, hfind, rfl⟩ := Option.map_eq_some_iff.mp hfirst
  obtain ⟨n, -, rfl⟩ := List.mem_map.mp (List.mem_of_find?_eq_some hfind)
  exact getKeyName_l_ne_empty n

lemma waiting_listenLCDKey (length : ℕ) :
    (s.listenLCDKey length).waiting =
      if s.device.checkDeviceCapability .lcdScreen && length == LCDKeysTransferLength then
        (checkLCDKey s.device).elim s.waiting some
      else s.waiting := by
  rw [listenLCDKey]
  split_ifs
  · cases hkey : checkLCDKey s.device with
    | none => rfl
    | some key => exact if_neg (ne_empty_of_checkLCDKey hkey)
  · rfl

lemma waiting_congr {s' : LCDDevice δ} (h : s'.LCDKey = s.LCDKey) : s'.waiting = s.waiting := by
  rw [waiting, waiting, h]

lemma listen_of_goesOn {t : KeysTransfer} (hgoes : goesOn s.device t = true) :
    (s.listen (.transfer t)).1 =
      (({ s with device := (keysTurn s.device (.transfer t)).1 } : LCDDevice δ).listenMediaKey
        t.length).1.listenLCDKey t.length := by
  simp only [listen, if_pos hgoes]

lemma listen_of_not_goesOn {t : KeysTransfer} (hgoes : ¬ goesOn s.device t = true) :
    (s.listen (.transfer t)).1 = { s with device := (keysTurn s.device (.transfer t)).1 } := by
  simp only [listen, if_neg hgoes]

lemma waiting_listen (t : KeysTransfer) :
    (s.listen (.transfer t)).1.waiting =
      (s.keyEvent (.device (.turn (.transfer t)))).elim s.waiting Mailbox.Event.box := by
  by_cases hgoes : goesOn s.device t
  · let s₁ : LCDDevice δ := { s with device := (keysTurn s.device (.transfer t)).1 }
    have hmedia := s₁.listenMediaKey_frame t.length
    have hkey : (s₁.listenMediaKey t.length).1.LCDKey = s₁.LCDKey := by rw [hmedia]
    have hdevice : (s₁.listenMediaKey t.length).1.device = s₁.device := by rw [hmedia]
    have hcapability : s₁.device.checkDeviceCapability .lcdScreen =
        s.device.checkDeviceCapability .lcdScreen := by
      rw [(same_keysTurn s.device (.transfer t)).id]
    rw [listen_of_goesOn hgoes, waiting_listenLCDKey, hdevice, waiting_congr hkey, hcapability,
      keyEvent, hgoes, Bool.true_and]
    split_ifs
    · cases checkLCDKey s₁.device <;> rfl
    · rfl
  · have hnone : s.keyEvent (.device (.turn (.transfer t))) = none := by
      simp only [keyEvent, Bool.eq_false_iff.mpr hgoes, Bool.false_and, Bool.false_eq_true,
        if_false]
    rw [listen_of_not_goesOn hgoes, hnone]
    rfl

/-- The key that waits is the message of a mailbox. -/
def keyUse : Mailbox.Use (step (δ := δ)) String where
  box := waiting
  event := keyEvent
  box_step s event := by
    rcases event with (turn | _ | _ | _) | getNextPBMFrame | mask
    · cases turn with
      | transfer t => exact waiting_listen t
      | timeout => rfl
    · rfl
    · rfl
    · rfl
    · rw [step, LCDScreenTurn, keyEvent]
      by_cases hexited : s.exited = true
      · rw [if_pos hexited, hexited, Bool.true_or, if_pos rfl]
        rfl
      · rw [if_neg hexited, Bool.eq_false_iff.mpr hexited, Bool.false_or]
        cases s.device.threadsStatus <;> rfl
    · rfl

/-- The call of a turn that finds the threads running. -/
def askedWith (s : LCDDevice δ) : LCDDeviceEvent → Option LCDCall
  | .LCDScreenTurn getNextPBMFrame =>
    if s.exited || !s.device.threadsStatus then none else some (s.nextCall getNextPBMFrame)
  | _ => none

/-- The keys that the plugins manager is asked with. -/
def takenLCDKeys : LCDDevice δ → List LCDDeviceEvent → List String
  | _, []              => []
  | s, event :: events =>
    ((s.askedWith event).bind fun call => if call.LCDKey = "" then none else some call.LCDKey).toList
      ++ takenLCDKeys (step s event) events

lemma step_of_askedWith {event : LCDDeviceEvent} {call : LCDCall}
    (h : s.askedWith event = some call) :
    step s event =
      { s with LCDKey := "", plugins := (s.plugins.getNextLCDScreenBuffer call).2 } := by
  rcases event with (turn | _ | _ | _) | getNextPBMFrame | mask
  case LCDScreenTurn =>
    rw [askedWith] at h
    split_ifs at h with hends
    rw [Bool.or_eq_true, not_or, Bool.not_eq_true', Bool.not_eq_false] at hends
    cases h
    rw [step, LCDScreenTurn, if_neg hends.1, if_pos hends.2]
  all_goals cases h

/-- A key is taken with the call. -/
lemma takes_eq (s : LCDDevice δ) (event : LCDDeviceEvent) :
    keyUse.takes s event =
      (s.askedWith event).bind fun call => if call.LCDKey = "" then none else some call.LCDKey := by
  rcases event with (turn | _ | _ | _) | getNextPBMFrame | mask
  · cases turn with
    | timeout => rfl
    | transfer t =>
      simp only [Mailbox.Use.takes, keyUse, keyEvent]
      split_ifs
      · cases checkLCDKey (keysTurn s.device (.transfer t)).1 <;> rfl
      · rfl
  · rfl
  · rfl
  · rfl
  · simp only [Mailbox.Use.takes, keyUse, keyEvent, askedWith]
    split_ifs <;> rfl
  · rfl

lemma takenLCDKeys_eq (s : LCDDevice δ) (events : List LCDDeviceEvent) :
    takenLCDKeys s events = keyUse.taken s events := by
  induction events generalizing s with
  | nil => rfl
  | cons event events ih => rw [takenLCDKeys, Mailbox.Use.taken, takes_eq, ih]

/-- The report with the key is looked at, and no other key waits. -/
def Hears (s : LCDDevice δ) : LCDDeviceEvent → Prop
  | .device (.turn (.transfer t)) =>
    LCDDeviceEvent.reportedLCDKey (.device (.turn (.transfer t))) ≠ none →
      goesOn s.device t = true ∧ s.device.checkDeviceCapability .lcdScreen = true ∧ s.LCDKey = ""
  | _ => True

lemma length_of_reportedLCDKey {t : KeysTransfer} {key : String}
    (h : LCDDeviceEvent.reportedLCDKey (.device (.turn (.transfer t))) = some key) :
    t.length = LCDKeysTransferLength := by
  by_contra hlength
  rw [LCDDeviceEvent.reportedLCDKey, if_neg hlength] at h
  cases h

/-- Only keys of a report are stored. -/
lemma reported_of_keyEvent {event : LCDDeviceEvent} {key : String}
    (h : s.keyEvent event = some (.post key)) : event.reportedLCDKey = some key := by
  rcases event with (turn | _ | _ | _) | getNextPBMFrame | mask
  · cases turn with
    | timeout => cases h
    | transfer t =>
      rw [keyEvent] at h
      split_ifs at h with hgoes
      simp only [Bool.and_eq_true, beq_iff_eq] at hgoes
      rw [checkLCDKey_keysTurn hgoes.2 hgoes.1.1] at h
      obtain ⟨reported, hreported, hpost⟩ := Option.map_eq_some_iff.mp h
      cases hpost
      exact hreported
  · cases h
  · cases h
  · cases h
  · rw [keyEvent] at h
    split_ifs at h
    cases h
  · cases h

lemma waiting_eq_none_iff : s.waiting = none ↔ s.LCDKey = "" := by
  rw [waiting]
  split_ifs with h
  · exact iff_of_true rfl h
  · exact iff_of_false id h

/-- The report with the key is looked at. -/
lemma keyEvent_eq_post_iff {t : KeysTransfer} {key : String}
    (h : LCDDeviceEvent.reportedLCDKey (.device (.turn (.transfer t))) = some key) :
    s.keyEvent (.device (.turn (.transfer t))) = some (.post key) ↔
      goesOn s.device t = true ∧ s.device.checkDeviceCapability .lcdScreen = true := by
  have hlength := length_of_reportedLCDKey h
  have hbeq : (t.length == LCDKeysTransferLength) = true := beq_iff_eq.mpr hlength
  rw [keyEvent, hbeq, Bool.and_true, ← Bool.and_eq_true]
  split_ifs with hlooked
  · obtain ⟨hgoes, -⟩ := Bool.and_eq_true_iff.mp hlooked
    rw [checkLCDKey_keysTurn hlength hgoes, h]
    exact iff_of_true rfl hlooked
  · exact iff_of_false id hlooked

lemma delivers_iff_hears (event : LCDDeviceEvent) :
    keyUse.Delivers LCDDeviceEvent.reportedLCDKey s event ↔ s.Hears event := by
  rcases event with (turn | _ | _ | _) | getNextPBMFrame | mask
  case device.turn =>
    cases turn with
    | timeout => exact iff_of_true (fun key h => by cases h) trivial
    | transfer t =>
      constructor
      · intro h hreported
        obtain ⟨key, hkey⟩ := Option.ne_none_iff_exists'.mp hreported
        obtain ⟨hevent, hempty⟩ := h key hkey
        obtain ⟨hgoes, hcapability⟩ := (keyEvent_eq_post_iff hkey).mp hevent
        exact ⟨hgoes, hcapability, waiting_eq_none_iff.mp hempty⟩
      · intro h key hkey
        obtain ⟨hgoes, hcapability, hempty⟩ := h (Option.ne_none_iff_exists'.mpr ⟨key, hkey⟩)
        exact ⟨(keyEvent_eq_post_iff hkey).mpr ⟨hgoes, hcapability⟩, waiting_eq_none_iff.mpr hempty⟩
  all_goals exact iff_of_true (fun key h => by cases h) trivial

lemma taken_reported (s : LCDDevice δ) (events : List LCDDeviceEvent) :
    (keyUse.taken s events ++ (Run.run step s events).waiting.toList).Sublist
        (s.waiting.toList ++ events.filterMap LCDDeviceEvent.reportedLCDKey) ∧
      (keyUse.taken s events ++ (Run.run step s events).waiting.toList =
          s.waiting.toList ++ events.filterMap LCDDeviceEvent.reportedLCDKey ↔
        Run.Steps step Hears s events) := by
  have hhears : Hears (δ := δ) = keyUse.Delivers LCDDeviceEvent.reportedLCDKey := by
    funext s event
    exact propext (delivers_iff_hears event).symm
  rw [hhears]
  exact keyUse.taken_offered (fun s event key h => reported_of_keyEvent h) s events

/-- In every interleaving of the threads, the keys that the plugins manager is asked with and the
one that waits are, in order, the one that waited at first and those that were reported, but for
keys that are lost. None is lost exactly when each report with a key is looked at and finds no other
key waiting. -/
theorem takenLCDKeys_run (s : LCDDevice δ) (events : List LCDDeviceEvent) :
    (takenLCDKeys s events ++ (Run.run step s events).waiting.toList).Sublist
        (s.waiting.toList ++ events.filterMap LCDDeviceEvent.reportedLCDKey) ∧
      (takenLCDKeys s events ++ (Run.run step s events).waiting.toList =
          s.waiting.toList ++ events.filterMap LCDDeviceEvent.reportedLCDKey ↔
        Run.Steps step Hears s events) := by
  rw [takenLCDKeys_eq]
  exact taken_reported s events

end LCDDevice

/-! ### The lock -/

section

variable (d : USBDevice δ)

lemma threadsStatus_processKeyEvent (t : KeysTransfer) :
    (processKeyEvent d t).1.threadsStatus = d.threadsStatus := by
  by_cases h : t.length = 8 ∧ d.isLedOn .mr
  · rw [processKeyEvent_of_recorded h.1 h.2, processKeyEvent8Bytes_eq]
  · rw [processKeyEvent_of_not_recorded h]

lemma threadsStatus_checkExit : (checkExit d).1.threadsStatus = d.threadsStatus := by
  rw [checkExit, leaveMacroRecordMode]
  split_ifs <;> rfl

lemma threadsStatus_recordProcessed : (recordProcessed d).1.threadsStatus = d.threadsStatus := by
  rw [recordProcessed]
  split_ifs
  · rfl
  · cases checkGKey d <;> rfl

lemma threadsStatus_listenProcessed (length now : ℕ) :
    (listenProcessed d length now).1.threadsStatus = d.threadsStatus := by
  simp only [listenProcessed]
  split_ifs
  · rfl
  · split <;> rfl
  · rfl

lemma threadsStatus_keysTurn (turn : KeysTurn) :
    (keysTurn d turn).1.threadsStatus = d.threadsStatus := by
  cases turn with
  | timeout =>
    simp only [keysTurn]
    split_ifs
    · exact threadsStatus_checkExit d
    · rfl
    · rfl
  | transfer t =>
    have hprocess := threadsStatus_processKeyEvent d t
    simp only [keysTurn, recordTransfer, listenTransfer]
    cases (processKeyEvent d t).2 with
    | keySkipped =>
      split_ifs
      · exact (threadsStatus_checkExit _).trans hprocess
      · exact hprocess
      · rfl
    | keyProcessed =>
      split_ifs
      · exact (threadsStatus_checkExit _).trans
          ((threadsStatus_recordProcessed _).trans hprocess)
      · exact (threadsStatus_listenProcessed _ _ _).trans hprocess
      · rfl

end

namespace LCDScreenPluginsManager

lemma locked_getNextLCDScreenBuffer {m : LCDScreenPluginsManager} (h : Loaded m) (call : LCDCall) :
    (m.getNextLCDScreenBuffer call).2.currentPluginLocked =
      (m.currentPluginLocked ^^ decide (call.LCDKey = LCD_KEY_L2)) := by
  have hview := congrArg LCDView.locked (follows_getNextLCDScreenBuffer h call).view
  have hstep : ∀ (n : ℕ) (maxFrames : ℕ → UInt16) (enabled : ℕ → Bool) (key : Bool) (v : LCDView),
      (v.step n maxFrames enabled key).2.locked = (v.locked ^^ key) := by
    intro n maxFrames enabled key v
    have hcount : (v.count key).locked = (v.locked ^^ key) := by
      rw [LCDView.count]
      cases key <;> simp
    rw [LCDView.step]
    split_ifs
    · exact hcount
    · cases (v.count key).follower n enabled <;> exact hcount
  rw [hstep] at hview
  exact hview

end LCDScreenPluginsManager

namespace LCDDevice

/-- Both threads run, and there is a plugin to lock. -/
structure Awake (s : LCDDevice δ) : Prop where
  loaded : s.plugins.Loaded
  threadsStatus : s.device.threadsStatus = true
  exited : s.exited = false

end LCDDevice

/-- Neither the end of the threads nor a change of the mask, which unlocks the plugin. -/
def LCDDeviceEvent.KeepsLock : LCDDeviceEvent → Prop
  | .device .stopThreads       => False
  | .setDeviceLCDPluginsMask _ => False
  | _                          => True

namespace LCDDevice

variable {s : LCDDevice δ}

lemma bodd_count_toList (o : Option String) (key : String) :
    (o.toList.count key).bodd = decide (o = some key) := by
  cases o with
  | none => simp
  | some key' => by_cases h : key' = key <;> simp [h]

/-- The listening thread changes neither the plugins nor whether the threads run. -/
lemma awake_listen (h : Awake s) (turn : KeysTurn) :
    Awake (s.listen turn).1 ∧ (s.listen turn).1.plugins = s.plugins := by
  have hdevice : Awake ({ s with device := (keysTurn s.device turn).1 } : LCDDevice δ) :=
    ⟨h.loaded, (threadsStatus_keysTurn s.device turn).trans h.threadsStatus, h.exited⟩
  cases turn with
  | timeout => exact ⟨hdevice, rfl⟩
  | transfer t =>
    by_cases hgoes : goesOn s.device t
    · rw [listen_of_goesOn hgoes, listenLCDKey_frame, listenMediaKey_frame]
      exact ⟨⟨h.loaded, hdevice.threadsStatus, h.exited⟩, rfl⟩
    · rw [listen_of_not_goesOn hgoes]
      exact ⟨hdevice, rfl⟩

lemma waiting_eq_some_iff {key : String} (hkey : key ≠ "") :
    s.waiting = some key ↔ s.LCDKey = key := by
  rw [waiting]
  split_ifs with h
  · exact iff_of_false id fun heq => hkey (heq.symm.trans h)
  · exact Option.some_inj

/-- A step toggles the lock when the key that it takes is the one for it. -/
lemma awake_step (h : Awake s) {event : LCDDeviceEvent} (hevent : event.KeepsLock) :
    Awake (step s event) ∧
      (step s event).plugins.currentPluginLocked =
        (s.plugins.currentPluginLocked ^^ decide (keyUse.takes s event = some LCD_KEY_L2)) := by
  have hnone : ∀ locked : Bool, locked = (locked ^^ decide (none = some LCD_KEY_L2)) := by simp
  rcases event with (turn | _ | _ | _) | getNextPBMFrame | mask
  · obtain ⟨hawake, hplugins⟩ := awake_listen h turn
    have htakes : keyUse.takes s (.device (.turn turn)) = none := takes_eq s _
    rw [htakes, step, hplugins]
    exact ⟨hawake, hnone _⟩
  · refine ⟨⟨h.loaded, ?_, h.exited⟩, hnone _⟩
    simp only [step, deviceStep, resetDeviceState_eq]
    exact h.threadsStatus
  · refine ⟨⟨h.loaded, ?_, h.exited⟩, hnone _⟩
    simp only [step, deviceStep, setDeviceActiveConfiguration_eq]
    exact h.threadsStatus
  · exact hevent.elim
  · have hasked : s.askedWith (.LCDScreenTurn getNextPBMFrame) =
        some (s.nextCall getNextPBMFrame) := by
      rw [askedWith, h.exited, h.threadsStatus]
      rfl
    have htakes : keyUse.takes s (.LCDScreenTurn getNextPBMFrame) = s.waiting := by
      rw [takes_eq, hasked]
      rfl
    rw [htakes, step_of_askedWith hasked]
    refine ⟨⟨?_, h.threadsStatus, h.exited⟩, ?_⟩
    · exact LCDScreenPluginsManager.loaded_getNextLCDScreenBuffer h.loaded _
    · simp only [LCDScreenPluginsManager.locked_getNextLCDScreenBuffer h.loaded,
        waiting_eq_some_iff (by decide : LCD_KEY_L2 ≠ ""), nextCall]
  · exact hevent.elim

lemma awake_run (h : Awake s) {events : List LCDDeviceEvent}
    (hevents : ∀ event ∈ events, event.KeepsLock) :
    (Run.run step s events).plugins.currentPluginLocked =
      (s.plugins.currentPluginLocked ^^ ((keyUse.taken s events).count LCD_KEY_L2).bodd) := by
  induction events generalizing s with
  | nil => simp [Mailbox.Use.taken]
  | cons event events ih =>
    obtain ⟨hevent, hrest⟩ := List.forall_mem_cons.mp hevents
    obtain ⟨hawake, hlock⟩ := awake_step h hevent
    rw [Run.run_cons, ih hawake hrest, hlock, Mailbox.Use.taken, List.count_append, Nat.bodd_add,
      bodd_count_toList, Bool.xor_assoc]

/-- While the threads run and the mask stays the same, the lock has been toggled once for each
report with the locking key, or for all but the one that still waits, if no key was lost. -/
theorem currentPluginLocked_run (h : Awake s) {events : List LCDDeviceEvent}
    (hevents : ∀ event ∈ events, event.KeepsLock) (hhears : Run.Steps step Hears s events) :
    ((Run.run step s events).plugins.currentPluginLocked ^^
        decide ((Run.run step s events).LCDKey = LCD_KEY_L2)) =
      ((s.plugins.currentPluginLocked ^^ decide (s.LCDKey = LCD_KEY_L2)) ^^
        ((events.filterMap LCDDeviceEvent.reportedLCDKey).count LCD_KEY_L2).bodd) := by
  have hkey : LCD_KEY_L2 ≠ "" := by decide
  have hall := (taken_reported s events).2.mpr hhears
  have hcount := congrArg (fun keys => (keys.count LCD_KEY_L2).bodd) hall
  simp only [List.count_append, Nat.bodd_add, bodd_count_toList, waiting_eq_some_iff hkey] at hcount
  rw [awake_run h hevents, Bool.xor_assoc, hcount, Bool.xor_assoc]

/-- A G510s with two plugins. -/
def screenKeyboard : LCDDevice String where
  device := newUSBDevice
    { devID := "[b1d2]", capabilities := 15, driverID := 1, GKeysTransferLength := 5 }
  plugins := .new twoPlugins

/-- The key L2 is pressed, then a frame is shown. -/
def lockingEvents : List LCDDeviceEvent :=
  [.device (.turn (.transfer ⟨5, ![3, 0, 0, 0, 2, 0, 0, 0], 10⟩)), .LCDScreenTurn fun _ _ => .ok []]

theorem currentPluginLocked_run_L2 :
    ((Run.run step screenKeyboard lockingEvents).plugins.currentPluginLocked ^^
        decide ((Run.run step screenKeyboard lockingEvents).LCDKey = LCD_KEY_L2)) =
      ((screenKeyboard.plugins.currentPluginLocked ^^
          decide (screenKeyboard.LCDKey = LCD_KEY_L2)) ^^
        ((lockingEvents.filterMap LCDDeviceEvent.reportedLCDKey).count LCD_KEY_L2).bodd) :=
  currentPluginLocked_run ⟨⟨rfl, by decide⟩, rfl, rfl⟩ (by simp [lockingEvents,
      LCDDeviceEvent.KeepsLock])
    ⟨fun _ => ⟨by decide +kernel, by decide +kernel, rfl⟩, trivial, trivial⟩

end LCDDevice

end GLogiK
