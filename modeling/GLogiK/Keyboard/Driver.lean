import GLogiK.Keyboard.Device
import GLogiK.Macro.Basic

/-!
# The keyboard driver

`KeyboardDriver` and `G510Base`: what the listening thread does with a report of the keyboard,
and the operations that other threads run on the same device. The broadcast signals are the
second component of a result.
-/

namespace GLogiK

variable {δ : Type*}

/-- A transfer of the keyboard: `length` bytes were read, at the time `now` in milliseconds.
The bytes that were not read are zero. -/
structure KeysTransfer where
  length : ℕ
  bytes : KeysBuffer
  now : ℕ

/-! ### M-keys -/

/-- The M-key that is handled when several are pressed, with its led and its bank. -/
def USBDevice.pressedMxKey (d : USBDevice δ) : Option (Leds × MKeysID) :=
  if d.isPressed .m1 then some (.m1, .m1)
  else if d.isPressed .m2 then some (.m2, .m2)
  else if d.isPressed .m3 then some (.m3, .m3)
  else none

/-- `update_MxKey_mask` for the pressed key: the mask is reset, and the led turned on if it was
off. -/
def updateMxKeyMask (d : USBDevice δ) : UInt8 × List (DeviceSignal δ) :=
  match d.pressedMxKey with
  | some (keyledmask, sMKey) =>
    if d.isLedOn keyledmask then (0, [.deviceMBankSwitch d.devID .m0])
    else (keyledmask.mask, [.deviceMBankSwitch d.devID sMKey])
  | none => (d.MxKeysLedsMask, [])

/-- The MR part of `updateDeviceMxKeysLedsMask`; whether MR was on is read before the mask
changes. -/
def updateMRMask (d : USBDevice δ) (disableMR : Bool) (mask : UInt8) : UInt8 :=
  if d.isPressed .mr then
    if d.isLedOn .mr then mask &&& ~~~Leds.mr.mask else mask ||| Leds.mr.mask
  else if disableMR then mask &&& ~~~Leds.mr.mask
  else mask

/-- The boolean tells that the leds must be set. -/
def updateDeviceMxKeysLedsMask (d : USBDevice δ) (disableMR : Bool) :
    USBDevice δ × Bool × List (DeviceSignal δ) :=
  let (mask, signals) := updateMxKeyMask d
  let maskUpdated := d.pressedMxKey.isSome || d.isPressed .mr || disableMR
  ({ d with MxKeysLedsMask := updateMRMask d disableMR mask }, maskUpdated, signals)

/-! ### Standard keys -/

/-- The loop of `handleModifierKeys`; `ret` counts the events that were added. -/
def addModifierEvents (event : EventValue) :
    List ModifierKey → UInt8 → UInt16 → MacroType → UInt8 → MacroType × UInt8
  | [], _, _, newMacro, ret => (newMacro, ret)
  | mKey :: mKeys, diff, interval, newMacro, ret =>
    if diff &&& mKey.key ≠ 0 then
      let diff := diff - mKey.key
      -- the size is read into a byte
      let size := (UInt8.ofNat newMacro.length).toNat
      let skipEvent := size ≥ MACRO_T_MAX_SIZE ∨
        (size ≥ MACRO_T_KEYPRESS_MAX_SIZE ∧ event ≠ .eventKeyRelease)
      let (interval, newMacro, ret) :=
        if skipEvent then (interval, newMacro, ret)
        else
          let interval := if ret > 0 then 1 else interval
          (interval, newMacro ++ [⟨mKey.code, event, interval⟩], ret + 1)
      if diff = 0 then (newMacro, ret)
      else addModifierEvents event mKeys diff interval newMacro ret
    else if diff = 0 then (newMacro, ret)
    else addModifierEvents event mKeys diff interval newMacro ret

def handleModifierKeys (previous pressed : UInt8) (interval : UInt16) (newMacro : MacroType) :
    MacroType × UInt8 :=
  if previous = pressed then (newMacro, 0)
  else if previous > pressed then
    addModifierEvents .eventKeyRelease modifierKeys (previous - pressed) interval newMacro 0
  else
    addModifierEvents .eventKeyPress modifierKeys (pressed - previous) interval newMacro 0

/-- The bytes that `fillStandardKeysEvents` compares, in its order. -/
def keySlots : List (Fin 8) := [7, 6, 5, 4, 3, 2]

/-- The event of a byte that changed. Two different keys in the same byte give no event. -/
def keyChange (previous pressed : UInt8) : Option (UInt8 × EventValue) :=
  if previous = pressed then none
  else if previous = 0 then some (hidKeyboard pressed, .eventKeyPress)
  else if pressed = 0 then some (hidKeyboard previous, .eventKeyRelease)
  else none

/-- The loop of `fillStandardKeysEvents`. -/
def addKeyEvents (previous pressed : KeysBuffer) :
    List (Fin 8) → UInt16 → MacroType → MacroType
  | [], _, newMacro => newMacro
  | i :: slots, interval, newMacro =>
    match keyChange (previous i) (pressed i) with
    | none => addKeyEvents previous pressed slots interval newMacro
    | some (code, event) =>
      if newMacro.length ≥ MACRO_T_MAX_SIZE ∨
          (newMacro.length ≥ MACRO_T_KEYPRESS_MAX_SIZE ∧ event ≠ .eventKeyRelease) then
        addKeyEvents previous pressed slots interval newMacro
      else addKeyEvents previous pressed slots 1 (newMacro ++ [⟨code, event, interval⟩])

/-- Milliseconds since the last report, without the seconds. -/
def getTimeLapse (d : USBDevice δ) (now : ℕ) : UInt16 :=
  UInt16.ofNat ((now - d.lastTimePoint) % 1000)

def fillStandardKeysEvents (d : USBDevice δ) (now : ℕ) : USBDevice δ :=
  let interval := getTimeLapse d now
  let (newMacro, num) :=
    handleModifierKeys (d.previousPressedKeys 1) (d.pressedKeys 1) interval d.newMacro
  let interval := if num > 0 then 1 else interval
  { d with
    lastTimePoint := now
    newMacro := addKeyEvents d.previousPressedKeys d.pressedKeys keySlots interval newMacro }

/-! ### Reports of the G510 -/

inductive KeyStatus
  | keySkipped
  | keyProcessed
  deriving DecidableEq, Repr

/-- The keys of a table that the report has. -/
def pressedKeysOf (bytes : KeysBuffer) (table : List RKey) (mask : UInt64) : UInt64 :=
  table.foldl (fun mask key => if bytes key.index &&& key.mask ≠ 0 then mask ||| key.key.mask
    else mask) mask

/-- The tables of a 5-byte report. -/
def allKeys5BytesMap : List RKey :=
  keys5BytesMap ++ MKeys5BytesMap ++ GKeys5BytesMap ++ LCDKeys5BytesMap

def processKeyEvent2Bytes (d : USBDevice δ) : USBDevice δ :=
  if d.pressedKeys 0 = 0x02 then
    { d with
      pressedRKeysMask := pressedKeysOf d.pressedKeys mediaKeys2BytesMap d.pressedRKeysMask }
  else d

def processKeyEvent5Bytes (d : USBDevice δ) : USBDevice δ :=
  if d.pressedKeys 0 ≠ 0x03 then d
  else
    { d with
      pressedRKeysMask := pressedKeysOf d.pressedKeys allKeys5BytesMap d.pressedRKeysMask }

def processKeyEvent8Bytes (d : USBDevice δ) (now : ℕ) : USBDevice δ :=
  if d.pressedKeys 0 ≠ 0x01 then d else fillStandardKeysEvents d now

/-- `processKeyEvent` on the transfer, which `getPressedKeys` has put in `pressedKeys`. -/
def processKeyEvent (d : USBDevice δ) (t : KeysTransfer) : USBDevice δ × KeyStatus :=
  let d := { d with pressedKeys := t.bytes, pressedRKeysMask := 0 }
  if t.length = 2 then (processKeyEvent2Bytes d, .keyProcessed)
  else if t.length = 5 then
    let d := processKeyEvent5Bytes d
    if d.pressedRKeysMask = 0 then (d, .keySkipped) else (d, .keyProcessed)
  else if t.length = 8 then
    if d.isLedOn .mr then
      let d := processKeyEvent8Bytes d t.now
      ({ d with previousPressedKeys := d.pressedKeys }, .keyProcessed)
    else (d, .keySkipped)
  else (d, .keySkipped)

/-- The first G-key of the report. -/
def checkGKey (d : USBDevice δ) : Option GKeysID :=
  (List.finRange 18).find? (fun n => d.isPressed (.g n)) |>.map Fin.succ

/-! ### The listening thread -/

/-- Signal for the macro recorded on the device's G-key. -/
def macroSignal (d : USBDevice δ) : DeviceSignal δ :=
  if d.newMacro = [] then .deviceMacroCleared d.devID d.GKeyID
  else .deviceMacroRecorded d.devID d.GKeyID d.newMacro

/-- The thread enters `enterMacroRecordMode`. -/
def enterMacroRecordMode (d : USBDevice δ) (now : ℕ) : USBDevice δ :=
  { d with exitMacroRecordMode := false, lastTimePoint := now, inMacroRecordMode := true }

/-- The loop of `enterMacroRecordMode` on `S_KEY_PROCESSED`: an M-key or MR ends the recording, a
G-key ends it and broadcasts the macro. -/
def recordProcessed (d : USBDevice δ) : USBDevice δ × List (DeviceSignal δ) :=
  if d.isPressed .m1 || d.isPressed .m2 || d.isPressed .m3 || d.isPressed .mr then
    ({ d with exitMacroRecordMode := true }, [])
  else
    match checkGKey d with
    | none => (d, [])
    | some keyID =>
      let d := { d with GKeyID := keyID, newMacro := checkMacro d.newMacro }
      ({ d with exitMacroRecordMode := true }, [macroSignal d])

/-- What the loop of `enterMacroRecordMode` does with a transfer. -/
def recordTransfer (d : USBDevice δ) (t : KeysTransfer) : USBDevice δ × List (DeviceSignal δ) :=
  let r := processKeyEvent d t
  match r.2 with
  | .keySkipped   => (r.1, [])
  | .keyProcessed => recordProcessed r.1

/-- The end of `enterMacroRecordMode`, and what `listenLoop` does after it. -/
def leaveMacroRecordMode (d : USBDevice δ) : USBDevice δ × List (DeviceSignal δ) :=
  let d := { d with newMacro := [], inMacroRecordMode := false }
  if d.MxKeysLedsMask ≠ 0 then
    let (d, _, signals) := updateDeviceMxKeysLedsMask d true
    (d, signals)
  else (d, [])

/-- The condition of the loop in `enterMacroRecordMode`. -/
def checkExit (d : USBDevice δ) : USBDevice δ × List (DeviceSignal δ) :=
  if d.exitMacroRecordMode || !d.threadsStatus then leaveMacroRecordMode d else (d, [])

/-- `listenLoop` on `S_KEY_PROCESSED`, for a report of length `length` read at `now`. -/
def listenProcessed (d : USBDevice δ) (length now : ℕ) : USBDevice δ × List (DeviceSignal δ) :=
  if d.checkDeviceCapability .macrosKeys && length == d.GKeysTransferLength then
    let (d, _, signals) := updateDeviceMxKeysLedsMask d false
    if d.isLedOn .mr then (enterMacroRecordMode d now, signals)
    else
      match checkGKey d with
      | none => (d, signals)
      | some keyID => ({ d with GKeyID := keyID }, signals ++ [.deviceGKeyEvent d.devID keyID])
  else (d, [])

/-- What `listenLoop` does with a transfer. -/
def listenTransfer (d : USBDevice δ) (t : KeysTransfer) : USBDevice δ × List (DeviceSignal δ) :=
  let r := processKeyEvent d t
  match r.2 with
  | .keySkipped   => (r.1, [])
  | .keyProcessed => listenProcessed r.1 t.length t.now

/-- A turn of one of the two loops: a transfer was read, or `getPressedKeys` came back without
one. -/
inductive KeysTurn
  | transfer (t : KeysTransfer)
  | timeout

def keysTurn (d : USBDevice δ) (turn : KeysTurn) : USBDevice δ × List (DeviceSignal δ) :=
  if d.inMacroRecordMode then
    match turn with
    | .transfer t =>
      let (d, signals) := recordTransfer d t
      let (d, exitSignals) := checkExit d
      (d, signals ++ exitSignals)
    | .timeout => checkExit d
  else if d.threadsStatus then
    match turn with
    | .transfer t => listenTransfer d t
    | .timeout => (d, [])
  else (d, [])

/-! ### Operations of the other threads -/

def setDeviceBacklightColor (d : USBDevice δ) (c : RGBBytes) : USBDevice δ := { d with RGB := c }

def setDeviceLCDPluginsMask (d : USBDevice δ) (mask : UInt64) : USBDevice δ :=
  { d with
    LCDPluginsMask1 := if mask = 0 then GK_LCD_SPLASHSCREEN ||| GK_LCD_SYSTEM_MONITOR else mask }

def resetDeviceState (d : USBDevice δ) : USBDevice δ :=
  let d := if d.checkDeviceCapability .macrosKeys then
    { d with exitMacroRecordMode := true, MxKeysLedsMask := 0 } else d
  let d := if d.checkDeviceCapability .backlightColor then
    setDeviceBacklightColor d defaultRGB else d
  if d.checkDeviceCapability .lcdScreen then setDeviceLCDPluginsMask d 0 else d

def setDeviceActiveConfiguration (d : USBDevice δ) (c : RGBBytes) (LCDPluginsMask1 : UInt64) :
    USBDevice δ :=
  let d := if d.checkDeviceCapability .macrosKeys then
    { d with exitMacroRecordMode := true } else d
  let d := if d.checkDeviceCapability .backlightColor then setDeviceBacklightColor d c else d
  if d.checkDeviceCapability .lcdScreen then setDeviceLCDPluginsMask d LCDPluginsMask1 else d

/-- The device `initializeDevice` makes for a detected one. -/
def newUSBDevice (det : USBDeviceID δ) : USBDevice δ :=
  { det with hasLCDPluginsManager := det.checkDeviceCapability .lcdScreen }

end GLogiK
