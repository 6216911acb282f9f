import GLogiK.Base
import GLogiK.LCD.PBM

/-!
# The plugins manager of the LCD screen

`LCDScreenPluginsManager` with its plugins. Each call of `getNextLCDScreenBuffer` counts a frame,
and goes on to the next enabled plugin when the frames of the current one are over. The L2 key locks
and unlocks the current plugin.
-/

namespace GLogiK

/-! ### Plugins -/

def LCD_KEY_L2 : String := "L2"

inductive LCDPluginTempo
  | TEMPO_DEFAULT
  | TEMPO_500_20
  | TEMPO_400_15
  deriving DecidableEq, Repr

/-- The timing in milliseconds, and the number of frames. -/
def LCDPluginTempo.getTempo : LCDPluginTempo → UInt16 × UInt16
  | .TEMPO_500_20  => (500, 20)
  | .TEMPO_400_15  => (400, 15)
  | .TEMPO_DEFAULT => (1000, 10)

/-- A plugin that is initialized: it has frames, and one of them is the current one. A frame is only
known by its `_numFrames`. -/
structure LCDPlugin where
  pluginID : UInt64
  pluginTempo : LCDPluginTempo
  everLocked : Bool := false
  PBMFrameCounter : UInt16 := 0
  PBMFrameIndex : UInt16 := 0
  PBMFrames : List UInt16
  itCurrentPBMFrame : ℕ := 0
  current_lt : itCurrentPBMFrame < PBMFrames.length

namespace LCDPlugin

variable (plugin : LCDPlugin)

def getPluginTiming : UInt16 := plugin.pluginTempo.getTempo.1

def getPluginMaxFrames : UInt16 := plugin.pluginTempo.getTempo.2

def resetPluginEverLocked : LCDPlugin := { plugin with everLocked := false }

lemma PBMFrames_pos : 0 < plugin.PBMFrames.length := Nat.zero_lt_of_lt plugin.current_lt

/-- The index after the current one. It is never the end, so that nothing throws. -/
def nextPBMFrameIndex : ℕ :=
  if plugin.itCurrentPBMFrame + 1 = plugin.PBMFrames.length then 0 else plugin.itCurrentPBMFrame + 1

lemma nextPBMFrameIndex_lt : plugin.nextPBMFrameIndex < plugin.PBMFrames.length := by
  have hlt := plugin.current_lt
  rw [nextPBMFrameIndex]
  split_ifs <;> omega

def resetPBMFrameIndex : LCDPlugin :=
  { plugin with
    PBMFrameCounter := 0
    PBMFrameIndex := 0
    itCurrentPBMFrame := 0
    current_lt := plugin.PBMFrames_pos }

def prepareNextPBMFrame : LCDPlugin :=
  if plugin.PBMFrameCounter ≥ plugin.PBMFrames.getD plugin.itCurrentPBMFrame 0 then
    { plugin with
      PBMFrameCounter := 1
      PBMFrameIndex := .ofNat plugin.nextPBMFrameIndex
      itCurrentPBMFrame := plugin.nextPBMFrameIndex
      current_lt := plugin.nextPBMFrameIndex_lt }
  else { plugin with PBMFrameCounter := plugin.PBMFrameCounter + 1 }

/-- The part that goes to the last frame. -/
def writeStringOnLastPBMFrame : LCDPlugin :=
  { plugin with
    PBMFrameIndex := .ofNat (plugin.PBMFrames.length - 1)
    itCurrentPBMFrame := plugin.PBMFrames.length - 1
    current_lt := Nat.sub_one_lt plugin.PBMFrames_pos.ne' }

/-- All plugins draw the padlock first. -/
def drawPadlock (lockedPlugin : Bool) : LCDPlugin :=
  { plugin with everLocked := plugin.everLocked || lockedPlugin }

end LCDPlugin

/-! ### The manager -/

/-- The arguments of `getNextLCDScreenBuffer`, and what `getNextPBMFrame` of a plugin returns or
throws in this call. -/
structure LCDCall where
  LCDKey : String
  LCDPluginsMask1 : UInt64
  getNextPBMFrame : LCDPlugin → Bool → Except String PixelsData

/-- What a call shows. -/
inductive LCDShown
  | drawn (i : ℕ)
  | failed (i : ℕ) (e : String)
  | potentialInfiniteLoop
  | noPlugin
  | searching
  deriving DecidableEq, Repr

/-- The plugin that is asked for its frame. -/
def LCDShown.plugin : LCDShown → Option ℕ
  | .drawn i    => some i
  | .failed i _ => some i
  | _           => none

structure LCDScreenPluginsManager where
  plugins : List LCDPlugin
  itCurrentPlugin : ℕ := 0
  LCDBuffer : PixelsData
  frameCounter : UInt16 := 0
  noPlugins : Bool
  currentPluginLocked : Bool := false

namespace LCDScreenPluginsManager

/-- The plugins whose initialization failed are left out. -/
def new (plugins : List (Option LCDPlugin)) : LCDScreenPluginsManager where
  plugins := plugins.filterMap id
  LCDBuffer := List.replicate (DEFAULT_PBM_DATA_IN_BYTES + LCD_DATA_HEADER_OFFSET) 0
  noPlugins := (plugins.filterMap id).isEmpty

variable (m : LCDScreenPluginsManager)

def getPluginTiming : UInt16 := m.plugins[m.itCurrentPlugin]?.elim 1000 LCDPlugin.getPluginTiming

def unlockPlugin : LCDScreenPluginsManager := { m with currentPluginLocked := false }

def getCurrentPluginID : UInt64 :=
  if m.noPlugins then 0 else m.plugins[m.itCurrentPlugin]?.elim 0 LCDPlugin.pluginID

def jumpToNextPlugin : LCDScreenPluginsManager :=
  if m.noPlugins then m
  else
    m.plugins[m.itCurrentPlugin]?.elim m fun plugin =>
      { m with currentPluginLocked := false, frameCounter := plugin.getPluginMaxFrames }

def findOneLCDScreenPlugin (LCDPluginsMask1 : UInt64) : Bool :=
  !m.noPlugins && m.plugins.any fun plugin => LCDPluginsMask1 &&& plugin.pluginID ≠ 0

/-- The part of `KeyboardDriver::setDeviceLCDPluginsMask` that changes the manager. -/
def setDeviceLCDPluginsMask (mask : UInt64) : LCDScreenPluginsManager :=
  let mask := if mask = 0 then GK_LCD_SPLASHSCREEN ||| GK_LCD_SYSTEM_MONITOR else mask
  let m := m.unlockPlugin
  if m.getCurrentPluginID &&& mask = 0 then m.jumpToNextPlugin else m

/-! ### The next frame -/

/-- The mask enables the plugin. -/
def enabled (LCDPluginsMask1 : UInt64) (i : ℕ) : Bool :=
  m.plugins[i]?.elim false fun plugin => LCDPluginsMask1 &&& plugin.pluginID ≠ 0

/-- `std::fill`. -/
def blank : LCDScreenPluginsManager :=
  { m with LCDBuffer := List.replicate m.LCDBuffer.length 0 }

/-- The header is empty but for the magic byte. -/
def header : LCDScreenPluginsManager :=
  { m with
    LCDBuffer := (List.replicate LCD_DATA_HEADER_OFFSET 0 ++
      m.LCDBuffer.drop LCD_DATA_HEADER_OFFSET).set 0 0x03 }

def jump : LCDScreenPluginsManager :=
  let i := if m.itCurrentPlugin + 1 = m.plugins.length then 0 else m.itCurrentPlugin + 1
  { m with itCurrentPlugin := i, plugins := m.plugins.modify i LCDPlugin.resetPluginEverLocked }

/-- The loop that looks for an enabled plugin: whether it was found. `none` when it goes on too
long. -/
def findPlugin (LCDPluginsMask1 : UInt64) (itFirstPlugin : ℕ) :
    ℕ → LCDScreenPluginsManager → Option (Bool × LCDScreenPluginsManager)
  | 0, _        => none
  | fuel + 1, m =>
    let m := if m.currentPluginLocked then m else m.jump
    if m.enabled LCDPluginsMask1 m.itCurrentPlugin then some (true, m)
    else if m.itCurrentPlugin = itFirstPlugin then some (false, m)
    else findPlugin LCDPluginsMask1 itFirstPlugin fuel m

/-- The current plugin begins with its first frame. -/
def restart : LCDScreenPluginsManager :=
  { m with
    plugins := m.plugins.modify m.itCurrentPlugin LCDPlugin.resetPBMFrameIndex
    frameCounter := 0 }

/-- The current plugin, with its next frame prepared. -/
def prepare : LCDScreenPluginsManager :=
  { m with
    plugins := m.plugins.modify m.itCurrentPlugin fun plugin =>
      plugin.prepareNextPBMFrame.drawPadlock m.currentPluginLocked }

def drawCurrentPlugin (call : LCDCall) : LCDShown × LCDScreenPluginsManager :=
  match m.plugins[m.itCurrentPlugin]? with
  | none        => (.noPlugin, m.blank)
  | some plugin =>
    match call.getNextPBMFrame plugin.prepareNextPBMFrame m.currentPluginLocked with
    | .error e    => (.failed m.itCurrentPlugin e, m.prepare.blank)
    | .ok PBMData =>
      (.drawn m.itCurrentPlugin,
        { m.prepare with
          LCDBuffer := (dumpPBMDataIntoLCDBuffer m.LCDBuffer PBMData).LCDBuffer.data })

/-- The frame is counted, and the locking key is looked at. -/
def countFrame (LCDKey : String) : LCDScreenPluginsManager :=
  { m with
    frameCounter := m.frameCounter + 1
    currentPluginLocked :=
      if LCDKey = LCD_KEY_L2 then !m.currentPluginLocked else m.currentPluginLocked }

/-- The frames of the current plugin are over. -/
def switchPlugin (call : LCDCall) : LCDShown × LCDScreenPluginsManager :=
  match findPlugin call.LCDPluginsMask1 m.itCurrentPlugin m.plugins.length m with
  | none            => (.searching, m)
  | some (false, m) => (.potentialInfiniteLoop, m.blank)
  | some (true, m)  => m.restart.drawCurrentPlugin call

def getNextLCDScreenBuffer (call : LCDCall) : LCDShown × LCDScreenPluginsManager :=
  if m.noPlugins then (.noPlugin, { m with LCDBuffer := m.LCDBuffer.set 0 0x03 })
  else
    let shown := m.plugins[m.itCurrentPlugin]?.elim (m.drawCurrentPlugin call) fun plugin =>
      if (m.countFrame call.LCDKey).frameCounter ≥ plugin.getPluginMaxFrames then
        (m.countFrame call.LCDKey).switchPlugin call
      else (m.countFrame call.LCDKey).drawCurrentPlugin call
    (shown.1, shown.2.header)

/-- Calls one after another. -/
def getNextLCDScreenBuffers :
    List LCDCall → LCDScreenPluginsManager → List LCDShown × LCDScreenPluginsManager
  | [], m            => ([], m)
  | call :: calls, m =>
    let next := m.getNextLCDScreenBuffer call
    let rest := getNextLCDScreenBuffers calls next.2
    (next.1 :: rest.1, rest.2)

end LCDScreenPluginsManager

/-! ### Events -/

/-- What the daemon does with the manager. -/
inductive LCDEvent
  | setDeviceLCDPluginsMask (mask : UInt64)
  | unlockPlugin
  | jumpToNextPlugin
  | getNextLCDScreenBuffer (call : LCDCall)

def LCDEvent.step (m : LCDScreenPluginsManager) : LCDEvent → LCDScreenPluginsManager
  | .setDeviceLCDPluginsMask mask => m.setDeviceLCDPluginsMask mask
  | .unlockPlugin                 => m.unlockPlugin
  | .jumpToNextPlugin             => m.jumpToNextPlugin
  | .getNextLCDScreenBuffer call  => (m.getNextLCDScreenBuffer call).2

end GLogiK
