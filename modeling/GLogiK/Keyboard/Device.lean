import GLogiK.Base
import Mathlib.Data.Fin.VecNotation

/-!
# USB devices

The part of `USBDeviceID` and `USBDevice` that the keyboard driver reads and writes, and the key
tables of the G510 and G510s. A device is identified by a value of type `δ`, the string
`[b<bus>d<num>]` of the source.
-/

namespace GLogiK

/-! ### Key tables -/

/-- The keys of a 2 or 5 bytes report. -/
inductive Keys
  | g (n : Fin 18)
  | light
  | m1
  | m2
  | m3
  | mr
  | l (n : Fin 5)
  | muteHeadset
  | muteMicro
  | audio (n : Fin 7)
  deriving DecidableEq, Repr

/-- The number of the key's bit. -/
def Keys.position : Keys → ℕ
  | .g n         => n
  | .light       => 18
  | .m1          => 19
  | .m2          => 20
  | .m3          => 21
  | .mr          => 22
  | .l n         => 23 + n
  | .muteHeadset => 28
  | .muteMicro   => 29
  | .audio n     => 30 + n

def Keys.mask (key : Keys) : UInt64 := (1 : UInt64) <<< UInt64.ofNat key.position

/-- The bytes of a report that a transfer can fill. -/
abbrev KeysBuffer := Fin 8 → UInt8

instance KeysBuffer.neZero : NeZero 8 := ⟨by decide⟩

structure RKey where
  key : Keys
  index : Fin 8
  mask : UInt8

def keys5BytesMap : List RKey :=
  [⟨.light, 3, 0x08⟩, ⟨.mr, 3, 0x80⟩, ⟨.muteHeadset, 4, 0x20⟩, ⟨.muteMicro, 4, 0x40⟩]

def MKeys5BytesMap : List RKey :=
  [⟨.m1, 3, 0x10⟩, ⟨.m2, 3, 0x20⟩, ⟨.m3, 3, 0x40⟩]

/-- G1 to G8 in byte 1, G9 to G16 in byte 2, G17 and G18 in byte 3. -/
def GKeys5BytesMap : List RKey :=
  (List.finRange 18).map fun n => ⟨.g n, Fin.ofNat 8 (1 + n / 8), (1 : UInt8) <<< UInt8.ofNat (n % 8)⟩

def LCDKeys5BytesMap : List RKey :=
  (List.finRange 5).map fun n => ⟨.l n, 4, (1 : UInt8) <<< UInt8.ofNat n⟩

def mediaKeys2BytesMap : List RKey :=
  (List.finRange 7).map fun n => ⟨.audio n, 1, (1 : UInt8) <<< UInt8.ofNat n⟩

/-- A modifier key: its event code and its bit in the first data byte. -/
structure ModifierKey where
  code : UInt8
  key : UInt8
  deriving DecidableEq, Repr

/-- Left control, shift, alt and meta, then the right ones. -/
def modifierKeys : List ModifierKey :=
  [⟨29, 1⟩, ⟨42, 2⟩, ⟨56, 4⟩, ⟨125, 8⟩, ⟨97, 16⟩, ⟨54, 32⟩, ⟨100, 64⟩, ⟨126, 128⟩]

/-- `KEY_UNKNOWN`. -/
def unk : UInt8 := 240

/-- Event code of every HID usage. -/
def hidKeyboardTable : List UInt8 :=
  [  0,  0,  0,  0, 30, 48, 46, 32, 18, 33, 34, 35, 23, 36, 37, 38,
    50, 49, 24, 25, 16, 19, 31, 20, 22, 47, 17, 45, 21, 44,  2,  3,
     4,  5,  6,  7,  8,  9, 10, 11, 28,  1, 14, 15, 57, 12, 13, 26,
    27, 43, 43, 39, 40, 41, 51, 52, 53, 58, 59, 60, 61, 62, 63, 64,
    65, 66, 67, 68, 87, 88, 99, 70,119,110,102,104,111,107,109,106,
   105,108,103, 69, 98, 55, 74, 78, 96, 79, 80, 81, 75, 76, 77, 71,
    72, 73, 82, 83, 86,127,116,117,183,184,185,186,187,188,189,190,
   191,192,193,194,134,138,130,132,128,129,131,137,133,135,136,113,
   115,114,unk,unk,unk,121,unk, 89, 93,124, 92, 94, 95,unk,unk,unk,
   122,123, 90, 91, 85,unk,unk,unk,unk,unk,unk,unk,111,unk,unk,unk,
   unk,unk,unk,unk,unk,unk,unk,unk,unk,unk,unk,unk,unk,unk,unk,unk,
   unk,unk,unk,unk,unk,unk,179,180,unk,unk,unk,unk,unk,unk,unk,unk,
   unk,unk,unk,unk,unk,unk,unk,unk,unk,unk,unk,unk,unk,unk,unk,unk,
   unk,unk,unk,unk,unk,unk,unk,unk,111,unk,unk,unk,unk,unk,unk,unk,
    29, 42, 56,125, 97, 54,100,126,164,166,165,163,161,115,114,113,
   150,158,159,128,136,177,178,176,142,152,173,140,unk,unk,unk,unk]

/-- The table has an entry for every byte. -/
def hidKeyboard (usage : UInt8) : UInt8 := hidKeyboardTable.getD usage.toNat unk

/-! ### Devices -/

/-- A detected device. -/
structure USBDeviceID (δ : Type*) where
  devID : δ
  capabilities : UInt64
  driverID : UInt16
  GKeysTransferLength : ℕ
  vendor : String := ""
  product : String := ""
  name : String := ""
  deriving DecidableEq, Repr

structure RGBBytes where
  r : UInt8
  g : UInt8
  b : UInt8
  deriving DecidableEq, Repr

/-- The default colour. -/
def defaultRGB : RGBBytes := ⟨0xFF, 0xFF, 0xFF⟩

/-- A device a driver has initialized. `inMacroRecordMode` tells which of its two loops the
listening thread runs. -/
structure USBDevice (δ : Type*) extends USBDeviceID δ where
  newMacro : MacroType := []
  pressedRKeysMask : UInt64 := 0
  LCDPluginsMask1 : UInt64 := 0
  hasLCDPluginsManager : Bool := false
  lastTimePoint : ℕ := 0
  MxKeysLedsMask : UInt8 := 0
  exitMacroRecordMode : Bool := false
  threadsStatus : Bool := true
  RGB : RGBBytes := defaultRGB
  pressedKeys : KeysBuffer := fun _ => 0
  previousPressedKeys : KeysBuffer := fun _ => 0
  GKeyID : GKeysID := GKeyID_INV
  inMacroRecordMode : Bool := false
  deriving DecidableEq

variable {δ : Type*}

def USBDeviceID.checkDeviceCapability (d : USBDeviceID δ) (toCheck : Caps) : Bool :=
  d.capabilities &&& toCheck.mask ≠ 0

/-- The led is on. -/
def USBDevice.isLedOn (d : USBDevice δ) (led : Leds) : Bool := d.MxKeysLedsMask &&& led.mask ≠ 0

/-- The last report that was processed has the key. -/
def USBDevice.isPressed (d : USBDevice δ) (key : Keys) : Bool :=
  d.pressedRKeysMask &&& key.mask ≠ 0

/-- Signals the listening thread broadcasts for M-keys and G-keys. The one for the media keys is sent
at the end of a turn, see `LCDDevice.listen`. -/
inductive DeviceSignal (δ : Type*)
  | deviceMBankSwitch (devID : δ) (bankID : MKeysID)
  | deviceMacroRecorded (devID : δ) (keyID : GKeysID) (recorded : MacroType)
  | deviceMacroCleared (devID : δ) (keyID : GKeysID)
  | deviceGKeyEvent (devID : δ) (keyID : GKeysID)
  deriving DecidableEq

end GLogiK
