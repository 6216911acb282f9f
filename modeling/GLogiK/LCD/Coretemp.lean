import GLogiK.LCD.LCDPlugin

/-!
# The coretemp plugin

The directories of the sensors are sought by number. On each frame the temperatures of the packages
and of the cores are written, the cores in columns of two that are separated by vertical lines.
-/

namespace GLogiK

/-- What the plugins throw. -/
inductive PluginExcept
  | GLogiKExcept (e : String)
  | outOfRange
  deriving DecidableEq, Repr

namespace Coretemp

/-! ### Directories -/

/-- What `fs::exists` and `fs::is_directory` say together about a path, or their error. -/
abbrev IsDirectory := String → Except String Bool

def directoryPath (basedir : String) (x : ℕ) : String := basedir ++ toString x

/-- The counter only stops at 12, and may wrap around on its way. -/
lemma seek_decreasing {x : UInt32} (h : ¬ x + 1 = 12) : (11 - (x + 1)).toNat < (11 - x).toNat := by
  have hne : (x + 1).toNat ≠ 12 := fun heq => h (UInt32.toNat_inj.mp heq)
  have hx := x.toNat_lt
  rw [UInt32.toNat_add] at hne
  rw [UInt32.toNat_sub, UInt32.toNat_sub, UInt32.toNat_add]
  simp only [UInt32.reduceToNat] at hne ⊢
  omega

/-- The empty path when nothing was found. -/
def seekDirectoryPath (isDirectory : IsDirectory) (basedir : String) (x : UInt32) :
    Except PluginExcept String :=
  match isDirectory (directoryPath basedir x.toNat) with
  | .error _  => .error (.GLogiKExcept "seek directory path error")
  | .ok true  => .ok (directoryPath basedir x.toNat)
  | .ok false =>
    if h : x + 1 = 12 then .ok ""
    else seekDirectoryPath isDirectory basedir (x + 1)
termination_by (11 - x).toNat
decreasing_by exact seek_decreasing h

def coretempBasedir : String := "/sys/devices/platform/coretemp."

/-- The loop goes on until nothing is found: `none` when that does not happen in time. -/
def seekCoretempIDs (isDirectory : IsDirectory) : ℕ → UInt32 → List String → Option (List String)
  | 0, _, _                   => none
  | fuel + 1, x, coretempIDs =>
    match seekDirectoryPath isDirectory coretempBasedir x with
    | .error _    => seekCoretempIDs isDirectory fuel (x + 1) coretempIDs
    | .ok rootDir =>
      if rootDir = "" then some coretempIDs
      else seekCoretempIDs isDirectory fuel (x + 1) (coretempIDs ++ [rootDir])

def getCoretempID (isDirectory : IsDirectory) (fuel : ℕ) : Option (List String) :=
  seekCoretempIDs isDirectory fuel 0 []

/-! ### Temperatures -/

/-- A vertical line with its arguments. -/
structure VerticalLine where
  PBMXPos : UInt16
  PBMYPos : UInt16
  size : UInt16
  deriving DecidableEq, Repr

/-- A sensor, as `getNextPBMFrame` reads it. -/
structure Dev where
  input : String
  label : String
  id : String
  isPkg : Bool
  deriving DecidableEq, Repr

/-- `string.substr(pos)`, and an exception when the string is too short. -/
def substr (string : String) (pos : ℕ) : Except PluginExcept String :=
  if pos ≤ string.toList.length then .ok (.ofList (string.toList.drop pos))
  else .error .outOfRange

def isPackage (label : String) : Bool := label.toList.take 11 = "Package id ".toList

def readDevice (sensor : String × String) : Except PluginExcept Dev :=
  let isPkg := isPackage sensor.2
  (substr sensor.2 (if isPkg then 11 else 5)).map fun id =>
    { input := sensor.1, label := sensor.2, id, isPkg }

/-- The devices whose files could be read, `temp1` first. -/
def readDevices (sensors : List (String × String)) : Except PluginExcept (List Dev) :=
  if sensors.isEmpty then .error (.GLogiKExcept "ifstream error") else sensors.mapM readDevice

def TEMP_POS_X : UInt16 := 36

def TEMP_POS_Y : UInt16 := 22

/-- What a call changes. `lines` only remembers the vertical lines, oldest first; they are the only
accesses without check but those of the padlock, see `recorded_getNextPBMFrame`. -/
structure Temperatures where
  frame : Cells UInt8
  everLocked : Bool := false
  pos_x : UInt16 := TEMP_POS_X
  pos_y : UInt16 := TEMP_POS_Y
  x : UInt16 := 0
  lines : List VerticalLine := []

/-- The column goes on by six characters of `MONOSPACE85`, and two pixels. -/
def updatedPosX (pos_x : UInt16) : UInt16 := pos_x + (5 * 6 + 2)

def drawVerticalLine (s : Temperatures) : Temperatures :=
  let pos_x := updatedPosX s.pos_x
  { s with
    pos_x
    frame := LCDPlugin.drawVerticalLineOnPBMFrame pos_x (TEMP_POS_Y - 2) 23 s.frame
    lines := s.lines ++ [⟨pos_x, TEMP_POS_Y - 2, 23⟩] }

/-- What is written for a device, without the last three digits of the input. -/
def temperature (device : Dev) : String :=
  let digits := device.input.toList
  .ofList (device.id.toList ++ [':'] ++
    (if digits.length < 3 then digits else digits.take (digits.length - 3)) ++ [deg])

def writeTemperature (fonts : FontsManager) (device : Dev) (PBMXPos PBMYPos : Int16)
    (frame : Cells UInt8) : Cells UInt8 :=
  { frame with
    data := (LCDPlugin.writeStringOnPBMFrame fonts .MONOSPACE85 (temperature device) PBMXPos PBMYPos
      frame.data).1 }

/-- A new column begins after every two cores. -/
def nextColumn (s : Temperatures) : Temperatures :=
  if s.x > 0 ∧ s.x % 2 = 0 then drawVerticalLine { s with pos_y := TEMP_POS_Y } else s

def drawDevice (fonts : FontsManager) (s : Temperatures) (device : Dev) : Temperatures :=
  let s := nextColumn s
  if device.isPkg then { s with frame := writeTemperature fonts device 1 22 s.frame }
  else
    { s with
      frame := writeTemperature fonts device s.pos_x.toInt16 s.pos_y.toInt16 s.frame
      pos_y := s.pos_y + 9
      x := s.x + 1 }

def drawTemperatures (fonts : FontsManager) (hwmon : List Dev) (frame : Cells UInt8) :
    Temperatures :=
  drawVerticalLine (hwmon.foldl (drawDevice fonts) { frame })

def getNextPBMFrame (fonts : FontsManager) (sensors : List (String × String))
    (lockedPlugin everLocked : Bool) (frame : Cells UInt8) :
    Except PluginExcept Unit × Temperatures :=
  let (frame, everLocked) := LCDPlugin.drawPadlockOnPBMFrame lockedPlugin everLocked frame
  match readDevices sensors with
  | .error e  => (.error e, { frame, everLocked })
  | .ok hwmon => (.ok (), { drawTemperatures fonts hwmon frame with everLocked })

end Coretemp

end GLogiK
