import GLogiK.LCD.LCDPlugin
import GLogiK.LCD.PBMFile

/-!
# The system monitor plugin

On each frame `SystemMonitor` draws how much of the processor and of the memory is in use, and it
writes the rate of the network. The rate string is as long as its number; it ends at the right
border, after as many blanks as the last one was longer.
-/

namespace GLogiK

open Actions

/-! ### Numbers -/

def toULL (s : Bytes) : Except String UInt64 :=
  match stoul s with
  | .error .invalid_argument => .error "stoull invalid argument"
  | .error .out_of_range     => .error "stoull out of range"
  | .ok ret                  => .ok (.ofNat ret)

/-- The quotient, rounded to the nearest number, and to the even one of two. -/
def roundedDiv (n d : ℕ) : ℕ :=
  let q := n / d
  let twice := 2 * (n % d)
  if twice < d then q else if twice = d then q + q % 2 else q + 1

/-- The nearest number that has 24 bits before its zeros, which is what a `float` can hold. -/
def nearestFloat (n : ℕ) : ℕ :=
  let unit := 2 ^ (Nat.log2 n - 23)
  roundedDiv n unit * unit

/-- `std::setw`. -/
def setw (width : ℕ) (text : List Char) : List Char :=
  List.replicate (width - text.length) ' ' ++ text

/-- What `std::fixed` makes of a fraction: six digits after the point. -/
def fixedText (n d : ℕ) : List Char :=
  let q := roundedDiv (n * 10 ^ 6) d
  let decimals := Nat.toDigits 10 (q % 10 ^ 6)
  Nat.toDigits 10 (q / 10 ^ 6) ++ '.' :: (List.replicate (6 - decimals.length) '0' ++ decimals)

/-! ### The network -/

inductive NetDirection
  | NET_RX
  | NET_TX
  deriving DecidableEq, Repr

def NetDirection.switched : NetDirection → NetDirection
  | .NET_RX => .NET_TX
  | .NET_TX => .NET_RX

structure NetSnapshots where
  rxDiff : UInt64
  txDiff : UInt64
  deriving DecidableEq, Repr

/-- What the kernel shows: the lines of the route file, and the counters of an interface, before
the pause and after it. -/
structure NetFiles where
  routeFile : List Bytes
  snapshotFile : Bytes → NetDirection → Bool → Bytes

namespace NetSnapshots

def tab : UInt8 := 0x09

/-- The destination of the default route. -/
def defaultRoute : Bytes := List.replicate 8 0x30

/-- The loop over the lines ends at a line that has no second field. -/
def seekDefaultRoute : List Bytes → Bytes
  | []            => []
  | line :: lines =>
    match line.splitOn tab with
    | name :: destination :: _ =>
      if destination = defaultRoute then name else seekDefaultRoute lines
    | _                        => []

/-- The first line is skipped. -/
def findDefaultRouteNetworkInterfaceName (routeFile : List Bytes) : Bytes :=
  seekDefaultRoute routeFile.tail

/-- The constructor. The difference of a tenth of a second is extrapolated. -/
def make (files : NetFiles) : Except String NetSnapshots := do
  let networkInterfaceName := findDefaultRouteNetworkInterfaceName files.routeFile
  if networkInterfaceName = [] then throw "unable to find default route interface name"
  let s1 ← toULL (files.snapshotFile networkInterfaceName .NET_RX false)
  let s3 ← toULL (files.snapshotFile networkInterfaceName .NET_TX false)
  let s2 ← toULL (files.snapshotFile networkInterfaceName .NET_RX true)
  let s4 ← toULL (files.snapshotFile networkInterfaceName .NET_TX true)
  if s1 = 0 ∨ s2 = 0 then throw "wrong RX bytes snapshot"
  if s3 = 0 ∨ s4 = 0 then throw "wrong TX bytes snapshot"
  pure { rxDiff := 10 * (s2 - s1), txDiff := 10 * (s4 - s3) }

/-- The number as it is put into the buffer, and the unit. -/
def rateBuffer (value : UInt64) : List Char × String :=
  if value < 1024 then (setw 4 (Nat.toDigits 10 value.toNat), " B/s")
  else
    let float := nearestFloat value.toNat
    if float < 1024 * 1024 then (setw 7 (fixedText float 1024), " kB/s")
    else (setw 7 (fixedText float (1024 * 1024)), " mB/s")

/-- Two digits after the point are kept. -/
def cutRate (rate : List Char) : List Char := rate.take (rate.findIdx (· = '.') + 3)

def rateString (value : UInt64) (direction : String) : List Char :=
  let (rate, unit) := rateBuffer value
  (if '.' ∈ rate then cutRate rate else rate) ++ unit.toList ++ direction.toList

def getRateString (n : NetSnapshots) : NetDirection → List Char
  | .NET_RX => rateString n.rxDiff " - download"
  | .NET_TX => rateString n.txDiff " - upload  "

end NetSnapshots

/-! ### The memory -/

def memItems : List String := ["MemTotal", "MemFree", "MemAvailable", "Buffers", "Cached"]

/-- The words of the lines that were found. -/
abbrev MemShot := List (String × List Bytes)

namespace MemShot

/-- `std::map::insert`. -/
def insert (memShot : MemShot) (item : String) (words : List Bytes) : MemShot :=
  if (memShot.lookup item).isSome then memShot else memShot ++ [(item, words)]

/-- The words of a line. -/
def words (line : Bytes) : List Bytes := (line.splitOn space).filter (· ≠ [])

/-- The first word is an item and one more character. -/
def addLine (memShot : MemShot) (line : Bytes) : MemShot :=
  match words line with
  | []           => memShot
  | word :: rest =>
    (memItems.filter fun item => word.dropLast = item.toUTF8.toList).foldl
      (fun memShot item => memShot.insert item (word :: rest)) memShot

/-- The loop ends when all items are found. -/
def read (memShot : MemShot) : List Bytes → MemShot
  | []            => memShot
  | line :: lines =>
    let memShot := memShot.addLine line
    if memShot.length = memItems.length then memShot else memShot.read lines

/-- `toULL( memShot.at(item).at(1) )`. -/
def value (memShot : MemShot) (item : String) : Except String UInt64 := do
  let some words := memShot.lookup item | throw "map::at"
  let some word := words[1]? | throw "vector::_M_range_check"
  toULL word

/-- The memory that is free. -/
def free (memShot : MemShot) : Except String UInt64 := do
  if (memShot.lookup "MemAvailable").isSome then memShot.value "MemAvailable"
  else
    let memFree ← memShot.value "MemFree"
    let buffers ← memShot.value "Buffers"
    let cached ← memShot.value "Cached"
    pure (memFree + buffers + cached)

/-- After an exception nothing is free. -/
def freeAndTotal (memShot : MemShot) : UInt64 × UInt64 :=
  match memShot.value "MemTotal" with
  | .error _  => (0, 1)
  | .ok total =>
    match memShot.free with
    | .error _ => (0, total)
    | .ok free => (free, total)

end MemShot

/-- The percentage that is used. -/
def usedMem (meminfo : List Bytes) : UInt16 :=
  let (freePMem, totalPMem) := MemShot.freeAndTotal (MemShot.read [] meminfo)
  100 - (100 * freePMem / totalPMem).toUInt16

/-! ### The frame -/

def LCD_KEY_L5 : String := "L5"

/-- What the plugin is called with, and what it measures. -/
structure MonitorCall where
  LCDKey : String
  lockedPlugin : Bool
  meminfo : List Bytes
  cpuPercentTotal : UInt16
  netFiles : NetFiles

structure SystemMonitor where
  frame : PixelsData
  everLocked : Bool := false
  lastRateStringSize : ℕ := 0
  currentRate : NetDirection := .NET_RX

namespace SystemMonitor

open LCDPlugin

def getPaddedPercentString (i : ℕ) : List Char := setw 3 (Nat.toDigits 10 i) ++ [' ', '%']

/-- The string is padded up to the last size. -/
def getPaddedRateString (netRate : List Char) (lastSize : ℕ) : List Char :=
  if lastSize > netRate.length then List.replicate (lastSize - netRate.length) ' ' ++ netRate
  else netRate

/-- The direction is only switched when there are snapshots. -/
def measuredRate (s : SystemMonitor) (call : MonitorCall) : List Char × NetDirection :=
  match NetSnapshots.make call.netFiles with
  | .error _ => ("error".toList, s.currentRate)
  | .ok n    =>
    let currentRate :=
      if call.LCDKey = LCD_KEY_L5 then s.currentRate.switched else s.currentRate
    (n.getRateString currentRate, currentRate)

def FONT_CHAR_WIDTH : ℕ := 5

/-- Where a string of that size begins. -/
def rightPosX (size : ℕ) : UInt16 := .ofNat (LCD_SCREEN_WIDTH - 1) - .ofNat (size * FONT_CHAR_WIDTH)

def writeRight (fonts : FontsManager) (text : List Char) (PBMXPos : UInt16) (PBMYPos : Int16)
    (frame : PixelsData) : PixelsData :=
  (writeStringOnPBMFrame fonts .MONOSPACE85 (.ofList text) PBMXPos.toInt16 PBMYPos frame).1

/-- Both bars. -/
def drawBars (call : MonitorCall) (frame : Cells UInt8) : Cells UInt8 :=
  let frame := (drawProgressBarOnPBMFrame (usedMem call.meminfo) 24 33 frame).1
  (drawProgressBarOnPBMFrame call.cpuPercentTotal 24 15 frame).1

def getNextPBMFrame (fonts : FontsManager) (s : SystemMonitor) (call : MonitorCall) :
    SystemMonitor :=
  let (frame, everLocked) :=
    drawPadlockOnPBMFrame call.lockedPlugin s.everLocked { data := s.frame }
  let frame := (drawBars call frame).data
  let usedPhysicalMemory := getPaddedPercentString (usedMem call.meminfo).toNat
  let usedCPUActiveTotal := getPaddedPercentString call.cpuPercentTotal.toNat
  let (rateString, currentRate) := s.measuredRate call
  let paddedRateString := getPaddedRateString rateString s.lastRateStringSize
  let PERC_POS_X := rightPosX 5
  let NET_POS_X := rightPosX paddedRateString.length
  let frame := writeRight fonts usedCPUActiveTotal PERC_POS_X 14 frame
  let frame := writeRight fonts paddedRateString NET_POS_X 23 frame
  let frame := writeRight fonts usedPhysicalMemory PERC_POS_X 32 frame
  { frame, everLocked, lastRateStringSize := rateString.length, currentRate }

/-- The name of the host is written on the skeleton once. -/
def init (fonts : FontsManager) (skeleton : PixelsData) (host : String) : SystemMonitor where
  frame := (writeStringOnPBMFrame fonts .MONOSPACE85 host 16 1 skeleton).1

end SystemMonitor

end GLogiK
