import GLogiK.Keyboard.Signals

/-!
# A driver and its devices

The public operations of `KeyboardDriver`: a driver keeps every device that was initialized until
it is closed. What the USB library and the system answer is an argument of `openDevice`.
-/

namespace GLogiK

variable {δ : Type*} [LinearOrder δ]

/-- An operation that was called on a device, with what it was given. -/
inductive DriverCall (δ : Type*)
  | openDevice (devID : δ)
  | closeDevice (devID : δ)
  | resetDeviceState (devID : δ)
  | setDeviceActiveConfiguration (devID : δ) (c : RGBBytes) (LCDPluginsMask1 : UInt64)
  deriving DecidableEq

/-- `calls` only remembers, oldest first. -/
structure KeyboardDriver (δ : Type*) [LinearOrder δ] where
  driverID : UInt16
  initializedDevices : StdMap δ (USBDevice δ) := ∅
  calls : List (DriverCall δ) := []

/-- How `openDevice` goes on: `openUSBDevice` throws, the initialization of the opened device
throws, or a thread can't be spawned. -/
inductive OpenResult
  | opened
  | openFails
  | initFails
  | spawnFails
  deriving DecidableEq, Repr

namespace KeyboardDriver

variable (driver : KeyboardDriver δ)

def call (c : DriverCall δ) : KeyboardDriver δ := { driver with calls := driver.calls ++ [c] }

def setDevice (devID : δ) (device : USBDevice δ) : KeyboardDriver δ :=
  { driver with initializedDevices := driver.initializedDevices.insert devID device }

def initializeDevice (det : USBDeviceID δ) : KeyboardDriver δ :=
  if driver.initializedDevices.contains det.devID then driver
  else driver.setDevice det.devID (newUSBDevice det)

/-- `closeUSBDevice` of `USBKeyboardDriver`. -/
def closeUSBDevice (device : USBDevice δ) : USBDevice δ :=
  { device with hasLCDPluginsManager := false }

/-- `joinDeviceThreads`: a thread in macro record mode leaves it before it ends. -/
def joinDeviceThreads (device : USBDevice δ) : USBDevice δ × List (DeviceSignal δ) :=
  let device := { device with threadsStatus := false }
  if device.inMacroRecordMode then checkExit device else (device, [])

/-- The device is reset and closed before it is erased, nothing of which can be seen later. -/
def closeDevice (det : USBDeviceID δ) : KeyboardDriver δ × List (DeviceSignal δ) :=
  match driver.initializedDevices[det.devID]? with
  | none => (driver, [])
  | some device =>
    ({ driver.call (.closeDevice det.devID) with
        initializedDevices := driver.initializedDevices.erase det.devID },
      (joinDeviceThreads device).2)

/-- The boolean is false when the function throws. -/
def openDevice (det : USBDeviceID δ) (result : OpenResult) :
    KeyboardDriver δ × List (DeviceSignal δ) × Bool :=
  match driver.initializedDevices[det.devID]? with
  | none => (driver, [], false)
  | some device =>
    let driver := driver.call (.openDevice det.devID)
    match result with
    | .openFails => (driver, [], false)
    | .initFails => (driver.setDevice det.devID (closeUSBDevice device), [], false)
    | .spawnFails =>
      let closed := (driver.setDevice det.devID (GLogiK.resetDeviceState device)).closeDevice det
      (closed.1, closed.2, false)
    | .opened => (driver.setDevice det.devID (GLogiK.resetDeviceState device), [], true)

def resetDeviceState (devID : δ) : KeyboardDriver δ :=
  match driver.initializedDevices[devID]? with
  | none => driver
  | some device =>
    (driver.call (.resetDeviceState devID)).setDevice devID (GLogiK.resetDeviceState device)

def setDeviceActiveConfiguration (devID : δ) (c : RGBBytes) (LCDPluginsMask1 : UInt64) :
    KeyboardDriver δ :=
  match driver.initializedDevices[devID]? with
  | none => driver
  | some device =>
    (driver.call (.setDeviceActiveConfiguration devID c LCDPluginsMask1)).setDevice devID
      (GLogiK.setDeviceActiveConfiguration device c LCDPluginsMask1)

def getDeviceThreadsStatus (devID : δ) : Bool :=
  match driver.initializedDevices[devID]? with
  | none => false
  | some device => device.threadsStatus

end KeyboardDriver

end GLogiK
