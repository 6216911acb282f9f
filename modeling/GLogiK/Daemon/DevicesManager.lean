import GLogiK.Daemon.KeyboardDriver

/-!
# The devices manager

`DevicesManager` and the signals of `ClientsSignals`. The devices found by udev, and what the
system answers when a device is opened, are arguments.
-/

namespace GLogiK

variable {δ : Type*} [LinearOrder δ]

/-- Signals on the system bus. -/
inductive BusSignal (δ : Type*)
  | device (signal : DeviceSignal δ)
  | devicesStarted (devIDs : List δ)
  | devicesStopped (devIDs : List δ)
  | devicesUnplugged (devIDs : List δ)
  | daemonIsStarting
  | reportYourself
  deriving DecidableEq

/-- `sendSignalToClients` of a running daemon. -/
def sendSignalToClients (numClients : UInt8) (signal : BusSignal δ) (forceSend : Bool) :
    List (BusSignal δ) :=
  if numClients = 0 ∧ ¬ forceSend then [] else [signal]

/-- `sendStatusSignalArrayToClients` of a running daemon. -/
def sendStatusSignalArrayToClients (numClients : UInt8) (signal : BusSignal δ) :
    List (BusSignal δ) :=
  if numClients = 0 then [] else [signal]

/-- `sent` are the signals that were sent on the bus, oldest first. -/
structure DevicesManager (δ : Type*) [LinearOrder δ] where
  detectedDevices : StdMap δ (USBDeviceID δ) := ∅
  startedDevices : StdMap δ (USBDeviceID δ) := ∅
  stoppedDevices : StdMap δ (USBDeviceID δ) := ∅
  unpluggedDevices : StdMap δ (USBDeviceID δ) := ∅
  sleepingDevices : List δ := []
  drivers : List (KeyboardDriver δ) := []
  numClients : UInt8 := 0
  sent : List (BusSignal δ) := []

/-- The loops that leave `_drivers` at the first driver with the ID; `none` when there is none. -/
def firstDriver {ρ : Type*} (driverID : UInt16) (op : KeyboardDriver δ → KeyboardDriver δ × ρ) :
    List (KeyboardDriver δ) → Option (List (KeyboardDriver δ) × ρ)
  | [] => none
  | driver :: drivers =>
    if driver.driverID = driverID then some ((op driver).1 :: drivers, (op driver).2)
    else (firstDriver driverID op drivers).map fun r => (driver :: r.1, r.2)

namespace DevicesManager

variable (m : DevicesManager δ)

def send (signals : List (BusSignal δ)) : DevicesManager δ := { m with sent := m.sent ++ signals }

def setNumClients (num : UInt8) : DevicesManager δ := { m with numClients := num }

/-! ### Starting and stopping a device -/

/-- The first driver with the ID initializes the device, and opens it if asked to. The boolean is
false when it throws. -/
def initializeWithDriver (det : USBDeviceID δ) (openDevice : Bool) (result : OpenResult) :
    Option (DevicesManager δ × Bool) :=
  let op := fun driver : KeyboardDriver δ =>
    if openDevice then (driver.initializeDevice det).openDevice det result
    else (driver.initializeDevice det, [], true)
  (firstDriver det.driverID op m.drivers).map fun r =>
    ({ m with drivers := r.1 }.send (r.2.1.map .device), r.2.2)

def closeWithDriver (det : USBDeviceID δ) : Option (DevicesManager δ) :=
  (firstDriver det.driverID (·.closeDevice det) m.drivers).map fun r =>
    { m with drivers := r.1 }.send (r.2.map .device)

def startDevice (devID : δ) (result : OpenResult) : DevicesManager δ × Bool :=
  match m.stoppedDevices[devID]? with
  | none => (m, false)
  | some det =>
    match m.initializeWithDriver det true result with
    | none => (m, false)
    | some (m, false) => (m, false)
    | some (m, true) =>
      ({ m with
          startedDevices := m.startedDevices.insert devID det
          stoppedDevices := m.stoppedDevices.erase devID }, true)

/-- Without USB requests or with them, the same happens. -/
def stopDevice (devID : δ) : DevicesManager δ × Bool :=
  match m.startedDevices[devID]? with
  | none => (m, false)
  | some det =>
    match m.closeWithDriver det with
    | none => (m, false)
    | some m =>
      ({ m with
          stoppedDevices := m.stoppedDevices.insert devID det
          startedDevices := m.startedDevices.erase devID }, true)

/-! ### Suspend and resume -/

def stopInitializedDevices : DevicesManager δ :=
  let m := { m with sleepingDevices := m.startedDevices.keys }
  { m.sleepingDevices.foldl (fun m devID => (m.stopDevice devID).1) m with startedDevices := ∅ }

def startSleepingDevices (opens : δ → OpenResult) : DevicesManager δ :=
  { m.sleepingDevices.foldl (fun m devID => (m.startDevice devID (opens devID)).1) m with
    sleepingDevices := [] }

/-! ### Hotplug -/

/-- `searchSupportedDevices` puts in `_detectedDevices` the devices that a loaded driver supports;
of two devices with the same ID it keeps the first. -/
def searchSupportedDevices (found : List (USBDeviceID δ)) : DevicesManager δ :=
  let supported := found.filter fun det => m.drivers.any (·.driverID = det.driverID)
  { m with
    detectedDevices := supported.foldl (fun dets det => dets.insertIfNew det.devID det)
      m.detectedDevices }

/-- The loop of `initializeDevices` on a detected device; the second component is
`initializedDevices`. -/
def initializeDetected (openDevices : Bool) (opens : δ → OpenResult)
    (r : DevicesManager δ × List δ) (det : δ × USBDeviceID δ) : DevicesManager δ × List δ :=
  if r.1.startedDevices.contains det.1 || r.1.stoppedDevices.contains det.1 then r
  else
    match r.1.initializeWithDriver det.2 openDevices (opens det.1) with
    | none => r
    | some (m, false) => (m, r.2)
    | some (m, true) =>
      if openDevices then
        ({ m with startedDevices := m.startedDevices.insert det.1 det.2 }, r.2 ++ [det.1])
      else ({ m with stoppedDevices := m.stoppedDevices.insert det.1 det.2 }, r.2 ++ [det.1])

def initializeDevices (openDevices : Bool) (opens : δ → OpenResult) : DevicesManager δ :=
  let r := m.detectedDevices.toList.foldl (initializeDetected openDevices opens) (m, [])
  let signal := if openDevices then BusSignal.devicesStarted r.2 else .devicesStopped r.2
  let m := if r.2 = [] then r.1
    else r.1.send (sendStatusSignalArrayToClients r.1.numClients signal)
  { m with detectedDevices := ∅ }

/-- The first loop of `checkForUnpluggedDevices`, on a started device; the second component is
`toSend`. -/
def unplugStarted (r : DevicesManager δ × List δ) (devID : δ) : DevicesManager δ × List δ :=
  match r.1.stopDevice devID with
  | (m, false) => (m, r.2)
  | (m, true) =>
    match m.stoppedDevices[devID]? with
    | none => (m, r.2)
    | some det =>
      ({ m with
          unpluggedDevices := m.unpluggedDevices.insert devID det
          stoppedDevices := m.stoppedDevices.erase devID }, r.2 ++ [devID])

/-- The second loop of `checkForUnpluggedDevices`, on a stopped device. -/
def unplugStopped (r : DevicesManager δ × List δ) (devID : δ) : DevicesManager δ × List δ :=
  match r.1.stoppedDevices[devID]? with
  | none => r
  | some det =>
    ({ r.1 with
        unpluggedDevices := r.1.unpluggedDevices.insert devID det
        stoppedDevices := r.1.stoppedDevices.erase devID }, r.2 ++ [devID])

def checkForUnpluggedDevices : DevicesManager δ :=
  let toClean := m.startedDevices.keys.filter fun devID => !m.detectedDevices.contains devID
  let r := toClean.foldl unplugStarted (m, [])
  let toClean := r.1.stoppedDevices.keys.filter fun devID => !r.1.detectedDevices.contains devID
  let r := toClean.foldl unplugStopped r
  let m := { r.1 with detectedDevices := ∅ }
  if r.2 = [] then m
  else m.send (sendStatusSignalArrayToClients m.numClients (.devicesUnplugged r.2))

/-! ### Hard stops -/

/-- The inner loop of `checkInitializedDevicesThreadsStatus`, on the driver at the index; `none`
when `_startedDevices.at` throws, which ends the daemon. -/
def checkThreadsOfDriver (devID : δ) (r : DevicesManager δ × List δ) (index : ℕ) :
    Option (DevicesManager δ × List δ) :=
  match r.1.startedDevices[devID]?, r.1.drivers[index]? with
  | none, _ => none
  | some _, none => some r
  | some det, some driver =>
    if det.driverID = driver.driverID ∧ ¬ driver.getDeviceThreadsStatus devID then
      some ((r.1.stopDevice devID).1, r.2 ++ [devID])
    else some r

def checkThreadsOfDevice (r : DevicesManager δ × List δ) (devID : δ) :
    Option (DevicesManager δ × List δ) :=
  (List.range r.1.drivers.length).foldlM (checkThreadsOfDriver devID) r

def checkInitializedDevicesThreadsStatus : Option (DevicesManager δ) :=
  (m.startedDevices.keys.foldlM checkThreadsOfDevice (m, [])).map fun r =>
    if r.2 = [] then r.1
    else r.1.send (sendStatusSignalArrayToClients r.1.numClients (.devicesStopped r.2))

/-! ### States of devices -/

def resetDevicesStates : DevicesManager δ :=
  { m with
    drivers := m.startedDevices.toList.foldl (fun drivers det => drivers.map fun driver =>
      if det.2.driverID = driver.driverID then driver.resetDeviceState det.2.devID else driver)
      m.drivers }

def setDeviceActiveConfiguration (devID : δ) (c : RGBBytes) (LCDPluginsMask1 : UInt64) :
    DevicesManager δ :=
  match m.startedDevices[devID]? with
  | none => m
  | some det =>
    match firstDriver det.driverID
        (fun driver => (driver.setDeviceActiveConfiguration devID c LCDPluginsMask1, ())) m.drivers with
    | none => m
    | some r => { m with drivers := r.1 }

/-! ### Reading -/

def getStartedDevices : List δ := m.startedDevices.keys

def getStoppedDevices : List δ := m.stoppedDevices.keys

inductive DeviceStatus
  | started
  | stopped
  | unplugged
  | unknown
  deriving DecidableEq, Repr

def getDeviceStatus (devID : δ) : DeviceStatus :=
  if m.startedDevices.contains devID then .started
  else if m.stoppedDevices.contains devID then .stopped
  else if m.unpluggedDevices.contains devID then .unplugged
  else .unknown

/-- The device that `getDeviceVendor` and its siblings read. -/
def knownDevice (devID : δ) : Option (USBDeviceID δ) :=
  match m.startedDevices[devID]? with
  | some det => some det
  | none => m.stoppedDevices[devID]?

def getDeviceVendor (devID : δ) : String := (m.knownDevice devID).elim "unknown" (·.vendor)

def getDeviceProduct (devID : δ) : String := (m.knownDevice devID).elim "unknown" (·.product)

def getDeviceName (devID : δ) : String := (m.knownDevice devID).elim "unknown" (·.name)

def getDeviceCapabilities (devID : δ) : UInt64 := (m.knownDevice devID).elim 0 (·.capabilities)

end DevicesManager

end GLogiK
