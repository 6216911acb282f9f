import GLogiK.Daemon.ClientsManager
import GLogiK.Lib.Run

/-!
# The daemon

The main loop of `startMonitoring` takes udev events, requests and suspend signals one after the
other, and checks the threads of the started devices; between two of them a listening thread may
take a turn. A daemon is a `ClientsManager`, which owns the devices manager.
-/

namespace GLogiK

variable {κ π δ : Type*} [LinearOrder κ] [LinearOrder δ]

/-! ### Requests -/

/-- The methods that the daemon exposes. `registerClient` has the random ID it makes, and a start
of a device how opening it goes. -/
inductive Request (κ π δ : Type*)
  | registerClient (path : π) (clientID : κ)
  | unregisterClient (clientID : κ)
  | updateClientState (clientID : κ) (state : String)
  | toggleClientReadyPropertie (clientID : κ)
  | deleteDeviceConfiguration (clientID : κ) (devID : δ)
  | getDaemonDependenciesMap (clientID : κ)
  | stopDevice (clientID : κ) (devID : δ)
  | startDevice (clientID : κ) (devID : δ) (result : OpenResult)
  | restartDevice (clientID : κ) (devID : δ) (result : OpenResult)
  | getStartedDevices (clientID : κ)
  | getStoppedDevices (clientID : κ)
  | getDeviceStatus (clientID : κ) (devID : δ)
  | getDeviceProperties (clientID : κ) (devID : δ)
  | getDeviceLCDPluginsProperties (clientID : κ) (devID : δ)
  | getDeviceGKeysIDArray (clientID : κ) (devID : δ)
  | getDeviceMKeysIDArray (clientID : κ) (devID : δ)
  | setDeviceBacklightColor (clientID : κ) (devID : δ) (color : RGBBytes)
  | setDeviceLCDPluginsMask (clientID : κ) (devID : δ) (maskID : UInt8) (mask : UInt64)

/-- The ID the request is sent with; a registration has none. -/
def Request.clientID : Request κ π δ → Option κ
  | .registerClient _ _                         => none
  | .unregisterClient clientID                  => some clientID
  | .updateClientState clientID _               => some clientID
  | .toggleClientReadyPropertie clientID        => some clientID
  | .deleteDeviceConfiguration clientID _       => some clientID
  | .getDaemonDependenciesMap clientID          => some clientID
  | .stopDevice clientID _                      => some clientID
  | .startDevice clientID _ _                   => some clientID
  | .restartDevice clientID _ _                 => some clientID
  | .getStartedDevices clientID                 => some clientID
  | .getStoppedDevices clientID                 => some clientID
  | .getDeviceStatus clientID _                 => some clientID
  | .getDeviceProperties clientID _             => some clientID
  | .getDeviceLCDPluginsProperties clientID _   => some clientID
  | .getDeviceGKeysIDArray clientID _           => some clientID
  | .getDeviceMKeysIDArray clientID _           => some clientID
  | .setDeviceBacklightColor clientID _ _       => some clientID
  | .setDeviceLCDPluginsMask clientID _ _ _     => some clientID

/-- The state after the request; the methods that only read leave it as it is. -/
def ClientsManager.request [DecidableEq π] (m : ClientsManager κ π δ) :
    Request κ π δ → ClientsManager κ π δ
  | .registerClient path clientID                   => (m.registerClient path clientID).1
  | .unregisterClient clientID                      => (m.unregisterClient clientID).1
  | .updateClientState clientID state               => (m.updateClientState clientID state).1
  | .toggleClientReadyPropertie clientID            => (m.toggleClientReadyPropertie clientID).1
  | .deleteDeviceConfiguration clientID devID       => (m.deleteDeviceConfiguration clientID devID).1
  | .stopDevice clientID devID                      => (m.stopDevice clientID devID).1
  | .startDevice clientID devID result              => (m.startDevice clientID devID result).1
  | .restartDevice clientID devID result            => (m.restartDevice clientID devID result).1
  | .getDeviceProperties clientID devID             => (m.getDeviceProperties clientID devID).1
  | .setDeviceBacklightColor clientID devID color   =>
    (m.setDeviceBacklightColor clientID devID color).1
  | .setDeviceLCDPluginsMask clientID devID id mask =>
    (m.setDeviceLCDPluginsMask clientID devID id mask).1
  | .getDaemonDependenciesMap _ | .getStartedDevices _ | .getStoppedDevices _
  | .getDeviceStatus _ _ | .getDeviceLCDPluginsProperties _ _ | .getDeviceGKeysIDArray _ _
  | .getDeviceMKeysIDArray _ _                      => m

/-! ### Threads of the devices -/

/-- The listening thread of a device does something. -/
def KeyboardDriver.runThread (driver : KeyboardDriver δ) (devID : δ)
    (op : USBDevice δ → USBDevice δ × List (DeviceSignal δ)) :
    KeyboardDriver δ × List (DeviceSignal δ) :=
  match driver.initializedDevices[devID]? with
  | none => (driver, [])
  | some device => (driver.setDevice devID (op device).1, (op device).2)

/-- Only started devices have a thread. -/
def DevicesManager.runThread (m : DevicesManager δ) (devID : δ)
    (op : USBDevice δ → USBDevice δ × List (DeviceSignal δ)) : DevicesManager δ :=
  match m.startedDevices[devID]? with
  | none => m
  | some det =>
    match firstDriver det.driverID (·.runThread devID op) m.drivers with
    | none => m
    | some r => { m with drivers := r.1 }.send (r.2.map .device)

/-! ### Events -/

inductive DaemonEvent (κ π δ : Type*)
  | request (r : Request κ π δ)
  | udevAdd (found : List (USBDeviceID δ))
  | udevRemove (found : List (USBDeviceID δ))
  | checkThreads
  | handleSleepEvent (mode : Bool) (opens : δ → OpenResult)
  | keysTurn (devID : δ) (turn : KeysTurn)
  | stopThreads (devID : δ)

def DevicesManager.handleSleepEvent (m : DevicesManager δ) (mode : Bool) (opens : δ → OpenResult) :
    DevicesManager δ :=
  if mode then m.stopInitializedDevices else m.startSleepingDevices opens

/-- What an event that is no request does to the devices. With the one driver that is loaded,
`checkInitializedDevicesThreadsStatus` always returns. -/
def DevicesManager.step (m : DevicesManager δ) : DaemonEvent κ π δ → DevicesManager δ
  | .request _                   => m
  | .udevAdd found               =>
    (m.searchSupportedDevices found).initializeDevices false fun _ => .opened
  | .udevRemove found            => (m.searchSupportedDevices found).checkForUnpluggedDevices
  | .checkThreads                => m.checkInitializedDevicesThreadsStatus.getD m
  | .handleSleepEvent mode opens => m.handleSleepEvent mode opens
  | .keysTurn devID turn         => m.runThread devID (GLogiK.keysTurn · turn)
  | .stopThreads devID           => m.runThread devID fun d => ({ d with threadsStatus := false }, [])

def ClientsManager.step [DecidableEq π] (m : ClientsManager κ π δ) :
    DaemonEvent κ π δ → ClientsManager κ π δ
  | .request r => m.request r
  | event      => { m with devicesManager := m.devicesManager.step event }

/-- The daemon when it enters the main loop. -/
def startMonitoring (driverID : UInt16) (found : List (USBDeviceID δ)) (opens : δ → OpenResult) :
    ClientsManager κ π δ :=
  let m : DevicesManager δ := { drivers := [{ driverID := driverID }] }
  let m := (m.searchSupportedDevices found).initializeDevices true opens
  { devicesManager := m.send (sendSignalToClients m.numClients .daemonIsStarting true) }

/-- The state is reached in a run of the daemon. -/
def ReachableDaemon [DecidableEq π] (m : ClientsManager κ π δ) : Prop :=
  ∃ driverID found opens, Run.Reachable ClientsManager.step (startMonitoring driverID found opens) m

end GLogiK
