import GLogiK.Daemon.StatusSignals
import GLogiK.Service.DevicesHandler

/-!
# The daemon and a registered service

`DBusHandler`: the service handles the signals of the daemon one after the other, in the order in
which they were sent. A handler is split into the calls it makes: between two of them the daemon
may go on.
-/

namespace GLogiK

variable {κ π δ : Type*} [LinearOrder κ] [LinearOrder δ]

/-- What the service has to do next: a signal to handle, or the rest of a handler.
`reportActive` is the end of `devicesStarted`, and the last three are `initializeDevices`. -/
inductive ServiceTask (δ : Type*)
  | signal (signal : BusSignal δ)
  | deviceStarted (devID : δ)
  | deviceStopped (devID : δ)
  | deviceUnplugged (devID : δ)
  | reportActive
  | reportChangedState
  | getStartedDevices
  | toggleClientReadyPropertie
  | getStoppedDevices
  deriving DecidableEq

/-- The daemon, and a service that is registered as `clientID`. -/
structure System (κ π δ : Type*) [LinearOrder κ] [LinearOrder δ] where
  daemon : ClientsManager κ π δ
  clientID : κ
  sessionState : String
  devices : DevicesHandler δ := {}
  tasks : List (ServiceTask δ)

inductive SystemEvent (κ π δ : Type*)
  | daemon (event : DaemonEvent κ π δ)
  | handle (loaded : δ → DeviceConfiguration)
  | updateSessionState (state : String)

namespace System

variable (s : System κ π δ)

def Registered : Prop := s.daemon.connectedClients.contains s.clientID

instance : Decidable s.Registered :=
  inferInstanceAs (Decidable (s.daemon.connectedClients.contains s.clientID = true))

/-- The service waits for the signals that the daemon sends. -/
def daemonStep [DecidableEq π] (event : DaemonEvent κ π δ) : System κ π δ :=
  let daemon := s.daemon.step event
  { s with
    daemon
    tasks := s.tasks ++
      (DevicesManager.newSignals s.daemon.devicesManager daemon.devicesManager).map .signal }

def reportChangedState [DecidableEq π] : System κ π δ :=
  s.daemonStep (.request (.updateClientState s.clientID s.sessionState))

/-- The tasks are done before the ones that wait. -/
def push (tasks : List (ServiceTask δ)) : System κ π δ := { s with tasks := tasks ++ s.tasks }

/-- A signal of a device; a service whose session is not active skips it. -/
def deviceSignal (signal : DeviceSignal δ) : DevicesHandler δ :=
  if s.sessionState ≠ "active" then s.devices
  else
    match signal with
    | .deviceMBankSwitch devID bankID         => s.devices.setDeviceCurrentBankID devID bankID
    | .deviceMacroRecorded devID keyID events =>
      (s.devices.setDeviceMacro devID keyID events).getD s.devices
    | .deviceMacroCleared devID keyID         =>
      (s.devices.clearDeviceMacro devID keyID).getD s.devices
    | .deviceGKeyEvent _ _                    => s.devices

def handleSignal [DecidableEq π] : BusSignal δ → System κ π δ
  | .device signal           => { s with devices := s.deviceSignal signal }
  | .devicesStarted devIDs   => s.push (devIDs.map .deviceStarted ++ [.reportActive])
  | .devicesStopped devIDs   => s.push (devIDs.map .deviceStopped)
  | .devicesUnplugged devIDs => s.push (devIDs.map .deviceUnplugged)
  | .daemonIsStarting        => s
  | .reportYourself          => s.reportChangedState

/-- What the daemon says about the device. -/
def getDeviceStatus (devID : δ) : DevicesManager.DeviceStatus :=
  s.daemon.getDeviceStatus s.clientID devID

/-- A status signal that is out of date is ignored. -/
def handleTask [DecidableEq π] (loaded : δ → DeviceConfiguration) : ServiceTask δ → System κ π δ
  | .signal signal => s.handleSignal signal
  | .deviceStarted devID =>
    if s.getDeviceStatus devID = .started then
      { s with devices := s.devices.startDevice devID (loaded devID) }
    else s
  | .deviceStopped devID =>
    if s.getDeviceStatus devID = .stopped then
      { s with devices := s.devices.stopDevice devID (loaded devID) }
    else s
  | .deviceUnplugged devID =>
    if s.getDeviceStatus devID = .unplugged then
      { s with devices := s.devices.unplugDevice devID (loaded devID) }
    else s
  | .reportActive => if s.sessionState = "active" then s.reportChangedState else s
  | .reportChangedState => s.reportChangedState
  | .getStartedDevices =>
    s.push ((s.daemon.getStartedDevices s.clientID).map .deviceStarted ++ [.reportActive])
  | .toggleClientReadyPropertie =>
    s.daemonStep (.request (.toggleClientReadyPropertie s.clientID))
  | .getStoppedDevices => s.push ((s.daemon.getStoppedDevices s.clientID).map .deviceStopped)

/-- `loaded` is what the daemon and the configuration files say of devices that are new. -/
def handle [DecidableEq π] (loaded : δ → DeviceConfiguration) : System κ π δ :=
  match s.tasks with
  | []            => s
  | task :: tasks => { s with tasks := tasks }.handleTask loaded task

def step [DecidableEq π] (s : System κ π δ) : SystemEvent κ π δ → System κ π δ
  | .daemon event             => s.daemonStep event
  | .handle loaded            => s.handle loaded
  | .updateSessionState state => { s with sessionState := state }.push [.reportChangedState]

variable {s}

lemma reachableDaemon_handle [DecidableEq π] (hm : ReachableDaemon s.daemon)
    (loaded : δ → DeviceConfiguration) : ReachableDaemon (s.handle loaded).daemon := by
  simp only [handle]
  split
  · exact hm
  · next task tasks _ =>
    have hstep : ∀ event, ReachableDaemon ({ s with tasks := tasks }.daemonStep event).daemon :=
      fun event => hm.next event
    cases task with
    | signal signal =>
      cases signal with
      | reportYourself => exact hstep _
      | _ => exact hm
    | reportChangedState | toggleClientReadyPropertie => exact hstep _
    | getStartedDevices | getStoppedDevices => exact hm
    | reportActive =>
      simp only [handleTask]
      split_ifs
      · exact hstep _
      · exact hm
    | deviceStarted id | deviceStopped id | deviceUnplugged id =>
      simp only [handleTask]
      split_ifs <;> exact hm

/-- The daemon goes on from one reachable state to the next. -/
lemma reachableDaemon_step [DecidableEq π] (hm : ReachableDaemon s.daemon)
    (event : SystemEvent κ π δ) : ReachableDaemon (s.step event).daemon := by
  cases event with
  | daemon event => exact hm.next event
  | handle loaded => exact reachableDaemon_handle hm loaded
  | updateSessionState state => exact hm

end System

/-- A service that has registered and calls `initializeDevices`. -/
def System.start (daemon : ClientsManager κ π δ) (clientID : κ) (sessionState : String) :
    System κ π δ where
  daemon
  clientID
  sessionState
  tasks := [.getStartedDevices, .toggleClientReadyPropertie, .getStoppedDevices]

end GLogiK
