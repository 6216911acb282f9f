import GLogiK.Daemon.Client

/-!
# The clients manager

`ClientsManager`: the requests that the desktop services send to the daemon. A client is
identified by a value of type `κ`, the random string of the source.
-/

namespace GLogiK

variable {κ π δ : Type*} [LinearOrder κ] [LinearOrder δ]

/-- `_numActive` is unsigned in the source: below zero it would wrap around. -/
structure ClientsManager (κ π δ : Type*) [LinearOrder κ] [LinearOrder δ] where
  devicesManager : DevicesManager δ
  connectedClients : StdMap κ (Client π δ) := ∅
  numActive : ℤ := 0
  enabledSignals : Bool := true

namespace ClientsManager

variable (m : ClientsManager κ π δ)

def setClient (clientID : κ) (client : Client π δ) : ClientsManager κ π δ :=
  { m with connectedClients := m.connectedClients.insert clientID client }

/-- The size is passed in a byte. -/
def numClients : UInt8 := UInt8.ofNat m.connectedClients.size

def send (signals : List (BusSignal δ)) : ClientsManager κ π δ :=
  { m with devicesManager := m.devicesManager.send signals }

def setNumClients : ClientsManager κ π δ :=
  { m with devicesManager := m.devicesManager.setNumClients m.numClients }

/-! ### Registration -/

def unregisterClient (clientID : κ) : ClientsManager κ π δ × Bool :=
  match m.connectedClients[clientID]? with
  | none => (m, false)
  | some client =>
    let m := if client.isActive then
      { m with
        devicesManager := m.devicesManager.resetDevicesStates
        numActive := m.numActive - 1 }
      else m
    ({ m with connectedClients := m.connectedClients.erase clientID }.setNumClients, true)

inductive RegisterFailure
  | alreadyRegistered
  | internalError
  deriving DecidableEq, Repr

/-- The scan of the clients in `registerClient`: the clients that are not alive, or `none` when a
client that is alive has the path. -/
def findLostClients [DecidableEq π] (path : π) : List (κ × Client π δ) → Option (List κ)
  | [] => some []
  | (clientID, client) :: clients =>
    if !client.isAlive then (findLostClients path clients).map (clientID :: ·)
    else if client.sessionObjectPath = path then none
    else findLostClients path clients

/-- `clientID` is the random ID for the new client. -/
def registerClient [DecidableEq π] (path : π) (clientID : κ) :
    ClientsManager κ π δ × Except RegisterFailure κ :=
  match findLostClients path m.connectedClients.toList with
  | none =>
    let m := { m with connectedClients := m.connectedClients.map fun _ => Client.uncheck }
    (m.send (sendSignalToClients m.numClients .reportYourself false), .error .alreadyRegistered)
  | some toUnregister =>
    let m := toUnregister.foldl (fun m clientID => (m.unregisterClient clientID).1) m
    if m.connectedClients.contains clientID then (m, .error .internalError)
    else ((m.setClient clientID (Client.new path m.devicesManager)).setNumClients, .ok clientID)

/-! ### The client's state -/

/-- The client's parameters are set on all started devices. -/
def setActiveUser (client : Client π δ) : ClientsManager κ π δ :=
  { m with
    devicesManager := m.devicesManager.getStartedDevices.foldl
      (fun devicesManager devID => client.setDeviceActiveUser devID devicesManager)
      m.devicesManager }

/-- What `updateClientState` does to `_numActive`. -/
def countActive (numActive : ℤ) (oldClient client : Client π δ) : ℤ :=
  let numActive := if oldClient.isActive ∧ ¬ client.isActive then numActive - 1 else numActive
  if client.isActive ∧ ¬ oldClient.isActive then numActive + 1 else numActive

def updateClientState (clientID : κ) (state : String) : ClientsManager κ π δ × Bool :=
  if state ≠ "active" ∧ state ≠ "online" then (m, false)
  else
    match m.connectedClients[clientID]? with
    | none => (m, false)
    | some oldClient =>
      let client := oldClient.updateSessionState state
      let m := m.setClient clientID client
      let m := { m with numActive := countActive m.numActive oldClient client }
      let m := if client.isActive ∧ client.isReady then m.setActiveUser client else m
      if m.numActive = 0 then
        ({ m with devicesManager := m.devicesManager.resetDevicesStates }, true)
      else (m, true)

def toggleClientReadyPropertie (clientID : κ) : ClientsManager κ π δ × Bool :=
  match m.connectedClients[clientID]? with
  | none => (m, false)
  | some client =>
    let client := client.toggleClientReadyPropertie
    let m := m.setClient clientID client
    if client.isReady ∧ client.isActive then (m.setActiveUser client, true) else (m, true)

/-! ### The client's parameters -/

/-- The requests that the client's own table answers. -/
def onClient (clientID : κ) (op : Client π δ → Client π δ × Bool) : ClientsManager κ π δ × Bool :=
  match m.connectedClients[clientID]? with
  | none => (m, false)
  | some client => (m.setClient clientID (op client).1, (op client).2)

def deleteDeviceConfiguration (clientID : κ) (devID : δ) : ClientsManager κ π δ × Bool :=
  m.onClient clientID (·.deleteDevice devID)

def setDeviceBacklightColor (clientID : κ) (devID : δ) (color : RGBBytes) :
    ClientsManager κ π δ × Bool :=
  m.onClient clientID (·.setDeviceBacklightColor devID color)

def setDeviceLCDPluginsMask (clientID : κ) (devID : δ) (maskID : UInt8) (mask : UInt64) :
    ClientsManager κ π δ × Bool :=
  m.onClient clientID (·.setDeviceLCDPluginsMask devID maskID mask)

/-- The properties are only sent to a client that is alive. -/
def getDeviceProperties (clientID : κ) (devID : δ) :
    ClientsManager κ π δ × Option (String × String × String × UInt64) :=
  match m.connectedClients[clientID]? with
  | none => (m, none)
  | some client =>
    if client.isAlive then
      (m.setClient clientID (client.initializeDevice m.devicesManager devID),
        some (m.devicesManager.getDeviceVendor devID, m.devicesManager.getDeviceProduct devID,
          m.devicesManager.getDeviceName devID, m.devicesManager.getDeviceCapabilities devID))
    else (m, none)

/-! ### Devices -/

def stopDevice (clientID : κ) (devID : δ) : ClientsManager κ π δ × Bool :=
  match m.connectedClients[clientID]? with
  | none => (m, false)
  | some client =>
    if !client.mayChangeDevices then (m, false)
    else
      let r := m.devicesManager.stopDevice devID
      let m := { m with devicesManager := r.1 }
      if r.2 && m.enabledSignals then
        (m.send (sendStatusSignalArrayToClients m.numClients (.devicesStopped [devID])), r.2)
      else (m, r.2)

def startDevice (clientID : κ) (devID : δ) (result : OpenResult) : ClientsManager κ π δ × Bool :=
  match m.connectedClients[clientID]? with
  | none => (m, false)
  | some client =>
    if !client.mayChangeDevices then (m, false)
    else
      match m.devicesManager.startDevice devID result with
      | (devicesManager, false) => ({ m with devicesManager }, false)
      | (devicesManager, true) =>
        let m := { m with devicesManager := client.setDeviceActiveUser devID devicesManager }
        if m.enabledSignals then
          (m.send (sendStatusSignalArrayToClients m.numClients (.devicesStarted [devID])), true)
        else (m, true)

def restartDevice (clientID : κ) (devID : δ) (result : OpenResult) : ClientsManager κ π δ × Bool :=
  match { m with enabledSignals := false }.stopDevice clientID devID with
  | (m, false) => ({ m with enabledSignals := true }, false)
  | (m, true) =>
    match m.startDevice clientID devID result with
    | (m, true) =>
      ({ m with enabledSignals := true }.send
        (sendStatusSignalArrayToClients m.numClients (.devicesStarted [devID])), true)
    | (m, false) =>
      ({ m with enabledSignals := true }.send
        (sendStatusSignalArrayToClients m.numClients (.devicesStopped [devID])), false)

/-! ### Reading -/

/-- What the devices manager answers to a client that is registered. -/
def answer {ρ : Type*} (clientID : κ) (unknown : ρ) (read : DevicesManager δ → ρ) : ρ :=
  if m.connectedClients.contains clientID then read m.devicesManager else unknown

def getStartedDevices (clientID : κ) : List δ := m.answer clientID [] (·.getStartedDevices)

def getStoppedDevices (clientID : κ) : List δ := m.answer clientID [] (·.getStoppedDevices)

def getDeviceStatus (clientID : κ) (devID : δ) : DevicesManager.DeviceStatus :=
  m.answer clientID .unknown (·.getDeviceStatus devID)

end ClientsManager

end GLogiK
