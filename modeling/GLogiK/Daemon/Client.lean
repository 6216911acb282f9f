import GLogiK.Daemon.DevicesManager

/-!
# The daemon's view of a client

`Client`: the state of the session a desktop service runs in, and the parameters it wants for its
devices. A session is identified by its object path, a value of type `π`.
-/

namespace GLogiK

variable {π δ : Type*} [LinearOrder δ]

/-- `clientDevice`. -/
structure ClientDevice where
  vendor : String := "unknown"
  product : String := "unknown"
  name : String := "unknown"
  capabilities : UInt64 := 0
  RGB : RGBBytes := defaultRGB
  LCDPluginsMask1 : UInt64 := 0
  deriving DecidableEq, Repr

structure Client (π δ : Type*) [LinearOrder δ] where
  sessionState : String := "unknown"
  sessionObjectPath : π
  devices : StdMap δ ClientDevice := ∅
  check : Bool := true
  ready : Bool := false

namespace Client

variable (c : Client π δ)

def updateSessionState (newState : String) : Client π δ :=
  { c with sessionState := newState, check := true }

def uncheck : Client π δ := { c with check := false }

def isAlive : Bool := c.check

def isReady : Bool := c.ready

/-- The session is in the `_active` state. -/
def isActive : Bool := c.sessionState = "active"

/-- The client may start and stop devices. -/
def mayChangeDevices : Bool := c.isReady && c.isAlive && c.isActive

def toggleClientReadyPropertie : Client π δ := { c with ready := !c.ready }

def initializeDevice (m : DevicesManager δ) (devID : δ) : Client π δ :=
  if c.devices.contains devID then c
  else
    { c with
      devices := c.devices.insert devID
        { vendor := m.getDeviceVendor devID
          product := m.getDeviceProduct devID
          name := m.getDeviceName devID
          capabilities := m.getDeviceCapabilities devID } }

def initializeDevices (m : DevicesManager δ) : Client π δ :=
  (m.getStartedDevices ++ m.getStoppedDevices).foldl (initializeDevice · m) c

/-- The constructor. -/
def new (objectPath : π) (m : DevicesManager δ) : Client π δ :=
  initializeDevices { sessionObjectPath := objectPath } m

def deleteDevice (devID : δ) : Client π δ × Bool :=
  if c.devices.contains devID then ({ c with devices := c.devices.erase devID }, true)
  else (c, false)

def setDeviceBacklightColor (devID : δ) (color : RGBBytes) : Client π δ × Bool :=
  match c.devices[devID]? with
  | none => (c, false)
  | some device => ({ c with devices := c.devices.insert devID { device with RGB := color } }, true)

/-- `setLCDPluginsMask` throws above the ID of the first mask. -/
def setDeviceLCDPluginsMask (devID : δ) (maskID : UInt8) (mask : UInt64) : Client π δ × Bool :=
  match c.devices[devID]? with
  | none => (c, false)
  | some device =>
    if maskID > 1 then (c, false)
    else ({ c with devices := c.devices.insert devID { device with LCDPluginsMask1 := mask } }, true)

def setDeviceActiveUser (devID : δ) (m : DevicesManager δ) : DevicesManager δ :=
  match c.devices[devID]? with
  | none => m
  | some device => m.setDeviceActiveConfiguration devID device.RGB device.LCDPluginsMask1

end Client

end GLogiK
