import GLogiK.Lib.Actions
import GLogiK.Lib.Run
import Mathlib.Data.UInt

/-!
# Opening a USB device

`openUSBDevice` and `closeUSBDevice` of `libusb`. The library is a parameter: what a call returns
may depend on all calls before it, so that any of them may fail. Texts are only those of the
exceptions; what is logged is left out.
-/

namespace GLogiK

open Actions

/-! ### Descriptors -/

structure EndpointDescriptor where
  bEndpointAddress : UInt8
  bmAttributes : UInt8
  deriving DecidableEq, Repr

/-- There are `bNumEndpoints` endpoints. -/
structure InterfaceDescriptor where
  bInterfaceNumber : UInt8
  bAlternateSetting : UInt8
  bInterfaceClass : UInt8
  endpoint : List EndpointDescriptor
  deriving DecidableEq, Repr

/-- Each interface has its alternate settings. -/
structure ConfigDescriptor where
  bConfigurationValue : UInt8
  interface : List (List InterfaceDescriptor)
  deriving DecidableEq, Repr

def LIBUSB_CLASS_HID : UInt8 := 3

def LIBUSB_TRANSFER_TYPE_MASK : UInt8 := 0x03

def LIBUSB_TRANSFER_TYPE_INTERRUPT : UInt8 := 3

def LIBUSB_ENDPOINT_DIR_MASK : UInt8 := 0x80

def LIBUSB_ENDPOINT_IN : UInt8 := 0x80

def LIBUSB_ENDPOINT_OUT : UInt8 := 0x00

def toInt (value : UInt8) : ℤ := value.toNat

/-! ### The library and the device -/

/-- A call of the library, with the arguments that are not the device. -/
inductive USBCall
  | getDeviceList
  | freeDeviceList
  | libusbOpen
  | libusbClose
  | getConfiguration
  | setConfiguration (b : ℤ)
  | getDeviceDescriptor
  | getConfigDescriptor (index : ℕ)
  | freeConfigDescriptor (index : ℕ)
  | kernelDriverActive (numInt : ℤ)
  | detachKernelDriver (numInt : ℤ)
  | attachKernelDriver (numInt : ℤ)
  | claimInterface (numInt : ℤ)
  | releaseInterface (numInt : ℤ)
  deriving DecidableEq, Repr

/-- Calls with what they returned, oldest first. -/
abbrev USBCalls := List (USBCall × ℤ)

/-- The library, with the configurations of the device. After the calls it tells whether the device
is in the list of devices, what the next call returns, and what the active configuration is. -/
structure Libusb where
  configurations : List ConfigDescriptor
  plugged : USBCalls → Bool := fun _ => true
  answer : USBCalls → USBCall → ℤ
  activeConfiguration : USBCalls → ℤ

/-- The members of `USBDevice` that `libusb` uses. `handle` tells whether `_pUSBDeviceHandle` is not
null. -/
structure LibusbDevice where
  bus : UInt8
  num : UInt8
  bConfigurationValue : UInt8
  bInterfaceNumber : UInt8
  bAlternateSetting : UInt8
  bNumEndpoints : UInt8
  toRelease : List ℤ := []
  toAttach : List ℤ := []
  handle : Bool := false
  USBRequestsStatus : Bool := true
  keysEndpoint : UInt8 := 0
  LCDEndpoint : UInt8 := 0
  deriving DecidableEq, Repr

structure USBState where
  device : LibusbDevice
  calls : USBCalls := []
  deriving DecidableEq, Repr

/-- The exception is the text of a `GLogiKExcept`. -/
abbrev USBAction := Action String USBState

def getDevice : USBAction LibusbDevice := fun s => (.ok s.device, s)

def modifyDevice (f : LibusbDevice → LibusbDevice) : USBAction Unit :=
  fun s => (.ok (), { s with device := f s.device })

namespace Libusb

variable (lib : Libusb)

def call (c : USBCall) : USBAction ℤ := fun s =>
  (.ok (lib.answer s.calls c), { s with calls := s.calls ++ [(c, lib.answer s.calls c)] })

/-- A call whose failure is only logged, or that returns nothing. -/
def callOnly (c : USBCall) : USBAction Unit := do
  let _ ← lib.call c
  pure ()

/-- `libusb_get_configuration`, with the value it finds. -/
def getConfiguration : USBAction (ℤ × ℤ) := do
  let ret ← lib.call .getConfiguration
  fun s => (.ok (ret, lib.activeConfiguration s.calls), s)

/-- The configuration descriptor is freed, and an exception is thrown. -/
def freeAndThrow (index : ℕ) (text : String) : USBAction Unit := do
  lib.callOnly (.freeConfigDescriptor index)
  throw text

/-! ### Closing -/

def attachUSBDeviceInterfacesToKernelDrivers : USBAction Unit := do
  let device ← getDevice
  device.toAttach.forM fun numInt => lib.callOnly (.attachKernelDriver numInt)
  modifyDevice fun device => { device with toAttach := [] }

def releaseUSBDeviceInterfaces : USBAction Unit := do
  let device ← getDevice
  device.toRelease.forM fun numInt => lib.callOnly (.releaseInterface numInt)
  modifyDevice fun device => { device with toRelease := [] }
  lib.attachUSBDeviceInterfacesToKernelDrivers

def closeUSBDevice : USBAction Unit := do
  let device ← getDevice
  if device.USBRequestsStatus then lib.releaseUSBDeviceInterfaces else pure ()
  lib.callOnly .libusbClose
  modifyDevice fun device => { device with handle := false }

/-! ### Opening -/

def seekUSBDevice : USBAction Unit := do
  let numDevices ← lib.call .getDeviceList
  if numDevices < 0 then throw "error getting USB devices list"
  else do
    let plugged : Bool ← fun s => (.ok (lib.plugged s.calls), s)
    lib.callOnly .freeDeviceList
    if plugged then pure ()
    else do
      let device ← getDevice
      -- the numbers are written as characters
      throw ("libusb cannot find device " ++ String.singleton (Char.ofNat device.num.toNat) ++
        " on bus " ++ String.singleton (Char.ofNat device.bus.toNat))

def detachKernelDriverFromUSBDeviceInterface (numInt : ℤ) : USBAction Unit := do
  let ret ← lib.call (.kernelDriverActive numInt)
  if ret < 0 then throw "libusb kernel_driver_active error"
  else if ret ≠ 0 then do
    let ret ← lib.call (.detachKernelDriver numInt)
    if ret ≠ 0 then
      throw ("failed to detach kernel driver from USB interface " ++ toString numInt)
    else modifyDevice fun device => { device with toAttach := device.toAttach ++ [numInt] }
  else pure ()

/-- The kernel driver is detached; when that throws, the configuration descriptor is freed. -/
def detachOrFree (index : ℕ) (numInt : ℤ) : USBAction Unit :=
  tryCatch (lib.detachKernelDriverFromUSBDeviceInterface numInt) (lib.freeAndThrow index)

/-- The first loop over the configurations. A configuration without descriptor is skipped. -/
def detachConfiguration (index : ℕ) (configDescriptor : ConfigDescriptor) : USBAction Unit := do
  let ret ← lib.call (.getConfigDescriptor index)
  if ret ≠ 0 then pure ()
  else do
    configDescriptor.interface.forM fun altsetting =>
      altsetting.forM fun asDescriptor =>
        lib.detachOrFree index (toInt asDescriptor.bInterfaceNumber)
    lib.callOnly (.freeConfigDescriptor index)

def setUSBDeviceActiveConfiguration : USBAction Unit := do
  let device ← getDevice
  let b := toInt device.bConfigurationValue
  let (ret, bConfigurationValue) ← lib.getConfiguration
  if ret ≠ 0 then throw "libusb get_configuration error"
  else if bConfigurationValue = b then pure ()
  else do
    let ret ← lib.call .getDeviceDescriptor
    if ret ≠ 0 then throw "libusb get_device_descriptor failure"
    else do
      lib.configurations.zipIdx.forM fun config => lib.detachConfiguration config.2 config.1
      let ret ← lib.call (.setConfiguration b)
      if ret ≠ 0 then throw "libusb set_configuration failure"
      else lib.attachUSBDeviceInterfacesToKernelDrivers

/-- The interface is claimed, and will be released. -/
def claimInterface (index : ℕ) (numInt : ℤ) : USBAction Unit := do
  let ret ← lib.call (.claimInterface numInt)
  if ret ≠ 0 then lib.freeAndThrow index "failed to claim interface"
  else modifyDevice fun device => { device with toRelease := device.toRelease ++ [numInt] }

/-- Once that the interface is claimed, the right configuration must be set. -/
def checkActiveConfiguration (index : ℕ) : USBAction Unit := do
  let (ret, bConfigurationValue) ← lib.getConfiguration
  let device ← getDevice
  if ret ≠ 0 then lib.freeAndThrow index "libusb get_configuration error"
  else if bConfigurationValue ≠ toInt device.bConfigurationValue then
    lib.freeAndThrow index ("wrong configuration value : " ++ toString bConfigurationValue)
  else pure ()

/-- The first interrupt endpoint in each direction is kept. -/
def findEndpoint (device : LibusbDevice) (ep : EndpointDescriptor) : LibusbDevice :=
  if ep.bmAttributes &&& LIBUSB_TRANSFER_TYPE_MASK = LIBUSB_TRANSFER_TYPE_INTERRUPT then
    let addr := ep.bEndpointAddress
    if addr &&& LIBUSB_ENDPOINT_DIR_MASK = LIBUSB_ENDPOINT_IN then
      if device.keysEndpoint ≠ 0 then device else { device with keysEndpoint := addr }
    else if addr &&& LIBUSB_ENDPOINT_DIR_MASK = LIBUSB_ENDPOINT_OUT then
      if device.LCDEndpoint ≠ 0 then device else { device with LCDEndpoint := addr }
    else device
  else device

def checkEndpoints (index : ℕ) : USBAction Unit := do
  let device ← getDevice
  if device.keysEndpoint = 0 then lib.freeAndThrow index "[Keys] endpoint not found"
  else if device.LCDEndpoint = 0 then lib.freeAndThrow index "[LCD] endpoint not found"
  else pure ()

/-- The innermost loop over the alternate settings; those that are not expected are skipped. -/
def checkInterface (index : ℕ) (asDescriptor : InterfaceDescriptor) : USBAction Unit := do
  let device ← getDevice
  if asDescriptor.bInterfaceNumber ≠ device.bInterfaceNumber then pure ()
  else if asDescriptor.bAlternateSetting ≠ device.bAlternateSetting then pure ()
  else if asDescriptor.bInterfaceClass ≠ LIBUSB_CLASS_HID then pure ()
  else if asDescriptor.endpoint.length ≠ device.bNumEndpoints.toNat then
    lib.freeAndThrow index "num_endpoints does not match"
  else do
    let numInt := toInt asDescriptor.bInterfaceNumber
    lib.detachOrFree index numInt
    lib.claimInterface index numInt
    lib.checkActiveConfiguration index
    modifyDevice fun device => asDescriptor.endpoint.foldl findEndpoint device
    lib.checkEndpoints index

/-- The second loop over the configurations. -/
def searchConfiguration (index : ℕ) (configDescriptor : ConfigDescriptor) : USBAction Unit := do
  let ret ← lib.call (.getConfigDescriptor index)
  let device ← getDevice
  if ret ≠ 0 then pure ()
  else if configDescriptor.bConfigurationValue ≠ device.bConfigurationValue then
    lib.callOnly (.freeConfigDescriptor index)
  else do
    configDescriptor.interface.forM fun altsetting => altsetting.forM (lib.checkInterface index)
    lib.callOnly (.freeConfigDescriptor index)

def findUSBDeviceInterface : USBAction Unit := do
  let ret ← lib.call .getDeviceDescriptor
  if ret ≠ 0 then throw "libusb get_device_descriptor failure"
  else lib.configurations.zipIdx.forM fun config => lib.searchConfiguration config.2 config.1

/-- What is tried with the device that was opened. -/
def useUSBDevice : USBAction Unit := do
  lib.setUSBDeviceActiveConfiguration
  lib.findUSBDeviceInterface

/-- When that throws, the device is closed. -/
def useOrClose : USBAction Unit :=
  tryCatch lib.useUSBDevice fun e => do
    lib.closeUSBDevice
    throw e

def openUSBDevice : USBAction Unit := do
  lib.seekUSBDevice
  let ret ← lib.call .libusbOpen
  if ret ≠ 0 then throw "opening device failure"
  else do
    modifyDevice fun device => { device with handle := true }
    lib.useOrClose

/-! ### The driver of the device -/

/-- What a driver does with a device, and what fails when the device is open. -/
inductive DriverOperation
  | initializeDevice (det : LibusbDevice)
  | openDevice (initFails spawnFails : Bool)
  | closeDevice (skipUSBRequests : Bool)

/-- The entry of the device in `_initializedDevices`, if there is one, and all calls. -/
structure DriverState where
  device : Option LibusbDevice := none
  calls : USBCalls := []

/-- The constructor of `USBDevice`. -/
def newLibusbDevice (det : LibusbDevice) : LibusbDevice where
  bus := det.bus
  num := det.num
  bConfigurationValue := det.bConfigurationValue
  bInterfaceNumber := det.bInterfaceNumber
  bAlternateSetting := det.bAlternateSetting
  bNumEndpoints := det.bNumEndpoints

def initializeDevice (s : DriverState) (det : LibusbDevice) : DriverState :=
  if s.device.isSome then s else { s with device := some (newLibusbDevice det) }

def closeDevice (s : DriverState) (skipUSBRequests : Bool) : DriverState :=
  match s.device with
  | none        => s
  | some device =>
    let device := if skipUSBRequests then { device with USBRequestsStatus := false } else device
    { device := none, calls := (lib.closeUSBDevice { device, calls := s.calls }).2.calls }

/-- A device that could not be opened, or initialized when it was open, stays in the map. -/
def openDevice (s : DriverState) (initFails spawnFails : Bool) : DriverState :=
  match s.device with
  | none        => s
  | some device =>
    match lib.openUSBDevice { device, calls := s.calls } with
    | (.error _, s') => { device := some s'.device, calls := s'.calls }
    | (.ok _, s')    =>
      if initFails then
        let closed := (lib.closeUSBDevice s').2
        { device := some closed.device, calls := closed.calls }
      else
        let opened : DriverState := { device := some s'.device, calls := s'.calls }
        if spawnFails then lib.closeDevice opened false else opened

def operate (s : DriverState) : DriverOperation → DriverState
  | .initializeDevice det            => initializeDevice s det
  | .openDevice initFails spawnFails => lib.openDevice s initFails spawnFails
  | .closeDevice skipUSBRequests     => lib.closeDevice s skipUSBRequests

end Libusb

end GLogiK
