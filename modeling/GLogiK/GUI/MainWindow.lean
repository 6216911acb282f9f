import GLogiK.Service.ConfigurationFiles

/-!
# The main window of the GUI

`MainWindow` loads the configuration file of the selected device, and writes the whole
configuration back when a tab is applied. The service informs it of files that it saved or
reloaded.
-/

namespace GLogiK

variable {δ : Type*} [LinearOrder δ]

/-! ### The window -/

/-- The status of a device in the list of the service. -/
inductive DeviceStatus
  | started
  | stopped
  deriving DecidableEq, Repr

/-- `devices` is the list as it was last requested. The items of the combo box are its devices, and
`devID` is the one that is selected. The tabs are those that edit the configuration. -/
structure MainWindow (δ : Type*) where
  devID : Option δ := none
  devices : δ → Option DeviceStatus := fun _ => none
  configurationFilePath : Option δ := none
  openedConfigurationFile : DeviceProperties := {}
  ignoreNextSignal : Bool := false
  tabsEnabled : Bool := false
  messageBox : Bool := false

/-- What is applied with the button of a tab. -/
inductive TabApplyButton
  | tabBacklight (RGB : RGBBytes)
  | tabLCDPlugins (LCDPluginsMask1 : UInt64)
  | tabGKeys (bankID : MKeysID) (keyID : GKeysID) (eventType : GKeyEventType) (command : String)

namespace MainWindow

variable (w : MainWindow δ)

/-- `files` are the configuration files. A device that is not in the list throws. -/
def updateInterface (files : δ → Option DeviceConfiguration) (index : Option δ) : MainWindow δ :=
  match index with
  | none    => { w with devID := none, tabsEnabled := false }
  | some id =>
    match w.devices id with
    | none          => { w with devID := some id }
    | some .stopped => { w with devID := some id, tabsEnabled := false }
    | some .started =>
      { w with
        devID := some id
        configurationFilePath := some id
        openedConfigurationFile := w.openedConfigurationFile.load (files id)
        tabsEnabled := true }

/-- The opened configuration with the change of the tab; `none` if the bank does not have the
key. -/
def change : TabApplyButton → Option DeviceProperties
  | .tabBacklight RGB => some { w.openedConfigurationFile with RGB }
  | .tabLCDPlugins LCDPluginsMask1 => some { w.openedConfigurationFile with LCDPluginsMask1 }
  | .tabGKeys bankID keyID eventType command =>
    (w.openedConfigurationFile.GKeysBanks bankID keyID).map fun event =>
      { w.openedConfigurationFile with
        GKeysBanks := setKey w.openedConfigurationFile.GKeysBanks bankID keyID
          { event with GKeyCommand := command, GKeyEventType := eventType } }

/-- The button of a tab can be pressed. -/
def CanApply : Prop := w.tabsEnabled ∧ ¬ w.messageBox

instance : Decidable w.CanApply := inferInstanceAs (Decidable (_ ∧ _))

/-- The file that the button of a tab writes, and the configuration that is written. -/
def written (tab : TabApplyButton) : Option (δ × DeviceProperties) :=
  if w.CanApply then
    w.configurationFilePath.bind fun id => (w.change tab).map fun opened => (id, opened)
  else none

/-- The signal is ignored, about another device, or shown in a message box. -/
def configurationFileUpdated (devID : δ) : MainWindow δ :=
  if w.ignoreNextSignal then { w with ignoreNextSignal := false }
  else if w.devID ≠ some devID then w
  else { w with messageBox := true }

/-- `devices` is the list that the service returns. -/
def resetInterface (devices : δ → Option DeviceStatus) : MainWindow δ :=
  { w with devID := none, tabsEnabled := false, devices }

end MainWindow

/-! ### The window and the service -/

/-- The signals of the service to the GUI. -/
inductive ServiceSignal (δ : Type*)
  | deviceConfigurationSaved (devID : δ)
  | devicesUpdated

/-- `signals` were sent and are not yet handled by the window, oldest first. `recorded` is history:
the keys whose macro was recorded, and that were not changed since. -/
structure Desktop (δ : Type*) [LinearOrder δ] where
  service : ServiceFiles δ
  window : MainWindow δ := {}
  signals : List (ServiceSignal δ) := []
  recorded : δ → BanksMap := fun _ _ _ => none

/-- What the service, the user and the file system do. The message box is modal, and no signal is
handled while it is open. -/
inductive DesktopEvent (δ : Type*)
  | deviceMacroRecorded (devID : δ) (keyID : GKeysID) (events : MacroType) (result : SaveResult)
  | deviceMacroCleared (devID : δ) (keyID : GKeysID) (result : SaveResult)
  | setDeviceCurrentBankID (devID : δ) (bankID : MKeysID)
  | startDevice (devID : δ)
  | stopDevice (devID : δ)
  | checkNotifyEvents
  | select (index : Option δ)
  | apply (tab : TabApplyButton) (result : SaveResult)
  | handleSignal
  | closeMessageBox

/-- The key of a bank has this event, or none. -/
def updateKey (banks : BanksMap) (bankID : MKeysID) (keyID : GKeysID) (event : Option GKeysEvent) :
    BanksMap :=
  fun bankID' keyID' => if bankID' = bankID ∧ keyID' = keyID then event else banks bankID' keyID'

namespace ServiceFiles

variable (s : ServiceFiles δ)

/-- `DeviceConfigurationFile::save` of another program. -/
def saveExternally (devID : δ) (file : DeviceConfiguration) : SaveResult → ServiceFiles δ
  | .saved               => s.writeExternally devID (some file)
  | .openFails           => s
  | .writeFails notified =>
    if notified then s.writeExternally devID none else s.writeFile devID none

def getDevicesList (devID : δ) : Option DeviceStatus :=
  if (s.devices.startedDevices[devID]?).isSome then some .started
  else if (s.devices.stoppedDevices[devID]?).isSome then some .stopped
  else none

end ServiceFiles

namespace Desktop

variable (s : Desktop δ)

/-- The signals that the service sent are delivered in their order. -/
def serve (service : ServiceFiles δ) : Desktop δ :=
  { s with
    service := { service with saved := [] }
    signals := s.signals ++ service.saved.map .deviceConfigurationSaved }

def sendDevicesUpdatedSignal : Desktop δ :=
  { s with signals := s.signals ++ [.devicesUpdated] }

def remember (devID : δ) (bankID : MKeysID) (keyID : GKeysID) (event : Option GKeysEvent) :
    Desktop δ :=
  { s with
    recorded := Function.update s.recorded devID
      (updateKey (s.recorded devID) bankID keyID event) }

/-! ### The service -/

def deviceMacroRecorded (devID : δ) (keyID : GKeysID) (events : MacroType) (result : SaveResult) :
    Desktop δ :=
  let s' := s.serve (s.service.deviceMacroRecorded devID keyID events result)
  if keyID ≠ GKeyID_INV ∧ (s.service.devices.setDeviceMacro devID keyID events).isSome then
    s'.remember devID (s.service.devices.bank devID) keyID (some (.new (checkMacro events)))
  else s'

def deviceMacroCleared (devID : δ) (keyID : GKeysID) (result : SaveResult) : Desktop δ :=
  let s' := s.serve (s.service.deviceMacroCleared devID keyID result)
  if (s.service.devices.clearDeviceMacro devID keyID).isSome then
    s'.remember devID (s.service.devices.bank devID) keyID none
  else s'

/-- The devices of the service are changed, and the GUI is informed. -/
def updateDevices (devices : DevicesHandler δ) : Desktop δ :=
  { s with service := { s.service with devices } }.sendDevicesUpdatedSignal

/-- The service knows the device. -/
def startDevice (devID : δ) : Desktop δ :=
  if s.service.Knows devID then s.updateDevices (s.service.devices.startDevice devID {}) else s

def stopDevice (devID : δ) : Desktop δ :=
  if s.service.Knows devID then s.updateDevices (s.service.devices.stopDevice devID {}) else s

/-! ### The GUI -/

def updateInterface (index : Option δ) : Desktop δ :=
  { s with window := s.window.updateInterface s.service.files index }

/-- An item of the combo box is selected. -/
def select (index : Option δ) : Desktop δ :=
  if s.window.messageBox ∨ index = s.window.devID ∨ ∃ id ∈ index, s.window.devices id = none then s
  else s.updateInterface index

/-- The service will send a signal for the file, which is to be ignored. A key whose macro was
recorded is changed by the tab of the G-keys only. -/
def saveConfigurationFile (tab : TabApplyButton) (result : SaveResult) : Desktop δ :=
  match s.window.written tab with
  | none              => s
  | some (id, opened) =>
    let s := { s with
      service := s.service.saveExternally id opened.toDeviceConfiguration result
      window := { s.window with openedConfigurationFile := opened, ignoreNextSignal := true } }
    match tab, result with
    | .tabGKeys bankID keyID _ _, .saved => s.remember id bankID keyID none
    | _, _ => s

def saveConfigurationFileAndUpdateInterface (tab : TabApplyButton) (result : SaveResult) :
    Desktop δ :=
  if s.window.CanApply then
    let s := s.saveConfigurationFile tab result
    s.updateInterface s.window.devID
  else s

/-- The first of the signals is handled. -/
def handleSignal : Desktop δ :=
  if s.window.messageBox then s
  else
    match s.signals with
    | [] => s
    | .deviceConfigurationSaved devID :: signals =>
      { s with signals, window := s.window.configurationFileUpdated devID }
    | .devicesUpdated :: signals =>
      { s with signals, window := s.window.resetInterface s.service.getDevicesList }

/-- The file is loaded again when the message box was closed. -/
def closeMessageBox : Desktop δ :=
  if s.window.messageBox then
    { s with window := { s.window with messageBox := false } }.updateInterface s.window.devID
  else s

def step : DesktopEvent δ → Desktop δ
  | .deviceMacroRecorded devID keyID events result =>
    s.deviceMacroRecorded devID keyID events result
  | .deviceMacroCleared devID keyID result => s.deviceMacroCleared devID keyID result
  | .setDeviceCurrentBankID devID bankID =>
    { s with service := { s.service with
        devices := s.service.devices.setDeviceCurrentBankID devID bankID } }
  | .startDevice devID => s.startDevice devID
  | .stopDevice devID => s.stopDevice devID
  | .checkNotifyEvents => s.serve s.service.checkNotifyEvents
  | .select index => s.select index
  | .apply tab result => s.saveConfigurationFileAndUpdateInterface tab result
  | .handleSignal => s.handleSignal
  | .closeMessageBox => s.closeMessageBox

end Desktop

end GLogiK
