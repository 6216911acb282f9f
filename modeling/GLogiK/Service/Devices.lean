import GLogiK.Service.FileSystem
import GLogiK.Service.GKeysBanks

/-!
# The devices handler, with all it keeps of a device

The functions of `DevicesHandler` on the two containers, with the configuration file that a device
is given when it is first met and the watch of its directory. What the daemon, the disk and inotify
answer is an argument. Nothing is thrown after the load: the connections are open, and failed calls
are only logged.
-/

namespace GLogiK

variable {δ : Type*} [LinearOrder δ]

/-! ### Answers -/

/-- Whether the directory was created or found, and whether inotify watches it if it is asked to. -/
structure DirectoryAnswer where
  created : Bool := true
  watched : Bool := true
  deriving DecidableEq, Repr

/-- What is answered while a device is initialized: by the daemon, where `none` is a call that fails
and an empty list of M-keys may be one; by the disk, for a directory and a file name; and the file
that is loaded if one is found. -/
structure DeviceAnswers where
  properties : Option (String × String × String × UInt64) := none
  LCDPluginsProperties : Option LCDPPArray := none
  MKeysIDArray : List EnumByte := []
  GKeysIDArray : List EnumByte := []
  status : String → String → FileStatus := fun _ _ => .noRegularFile
  directory : DirectoryAnswer := {}
  file : Option SavedConfiguration := none

def DeviceRecord.checkDeviceCapability (device : DeviceRecord) (toCheck : Caps) : Bool :=
  device.capabilities &&& toCheck.mask ≠ 0

/-- The first part of `setDeviceProperties`: what the daemon tells about the device. -/
def DeviceAnswers.queried (answers : DeviceAnswers) : DeviceRecord :=
  let device : DeviceRecord :=
    match answers.properties with
    | some (vendor, product, name, capabilities) => { vendor, product, name, capabilities }
    | none                                       => {}
  let device :=
    if device.checkDeviceCapability .lcdScreen then
      match answers.LCDPluginsProperties with
      | some LCDPluginsProperties => { device with LCDPluginsProperties }
      | none                      => device
    else device
  if device.checkDeviceCapability .macrosKeys && answers.MKeysIDArray ≠ [] then
    device.initBanks answers.MKeysIDArray answers.GKeysIDArray
  else device

/-- A device as the constructor leaves it, apart from what the daemon tells. -/
structure DeviceRecord.IsDefault (device : DeviceRecord) : Prop where
  configFilePath : device.configFilePath = "none"
  watchedDescriptor : device.watchedDescriptor = -1
  currentBankID : device.currentBankID = .m0

lemma DeviceAnswers.queried_isDefault (answers : DeviceAnswers) : answers.queried.IsDefault := by
  rw [queried]
  cases answers.properties <;> cases answers.LCDPluginsProperties <;> dsimp only <;>
    split_ifs <;> exact ⟨rfl, rfl, rfl⟩

/-! ### The devices handler -/

/-- `directory` is the configuration directory of a vendor. A new watch gets the descriptor `nextWd`,
which inotify has not returned before. The last two only remember: `returned` the descriptor that was
last returned for a directory, `created` the directories and names of the default files, with what
stood there. -/
structure ServiceDevices (δ : Type*) [LinearOrder δ] where
  directory : String → String
  startedDevices : StdMap δ DeviceRecord := ∅
  stoppedDevices : StdMap δ DeviceRecord := ∅
  ignoredFSNotifications : Finset δ := ∅
  fs : FSNotify := {}
  nextWd : ℕ := 1
  returned : String → Option ℤ := fun _ => none
  created : List (String × String × FileStatus) := []

namespace ServiceDevices

variable (s : ServiceDevices δ)

/-! ### Configuration files -/

/-- The directory of the device is created and watched; a failure is only logged. -/
def initializeConfigurationDirectory (device : DeviceRecord) (check : Bool)
    (answer : DirectoryAnswer) : ServiceDevices δ × DeviceRecord :=
  if !answer.created then (s, device)
  else
    match s.fs.addNotifyDirectoryWatch (s.directory device.vendor) check
        (if answer.watched then some (s.nextWd : ℤ) else none) with
    | none => (s, device)
    | some (fs, wd) =>
      ({ s with
          fs := fs
          nextWd := s.nextWd + 1
          returned := Function.update s.returned (s.directory device.vendor) (some wd) },
        { device with watchedDescriptor := wd })

/-- The next notification of the device will be ignored. -/
def ignoreNextNotification (devID : δ) : ServiceDevices δ :=
  { s with ignoredFSNotifications := insert devID s.ignoredFSNotifications }

/-- `saveDeviceConfigurationFile` on a device of `_startedDevices`. -/
def saveDeviceConfigurationFile (devID : δ) (answer : DirectoryAnswer) : ServiceDevices δ :=
  match s.startedDevices[devID]? with
  | none => s
  | some device =>
    let r := s.initializeConfigurationDirectory device true answer
    { r.1 with startedDevices := r.1.startedDevices.insert devID r.2 }.ignoreNextNotification devID

/-- The names of the files of all devices. -/
def alreadyUsed : List String :=
  (s.startedDevices.toList ++ s.stoppedDevices.toList).map (·.2.configFilePath)

/-- The file name the device is given: one of an existing file, else a new one. -/
def nextFileName (device : DeviceRecord) (status : String → String → FileStatus)
    (mustExist : Bool) : Option String :=
  FileSystem.getNextAvailableFileName s.alreadyUsed (status (s.directory device.vendor))
    (device.product ++ " " ++ device.name) "cfg" mustExist

/-- A device that was not known before. Without any name the device keeps the one of the
constructor. -/
def setDeviceProperties (devID : δ) (answers : DeviceAnswers) : ServiceDevices δ × DeviceRecord :=
  let device := answers.queried
  match s.nextFileName device answers.status true with
  | some configFilePath =>
    let r := s.initializeConfigurationDirectory { device with configFilePath } false
      answers.directory
    (r.1, r.2.load answers.file)
  | none =>
    match s.nextFileName device answers.status false with
    | some configFilePath =>
      let r := s.initializeConfigurationDirectory { device with configFilePath } false
        answers.directory
      ({ r.1 with
          created := (s.directory device.vendor, configFilePath,
            answers.status (s.directory device.vendor) configFilePath) :: r.1.created
        }.ignoreNextNotification devID, r.2)
    | none => (s, device)

/-! ### The containers -/

def startDevice (devID : δ) (answers : DeviceAnswers) : ServiceDevices δ :=
  match s.startedDevices[devID]? with
  | some _ => s
  | none =>
    match s.stoppedDevices[devID]? with
    | some device =>
      { s with
        startedDevices := s.startedDevices.insert devID device
        stoppedDevices := s.stoppedDevices.erase devID }
    | none =>
      let r := s.setDeviceProperties devID answers
      { r.1 with startedDevices := r.1.startedDevices.insert devID r.2 }

/-- A started device is filed as stopped. -/
def moveToStopped (devID : δ) (device : DeviceRecord) : ServiceDevices δ :=
  { s with
    stoppedDevices := s.stoppedDevices.insert devID device
    startedDevices := s.startedDevices.erase devID }

/-- A device that is not known is started first. -/
def stopDevice (devID : δ) (answers : DeviceAnswers) : ServiceDevices δ :=
  match s.stoppedDevices[devID]? with
  | some _ => s
  | none =>
    match s.startedDevices[devID]? with
    | some device => s.moveToStopped devID device
    | none =>
      let s := s.startDevice devID answers
      match s.startedDevices[devID]? with
      | some device => s.moveToStopped devID device
      | none        => s

def unrefDevice (devID : δ) : ServiceDevices δ :=
  match s.stoppedDevices[devID]? with
  | none => s
  | some device =>
    { s with
      fs := s.fs.removeNotifyWatch device.watchedDescriptor
      stoppedDevices := s.stoppedDevices.erase devID }

def unplugDevice (devID : δ) (answers : DeviceAnswers) : ServiceDevices δ :=
  match s.stoppedDevices[devID]? with
  | some _ => s.unrefDevice devID
  | none   => (s.stopDevice devID answers).unrefDevice devID

/-- The set of the devices that `clearDevices` unplugs. -/
def devicesID : List δ :=
  let set : StdMap δ Unit :=
    (s.startedDevices.keys ++ s.stoppedDevices.keys).foldl (fun set devID => set.insertIfNew devID ()) ∅
  set.keys

/-- The loop of `clearDevices`. -/
def unplugAll (answers : δ → DeviceAnswers) (devIDs : List δ) : ServiceDevices δ :=
  devIDs.foldl (fun s devID => s.unplugDevice devID (answers devID)) s

def clearDevices (answers : δ → DeviceAnswers) : ServiceDevices δ :=
  { s.unplugAll answers s.devicesID with
    startedDevices := ∅
    stoppedDevices := ∅ }

/-! ### Changes of a device -/

/-- A started device is changed; nothing happens if it is not found, or the change throws. -/
def changeStarted (devID : δ) (change : DeviceRecord → Option DeviceRecord) : ServiceDevices δ :=
  match s.startedDevices[devID]?.bind change with
  | none        => s
  | some device => { s with startedDevices := s.startedDevices.insert devID device }

def setDeviceCurrentBankID (devID : δ) (bankID : MKeysID) : ServiceDevices δ :=
  s.changeStarted devID fun device => some { device with currentBankID := bankID }

/-- `setMacro` on the banks that `getDeviceBanks` returns. -/
def setDeviceMacro (devID : δ) (keyID : EnumByte) (events : MacroType) : ServiceDevices δ :=
  s.changeStarted devID fun device =>
    (device.GKeysBanks.setMacro device.currentBankID.byte keyID events).toOption.map
      fun GKeysBanks => { device with GKeysBanks }

/-- `clearMacro` on the banks that `getDeviceBanks` returns. -/
def clearDeviceMacro (devID : δ) (keyID : EnumByte) : ServiceDevices δ :=
  s.changeStarted devID fun device =>
    (device.GKeysBanks.clearMacro device.currentBankID.byte keyID).toOption.map
      fun r => { device with GKeysBanks := r.1 }

def reloadDeviceConfigurationFile (devID : δ) (file : Option SavedConfiguration) :
    ServiceDevices δ :=
  if devID ∈ s.ignoredFSNotifications then
    { s with ignoredFSNotifications := s.ignoredFSNotifications.erase devID }
  else
    match s.startedDevices[devID]? with
    | some device => { s with startedDevices := s.startedDevices.insert devID (device.load file) }
    | none =>
      match s.stoppedDevices[devID]? with
      | some device => { s with stoppedDevices := s.stoppedDevices.insert devID (device.load file) }
      | none        => s

def getDevicesFilesMap : DevicesFilesMap δ :=
  (s.startedDevices.toList ++ s.stoppedDevices.toList).foldl
    (fun map device => map.insertIfNew device.1 device.2.configFilePath) ∅

/-- The inotify queue is read, and the devices that remain are reloaded. -/
def checkNotifyEvents (reads : List (List InotifyEvent)) (files : δ → Option SavedConfiguration) :
    ServiceDevices δ :=
  let r := s.fs.readNotifyEvents s.getDevicesFilesMap reads
  r.2.keys.foldl (fun s devID => s.reloadDeviceConfigurationFile devID (files devID))
    { s with fs := r.1 }

end ServiceDevices

/-! ### Events -/

inductive DevicesEvent (δ : Type*)
  | startDevice (devID : δ) (answers : DeviceAnswers)
  | stopDevice (devID : δ) (answers : DeviceAnswers)
  | unplugDevice (devID : δ) (answers : DeviceAnswers)
  | clearDevices (answers : δ → DeviceAnswers)
  | saveDeviceConfigurationFile (devID : δ) (answer : DirectoryAnswer)
  | setDeviceCurrentBankID (devID : δ) (bankID : MKeysID)
  | setDeviceMacro (devID : δ) (keyID : EnumByte) (events : MacroType)
  | clearDeviceMacro (devID : δ) (keyID : EnumByte)
  | checkNotifyEvents (reads : List (List InotifyEvent)) (files : δ → Option SavedConfiguration)

def ServiceDevices.step (s : ServiceDevices δ) : DevicesEvent δ → ServiceDevices δ
  | .startDevice devID answers                 => s.startDevice devID answers
  | .stopDevice devID answers                  => s.stopDevice devID answers
  | .unplugDevice devID answers                => s.unplugDevice devID answers
  | .clearDevices answers                      => s.clearDevices answers
  | .saveDeviceConfigurationFile devID answer  => s.saveDeviceConfigurationFile devID answer
  | .setDeviceCurrentBankID devID bankID       => s.setDeviceCurrentBankID devID bankID
  | .setDeviceMacro devID keyID events         => s.setDeviceMacro devID keyID events
  | .clearDeviceMacro devID keyID              => s.clearDeviceMacro devID keyID
  | .checkNotifyEvents reads files             => s.checkNotifyEvents reads files

end GLogiK
