import GLogiK.Service.DeviceMoves

/-!
# Files that could not be read

The devices handler on a disk. `DeviceConfigurationFile::load` only logs that it could not read a
file, and the device goes on with what it has; the next macro that is recorded or cleared saves the
device to that file. What was read in vain and what was overwritten is remembered in the order of
time. As far as the devices go, a run on a disk is one of the handler (`devices_run`).
-/

namespace GLogiK

variable {δ : Type*} [LinearOrder δ]

/-! ### The disk -/

/-- What stands at a path, whose status may be unreadable. The content of a regular file is `none`
if it can't be opened for reading, or is no archive. -/
inductive DiskFile
  | noRegularFile (unreadable : Bool)
  | regularFile (unreadable : Bool) (content : Option SavedConfiguration)

namespace DiskFile

variable (file : DiskFile)

def unreadable : DiskFile → Bool
  | .noRegularFile unreadable | .regularFile unreadable _ => unreadable

def isRegularFile : DiskFile → Bool
  | .noRegularFile _ => false
  | .regularFile _ _ => true

def content : DiskFile → Option SavedConfiguration
  | .noRegularFile _       => none
  | .regularFile _ content => content

def status : FileStatus :=
  if file.unreadable then .unreadable file.isRegularFile
  else if file.isRegularFile then .regularFile
  else .noRegularFile

/-- `DeviceConfigurationFile::save` on what stands at the path. -/
def save (configuration : SavedConfiguration) : SaveResult → DiskFile
  | .saved        => .regularFile file.unreadable (some configuration)
  | .openFails    => file
  | .writeFails _ => .regularFile file.unreadable none

end DiskFile

inductive FileActionKind
  | loadFailed
  | overwritten
  deriving DecidableEq, Repr

/-- A regular file that could not be loaded for a device, or that was opened for writing when a
macro of the device was recorded or cleared. -/
structure FileAction (δ : Type*) where
  kind : FileActionKind
  devID : δ
  directory : String
  name : String
  deriving DecidableEq

/-- The later action overwrites what the earlier one could not load. -/
def FileAction.Loses (earlier later : FileAction δ) : Prop :=
  earlier.kind = .loadFailed ∧ later = { earlier with kind := .overwritten }

instance (earlier later : FileAction δ) : Decidable (earlier.Loses later) :=
  inferInstanceAs (Decidable (_ ∧ _))

/-- No file is overwritten after it could not be loaded. -/
def NoneLost (actions : List (FileAction δ)) : Prop :=
  actions.Pairwise fun earlier later => ¬ earlier.Loses later

instance (actions : List (FileAction δ)) : Decidable (NoneLost actions) :=
  inferInstanceAs (Decidable (actions.Pairwise _))

/-! ### The service -/

structure ServiceDisk (δ : Type*) [LinearOrder δ] where
  devices : ServiceDevices δ
  registerStatus : Bool := false
  sessionState : String
  disk : String → String → DiskFile
  actions : List (FileAction δ) := []

namespace ServiceDisk

variable (s : ServiceDisk δ)

/-- The disk answers for its files. -/
def diskAnswers (answers : DeviceAnswers) : DeviceAnswers :=
  let status := fun directory name => (s.disk directory name).status
  { answers with
    status
    file := (s.devices.nextFileName answers.queried status true).bind fun name =>
      (s.disk (s.devices.directory answers.queried.vendor) name).content }

def remember (kind : FileActionKind) (devID : δ) (directory name : String) : ServiceDisk δ :=
  { s with actions := s.actions ++ [{ kind, devID, directory, name }] }

def loadFile (devID : δ) (directory name : String) : ServiceDisk δ :=
  if (s.disk directory name).isRegularFile && (s.disk directory name).content.isNone then
    s.remember .loadFailed devID directory name
  else s

def writeFile (directory name : String) (file : DiskFile) : ServiceDisk δ :=
  { s with
    disk := Function.update s.disk directory (Function.update (s.disk directory) name file) }

def saveFile (directory name : String) (configuration : SavedConfiguration) (result : SaveResult) :
    ServiceDisk δ :=
  s.writeFile directory name ((s.disk directory name).save configuration result)

/-! ### Devices -/

/-- What `setDeviceProperties` does on the disk: the file that is found is loaded, or a default file
is created. -/
def setDeviceProperties (devID : δ) (answers : DeviceAnswers) (result : SaveResult) :
    ServiceDisk δ :=
  let device := answers.queried
  let directory := s.devices.directory device.vendor
  match s.devices.nextFileName device answers.status true with
  | some configFilePath => s.loadFile devID directory configFilePath
  | none =>
    match s.devices.nextFileName device answers.status false with
    | some configFilePath =>
      s.saveFile directory configFilePath device.toSavedConfiguration result
    | none => s

/-- A device that is not known is initialized on its way. -/
def moveDevice (move : ServiceDevices δ → δ → DeviceAnswers → ServiceDevices δ) (devID : δ)
    (answers : DeviceAnswers) (result : SaveResult) : ServiceDisk δ :=
  let answers := s.diskAnswers answers
  let moved :=
    if (s.devices.properties devID).isNone then s.setDeviceProperties devID answers result else s
  { moved with devices := move s.devices devID answers }

def startDevice : δ → DeviceAnswers → SaveResult → ServiceDisk δ :=
  s.moveDevice ServiceDevices.startDevice

def stopDevice : δ → DeviceAnswers → SaveResult → ServiceDisk δ :=
  s.moveDevice ServiceDevices.stopDevice

def unplugDevice : δ → DeviceAnswers → SaveResult → ServiceDisk δ :=
  s.moveDevice ServiceDevices.unplugDevice

/-- All these devices are known, and none is initialized. -/
def clearDevices : ServiceDisk δ :=
  { s with devices := s.devices.clearDevices fun _ => s.diskAnswers {} }

/-! ### Reloads -/

/-- The file of a known device. -/
def fileOf (devID : δ) : Option SavedConfiguration :=
  (s.devices.properties devID).bind fun device =>
    (s.disk (s.devices.directory device.vendor) device.configFilePath).content

/-- The file is not loaded when the notification of the device is ignored. -/
def reloadFile (devID : δ) : ServiceDisk δ :=
  if devID ∈ s.devices.ignoredFSNotifications then s
  else
    match s.devices.properties devID with
    | none        => s
    | some device =>
      s.loadFile devID (s.devices.directory device.vendor) device.configFilePath

/-- A device is reloaded once, and stays with its file and its ignore entry until then. -/
def checkNotifyEvents (reads : List (List InotifyEvent)) : ServiceDisk δ :=
  let r := s.devices.fs.readNotifyEvents s.devices.getDevicesFilesMap reads
  { r.2.keys.foldl reloadFile s with devices := s.devices.checkNotifyEvents reads s.fileOf }

/-! ### Signals -/

/-- Other signals are skipped. -/
def listens : Bool := s.registerStatus && s.sessionState = "active"

def deviceMBankSwitch (devID : δ) (bankID : MKeysID) : ServiceDisk δ :=
  if !s.listens then s
  else { s with devices := s.devices.setDeviceCurrentBankID devID bankID }

/-- On a device of `_startedDevices`. -/
def saveDeviceConfigurationFile (devID : δ) (answer : DirectoryAnswer) (result : SaveResult) :
    ServiceDisk δ :=
  match s.devices.startedDevices[devID]? with
  | none => s
  | some device =>
    let directory := s.devices.directory device.vendor
    let overwritten :=
      if (s.disk directory device.configFilePath).isRegularFile && result ≠ .openFails then
        s.remember .overwritten devID directory device.configFilePath
      else s
    { overwritten.saveFile directory device.configFilePath device.toSavedConfiguration result with
      devices := s.devices.saveDeviceConfigurationFile devID answer }

def deviceMacroRecorded (devID : δ) (keyID : EnumByte) (events : MacroType)
    (answer : DirectoryAnswer) (result : SaveResult) : ServiceDisk δ :=
  if !s.listens then s
  else
    match s.devices.startedDevices[devID]? with
    | none        => s
    | some device =>
      match device.GKeysBanks.setMacro device.currentBankID.byte keyID events with
      | .error _ => s
      | .ok _    =>
        { s with devices := s.devices.setDeviceMacro devID keyID events
          }.saveDeviceConfigurationFile devID answer result

/-- A key without a macro is not saved. -/
def deviceMacroCleared (devID : δ) (keyID : EnumByte) (answer : DirectoryAnswer)
    (result : SaveResult) : ServiceDisk δ :=
  if !s.listens then s
  else
    match s.devices.startedDevices[devID]? with
    | none        => s
    | some device =>
      match device.GKeysBanks.clearMacro device.currentBankID.byte keyID with
      | .error _     => s
      | .ok (_, had) =>
        let cleared := { s with devices := s.devices.clearDeviceMacro devID keyID }
        if had then cleared.saveDeviceConfigurationFile devID answer result else cleared

end ServiceDisk

/-! ### Runs -/

/-- Other programs write files, and the daemon and the session manager change what the service
knows of them. -/
inductive DiskEvent (δ : Type*)
  | writeFile (directory name : String) (file : DiskFile)
  | setRegisterStatus (registerStatus : Bool)
  | setSessionState (sessionState : String)
  | startDevice (devID : δ) (answers : DeviceAnswers) (result : SaveResult)
  | stopDevice (devID : δ) (answers : DeviceAnswers) (result : SaveResult)
  | unplugDevice (devID : δ) (answers : DeviceAnswers) (result : SaveResult)
  | clearDevices
  | checkNotifyEvents (reads : List (List InotifyEvent))
  | deviceMBankSwitch (devID : δ) (bankID : MKeysID)
  | deviceMacroRecorded (devID : δ) (keyID : EnumByte) (events : MacroType)
      (answer : DirectoryAnswer) (result : SaveResult)
  | deviceMacroCleared (devID : δ) (keyID : EnumByte) (answer : DirectoryAnswer)
      (result : SaveResult)

namespace ServiceDisk

def step (s : ServiceDisk δ) : DiskEvent δ → ServiceDisk δ
  | .writeFile directory name file              => s.writeFile directory name file
  | .setRegisterStatus registerStatus           => { s with registerStatus }
  | .setSessionState sessionState               => { s with sessionState }
  | .startDevice devID answers result           => s.startDevice devID answers result
  | .stopDevice devID answers result            => s.stopDevice devID answers result
  | .unplugDevice devID answers result          => s.unplugDevice devID answers result
  | .clearDevices                               => s.clearDevices
  | .checkNotifyEvents reads                    => s.checkNotifyEvents reads
  | .deviceMBankSwitch devID bankID             => s.deviceMBankSwitch devID bankID
  | .deviceMacroRecorded devID keyID events answer result =>
    s.deviceMacroRecorded devID keyID events answer result
  | .deviceMacroCleared devID keyID answer result =>
    s.deviceMacroCleared devID keyID answer result

/-! ### The condition -/

/-- The file of the device is no regular file, can't be opened for writing, or was never loaded for
the device in vain. -/
def Spares (s : ServiceDisk δ) (devID : δ) (device : DeviceRecord) (result : SaveResult) : Prop :=
  let directory := s.devices.directory device.vendor
  (s.disk directory device.configFilePath).isRegularFile → result ≠ .openFails →
    { kind := .loadFailed, devID, directory, name := device.configFilePath } ∉ s.actions

/-- Macros are only recorded, and cleared where there is one, on devices whose files are spared. -/
def SparesUnread (s : ServiceDisk δ) : DiskEvent δ → Prop
  | .deviceMacroRecorded devID keyID events _ result =>
    s.listens → ∀ device, s.devices.startedDevices[devID]? = some device →
      (∃ banks, device.GKeysBanks.setMacro device.currentBankID.byte keyID events = .ok banks) →
        s.Spares devID device result
  | .deviceMacroCleared devID keyID _ result =>
    s.listens → ∀ device, s.devices.startedDevices[devID]? = some device →
      (∃ banks, device.GKeysBanks.clearMacro device.currentBankID.byte keyID = .ok (banks, true)) →
        s.Spares devID device result
  | _ => True

variable {s s' s'' : ServiceDisk δ} {devID : δ} {device : DeviceRecord} {result : SaveResult}

/-! ### What is remembered -/

/-- From `s` to `s'` only failed loads are remembered. -/
def OnlyLoads (s s' : ServiceDisk δ) : Prop :=
  ∃ loads, s'.actions = s.actions ++ loads ∧ ∀ action ∈ loads, action.kind = .loadFailed

lemma onlyLoads_of_eq (h : s'.actions = s.actions) : OnlyLoads s s' :=
  ⟨[], h.trans (List.append_nil _).symm, List.forall_mem_nil _⟩

lemma OnlyLoads.trans (h : OnlyLoads s s') (h' : OnlyLoads s' s'') : OnlyLoads s s'' := by
  obtain ⟨loads, hactions, hloads⟩ := h
  obtain ⟨loads', hactions', hloads'⟩ := h'
  refine ⟨loads ++ loads', ?_, List.forall_mem_append.mpr ⟨hloads, hloads'⟩⟩
  rw [hactions', hactions, List.append_assoc]

/-- Nothing is lost by a failed load. -/
lemma OnlyLoads.noneLost_iff (h : OnlyLoads s s') :
    NoneLost s'.actions ↔ NoneLost s.actions := by
  obtain ⟨loads, hactions, hloads⟩ := h
  have hspared : ∀ earlier : FileAction δ, ∀ later ∈ loads, ¬ earlier.Loses later := by
    rintro earlier later hlater ⟨_, heq⟩
    have hkind := hloads later hlater
    rw [heq] at hkind
    cases hkind
  rw [NoneLost, hactions, List.pairwise_append]
  refine and_iff_left ⟨?_, fun earlier _ later hlater => hspared earlier later hlater⟩
  exact List.pairwise_of_forall_mem_list fun earlier _ later hlater => hspared earlier later hlater

lemma onlyLoads_loadFile (devID : δ) (directory name : String) :
    OnlyLoads s (s.loadFile devID directory name) := by
  rw [loadFile]
  split_ifs
  · refine ⟨_, rfl, ?_⟩
    rintro action haction
    rw [List.mem_singleton.mp haction]
  · exact onlyLoads_of_eq rfl

lemma onlyLoads_setDeviceProperties (devID : δ) (answers : DeviceAnswers) (result : SaveResult) :
    OnlyLoads s (s.setDeviceProperties devID answers result) := by
  rw [setDeviceProperties]
  cases s.devices.nextFileName answers.queried answers.status true with
  | some name => exact onlyLoads_loadFile _ _ _
  | none =>
    cases s.devices.nextFileName answers.queried answers.status false with
    | some name => exact onlyLoads_of_eq rfl
    | none => exact onlyLoads_of_eq rfl

lemma onlyLoads_moveDevice (move : ServiceDevices δ → δ → DeviceAnswers → ServiceDevices δ)
    (devID : δ) (answers : DeviceAnswers) (result : SaveResult) :
    OnlyLoads s (s.moveDevice move devID answers result) := by
  have hmoved : OnlyLoads s (if (s.devices.properties devID).isNone then
      s.setDeviceProperties devID (s.diskAnswers answers) result else s) := by
    split_ifs
    · exact onlyLoads_setDeviceProperties _ _ _
    · exact onlyLoads_of_eq rfl
  exact hmoved.trans (onlyLoads_of_eq rfl)

lemma onlyLoads_reloadFile (devID : δ) : OnlyLoads s (s.reloadFile devID) := by
  rw [reloadFile]
  split_ifs
  · exact onlyLoads_of_eq rfl
  · cases s.devices.properties devID with
    | none => exact onlyLoads_of_eq rfl
    | some device => exact onlyLoads_loadFile _ _ _

lemma onlyLoads_checkNotifyEvents (reads : List (List InotifyEvent)) :
    OnlyLoads s (s.checkNotifyEvents reads) := by
  have hloop : ∀ (devIDs : List δ) (s : ServiceDisk δ),
      OnlyLoads s (devIDs.foldl reloadFile s) := by
    intro devIDs
    induction devIDs with
    | nil => exact fun s => onlyLoads_of_eq rfl
    | cons devID devIDs ih => exact fun s => (onlyLoads_reloadFile devID).trans (ih _)
  exact (hloop _ s).trans (onlyLoads_of_eq rfl)

/-! ### Saves -/

/-- A save that overwrites a file keeps what was read in vain exactly when the file is spared. -/
lemma noneLost_saveDeviceConfigurationFile_iff (hkeeps : NoneLost s.actions)
    (hdevice : s.devices.startedDevices[devID]? = some device) (answer : DirectoryAnswer)
    (result : SaveResult) :
    NoneLost (s.saveDeviceConfigurationFile devID answer result).actions ↔
      s.Spares devID device result := by
  rw [saveDeviceConfigurationFile, hdevice, Spares]
  simp only [saveFile, writeFile]
  by_cases hoverwrites : (s.disk (s.devices.directory device.vendor)
    device.configFilePath).isRegularFile && result ≠ .openFails
  · rw [if_pos hoverwrites]
    simp only [Bool.and_eq_true, decide_eq_true_eq] at hoverwrites
    rw [remember, forall_prop_of_true hoverwrites.1, forall_prop_of_true hoverwrites.2, NoneLost,
      List.pairwise_append]
    constructor
    · rintro ⟨_, _, hspared⟩ hmem
      exact hspared _ hmem _ List.mem_cons_self ⟨rfl, rfl⟩
    · refine fun hspared => ⟨hkeeps, List.pairwise_singleton _ _, ?_⟩
      rintro ⟨kind, devID', directory, name⟩ hearlier later hlater ⟨hkind, heq⟩
      rw [List.mem_singleton.mp hlater] at heq
      cases hkind
      cases heq
      exact hspared hearlier
  · rw [if_neg hoverwrites]
    refine iff_of_true hkeeps fun hfile hopens => absurd ?_ hoverwrites
    rw [hfile, decide_eq_true hopens]
    rfl

/-- A macro that is recorded or cleared changes only the banks of the device. -/
lemma noneLost_change_iff (hkeeps : NoneLost s.actions)
    (hdevice : s.devices.startedDevices[devID]? = some device)
    {change : DeviceRecord → Option DeviceRecord} {GKeysBanks : BanksByID}
    (hchange : change device = some { device with GKeysBanks }) (answer : DirectoryAnswer)
    (result : SaveResult) :
    NoneLost ({ s with devices := s.devices.changeStarted devID change
      }.saveDeviceConfigurationFile devID answer result).actions ↔
        s.Spares devID device result := by
  have hchanged : s.devices.changeStarted devID change =
      { s.devices with
        startedDevices := s.devices.startedDevices.insert devID { device with GKeysBanks } } := by
    rw [ServiceDevices.changeStarted, hdevice, Option.bind_some, hchange]
  have hdevice' : { s with devices := s.devices.changeStarted devID change
      }.devices.startedDevices[devID]? = some { device with GKeysBanks } := by
    rw [hchanged, getElem?_insert_eq, if_pos rfl]
  rw [noneLost_saveDeviceConfigurationFile_iff (by exact hkeeps) hdevice' answer result, Spares,
    Spares, hchanged]

lemma noneLost_deviceMacroRecorded_iff (hkeeps : NoneLost s.actions) (devID : δ)
    (keyID : EnumByte) (events : MacroType) (answer : DirectoryAnswer) (result : SaveResult) :
    NoneLost (s.deviceMacroRecorded devID keyID events answer result).actions ↔
      s.SparesUnread (.deviceMacroRecorded devID keyID events answer result) := by
  rw [deviceMacroRecorded, SparesUnread]
  cases hlistens : s.listens with
  | false => exact iff_of_true hkeeps fun h => absurd h Bool.false_ne_true
  | true =>
    rw [forall_prop_of_true rfl]
    cases hdevice : s.devices.startedDevices[devID]? with
    | none =>
      apply iff_of_true hkeeps
      rintro device hsome
      cases hsome
    | some device =>
      simp only [Option.some.injEq, forall_eq']
      cases hbanks : device.GKeysBanks.setMacro device.currentBankID.byte keyID events with
      | error e =>
        apply iff_of_true hkeeps
        rintro ⟨banks, hok⟩
        cases hok
      | ok banks =>
        rw [forall_prop_of_true ⟨banks, rfl⟩]
        have hchange : (device.GKeysBanks.setMacro device.currentBankID.byte keyID
            events).toOption.map (fun GKeysBanks => { device with GKeysBanks }) =
              some { device with GKeysBanks := banks } := by
          rw [hbanks]
          rfl
        exact noneLost_change_iff hkeeps hdevice hchange answer result

lemma noneLost_deviceMacroCleared_iff (hkeeps : NoneLost s.actions) (devID : δ)
    (keyID : EnumByte) (answer : DirectoryAnswer) (result : SaveResult) :
    NoneLost (s.deviceMacroCleared devID keyID answer result).actions ↔
      s.SparesUnread (.deviceMacroCleared devID keyID answer result) := by
  rw [deviceMacroCleared, SparesUnread]
  cases hlistens : s.listens with
  | false => exact iff_of_true hkeeps fun h => absurd h Bool.false_ne_true
  | true =>
    rw [forall_prop_of_true rfl]
    cases hdevice : s.devices.startedDevices[devID]? with
    | none =>
      apply iff_of_true hkeeps
      rintro device hsome
      cases hsome
    | some device =>
      simp only [Option.some.injEq, forall_eq']
      rcases hbanks : device.GKeysBanks.clearMacro device.currentBankID.byte keyID with
        e | ⟨banks, _ | _⟩
      · apply iff_of_true hkeeps
        rintro ⟨banks, hok⟩
        cases hok
      · apply iff_of_true hkeeps
        rintro ⟨banks, hok⟩
        cases hok
      · rw [forall_prop_of_true ⟨banks, rfl⟩]
        have hchange : (device.GKeysBanks.clearMacro device.currentBankID.byte
            keyID).toOption.map (fun r => { device with GKeysBanks := r.1 }) =
              some { device with GKeysBanks := banks } := by
          rw [hbanks]
          rfl
        exact noneLost_change_iff hkeeps hdevice hchange answer result

/-! ### All steps -/

lemma noneLost_step_iff (hkeeps : NoneLost s.actions) (event : DiskEvent δ) :
    NoneLost (s.step event).actions ↔ s.SparesUnread event := by
  have honly : ∀ {s' : ServiceDisk δ}, OnlyLoads s s' → (NoneLost s'.actions ↔ True) :=
    fun h => iff_true_intro (h.noneLost_iff.mpr hkeeps)
  cases event with
  | writeFile => exact honly (onlyLoads_of_eq rfl)
  | setRegisterStatus => exact honly (onlyLoads_of_eq rfl)
  | setSessionState => exact honly (onlyLoads_of_eq rfl)
  | startDevice => exact honly (onlyLoads_moveDevice _ _ _ _)
  | stopDevice => exact honly (onlyLoads_moveDevice _ _ _ _)
  | unplugDevice => exact honly (onlyLoads_moveDevice _ _ _ _)
  | clearDevices => exact honly (onlyLoads_of_eq rfl)
  | checkNotifyEvents reads => exact honly (onlyLoads_checkNotifyEvents reads)
  | deviceMBankSwitch devID bankID =>
    refine honly (onlyLoads_of_eq ?_)
    rw [step, deviceMBankSwitch]
    split_ifs <;> rfl
  | deviceMacroRecorded => exact noneLost_deviceMacroRecorded_iff hkeeps _ _ _ _ _
  | deviceMacroCleared => exact noneLost_deviceMacroCleared_iff hkeeps _ _ _ _

/-! ### The devices alone -/

/-- The devices are changed by functions of the service only, with answers of the disk. -/
lemma devices_step (s : ServiceDisk δ) (event : DiskEvent δ) :
    ∃ devicesEvents, (s.step event).devices =
      Run.run ServiceDevices.step s.devices devicesEvents := by
  have hsave : ∀ (s : ServiceDisk δ) (devID : δ) answer result,
      ∃ devicesEvents, (s.saveDeviceConfigurationFile devID answer result).devices =
        Run.run ServiceDevices.step s.devices devicesEvents := by
    intro s devID answer result
    rw [saveDeviceConfigurationFile]
    cases s.devices.startedDevices[devID]? with
    | none => exact ⟨[], rfl⟩
    | some device => exact ⟨[.saveDeviceConfigurationFile devID answer], rfl⟩
  cases event with
  | writeFile => exact ⟨[], rfl⟩
  | setRegisterStatus => exact ⟨[], rfl⟩
  | setSessionState => exact ⟨[], rfl⟩
  | startDevice devID answers => exact ⟨[.startDevice devID (s.diskAnswers answers)], rfl⟩
  | stopDevice devID answers => exact ⟨[.stopDevice devID (s.diskAnswers answers)], rfl⟩
  | unplugDevice devID answers => exact ⟨[.unplugDevice devID (s.diskAnswers answers)], rfl⟩
  | clearDevices => exact ⟨[.clearDevices fun _ => s.diskAnswers {}], rfl⟩
  | checkNotifyEvents reads => exact ⟨[.checkNotifyEvents reads s.fileOf], rfl⟩
  | deviceMBankSwitch devID bankID =>
    rw [step, deviceMBankSwitch]
    split_ifs
    · exact ⟨[], rfl⟩
    · exact ⟨[.setDeviceCurrentBankID devID bankID], rfl⟩
  | deviceMacroRecorded devID keyID events answer result =>
    rw [step, deviceMacroRecorded]
    split_ifs
    · exact ⟨[], rfl⟩
    · split
      · exact ⟨[], rfl⟩
      · split
        · exact ⟨[], rfl⟩
        · obtain ⟨devicesEvents, hdevices⟩ := hsave
            { s with devices := s.devices.setDeviceMacro devID keyID events } devID answer result
          exact ⟨.setDeviceMacro devID keyID events :: devicesEvents, hdevices⟩
  | deviceMacroCleared devID keyID answer result =>
    rw [step, deviceMacroCleared]
    split_ifs
    · exact ⟨[], rfl⟩
    · split
      · exact ⟨[], rfl⟩
      · split
        · exact ⟨[], rfl⟩
        · simp only
          split_ifs
          · obtain ⟨devicesEvents, hdevices⟩ := hsave
              { s with devices := s.devices.clearDeviceMacro devID keyID } devID answer result
            exact ⟨.clearDeviceMacro devID keyID :: devicesEvents, hdevices⟩
          · exact ⟨[.clearDeviceMacro devID keyID], rfl⟩

/-- No file was overwritten after it could not be loaded. -/
def KeepsUnread (s : ServiceDisk δ) : Prop := NoneLost s.actions

/-- A service that has met no device yet. -/
def start (directory : String → String) (sessionState : String)
    (disk : String → String → DiskFile) : ServiceDisk δ :=
  { devices := { directory }, sessionState, disk }

end ServiceDisk

/-- A run on a disk is a run of the devices handler: what all those keep, such as the containers
apart (`ServiceDevices.disjointIDs_run`), holds on a disk. -/
theorem devices_run (directory : String → String) (sessionState : String)
    (disk : String → String → DiskFile) (events : List (DiskEvent δ)) :
    ∃ devicesEvents : List (DevicesEvent δ),
      (Run.run ServiceDisk.step (ServiceDisk.start directory sessionState disk) events).devices =
        Run.run ServiceDevices.step { directory } devicesEvents := by
  have hreach : Run.Reachable ServiceDisk.step (ServiceDisk.start directory sessionState disk)
      (Run.run ServiceDisk.step (ServiceDisk.start directory sessionState disk) events) :=
    ⟨events, rfl⟩
  let Runs : ServiceDisk δ → Prop := fun s => ∃ devicesEvents : List (DevicesEvent δ),
    s.devices = Run.run ServiceDevices.step { directory } devicesEvents
  have hstart : Runs (ServiceDisk.start directory sessionState disk) := ⟨[], rfl⟩
  apply hreach.induction hstart
  rintro s event ⟨devicesEvents, hdevices⟩
  obtain ⟨stepEvents, hstep⟩ := s.devices_step event
  exact ⟨devicesEvents ++ stepEvents, by rw [hstep, Run.run_append, ← hdevices]⟩

/-- In a run no file is overwritten after it could not be loaded for the device, exactly when every
macro that is recorded or cleared is one of a device whose file is spared. -/
theorem keepsUnread_run_iff (directory : String → String) (sessionState : String)
    (disk : String → String → DiskFile) (events : List (DiskEvent δ)) :
    Run.Steps ServiceDisk.step (fun s event => (s.step event).KeepsUnread)
        (ServiceDisk.start directory sessionState disk) events ↔
      Run.Steps ServiceDisk.step ServiceDisk.SparesUnread
        (ServiceDisk.start directory sessionState disk) events := by
  have hstart : (ServiceDisk.start directory sessionState disk : ServiceDisk δ).KeepsUnread :=
    List.Pairwise.nil
  have hok : ∀ (s : ServiceDisk δ) event, True → s.KeepsUnread →
      ((s.step event).KeepsUnread ↔ s.SparesUnread event) :=
    fun s event _ hkeeps => ServiceDisk.noneLost_step_iff hkeeps event
  exact Run.steps_iff_of_keeps trivial hstart (fun _ _ _ => trivial) hok events

/-- The file of a keyboard is no archive when the keyboard is started, and is overwritten when a
macro is recorded. -/
theorem not_keepsUnread_deviceMacroRecorded :
    ¬ ∀ (directory : String → String) (sessionState : String)
      (disk : String → String → DiskFile) (events : List (DiskEvent ℕ)),
      Run.Steps ServiceDisk.step (fun s event => (s.step event).KeepsUnread)
        (ServiceDisk.start directory sessionState disk) events := by
  intro h
  let answers : DeviceAnswers :=
    { properties := some ("Logitech", "Gaming Keyboard", "G510", Caps.macrosKeys.mask)
      MKeysIDArray := [1, 2, 3]
      GKeysIDArray := [1, 2, 3] }
  let disk : String → String → DiskFile := fun directory name =>
    if directory = "Logitech" ∧ name = "Gaming_Keyboard_G510_1.cfg" then .regularFile false none
    else .noRegularFile false
  let events : List (DiskEvent ℕ) :=
    [.setRegisterStatus true, .startDevice 0 answers .saved,
      .deviceMacroRecorded 0 1 [⟨30, .eventKeyPress, 0⟩, ⟨30, .eventKeyRelease, 5⟩] {} .saved]
  have hsteps := h id "active" disk events
  have hlost : ¬ NoneLost
      (Run.run ServiceDisk.step (ServiceDisk.start id "active" disk) events).actions := by
    decide +kernel
  exact hlost hsteps.2.2.1

end GLogiK
