import GLogiK.Lib.Run
import GLogiK.Service.DevicesHandler
import GLogiK.Service.FSNotify
import Mathlib.Data.Finset.Insert
import Mathlib.Logic.Function.Basic

/-!
# The configuration files of a service

`DevicesHandler` saves the properties of a device to its configuration file when a macro was
recorded or cleared, and reloads the file when it was written by another program. It tells the two
apart by `_ignoredFSNotifications`.
-/

namespace GLogiK

variable {δ : Type*} [LinearOrder δ]

/-! ### Files and devices -/

/-- `load` on a device; a file that can't be read leaves the device as it is. -/
def DeviceProperties.load (device : DeviceProperties) :
    Option DeviceConfiguration → DeviceProperties
  | some file => { file.load with currentBankID := device.currentBankID }
  | none      => { device with GKeysBanks := checkBanksKeys device.GKeysBanks }

/-- `loadDeviceConfigurationFile` on a device of the containers; `none` if it is not found. -/
def DevicesHandler.loadDeviceConfigurationFile (h : DevicesHandler δ) (devID : δ)
    (file : Option DeviceConfiguration) : Option (DevicesHandler δ) :=
  match h.startedDevices[devID]? with
  | some device => some (h.fileStarted devID (device.load file))
  | none => h.stoppedDevices[devID]?.map fun device => h.fileStopped devID (device.load file)

/-- What becomes of a file that is saved. A file that was opened and can't be written is left
unreadable, and may be notified when it is closed. -/
inductive SaveResult
  | saved
  | openFails
  | writeFails (notified : Bool)
  deriving DecidableEq, Repr

/-- A file was closed after it was written. The service can't see whether it was written by
another program. -/
structure FileWrite (δ : Type*) where
  devID : δ
  external : Bool
  deriving DecidableEq

/-- The devices of a service and their files. `notifications` are in the inotify queue, oldest
first, and `saved` are the `DeviceConfigurationSaved` signals that were sent. -/
structure ServiceFiles (δ : Type*) [LinearOrder δ] where
  devices : DevicesHandler δ := {}
  ignoredFSNotifications : Finset δ := ∅
  configFilePath : δ → String
  files : δ → Option DeviceConfiguration := fun _ => none
  fs : FSNotify := {}
  notifications : List (FileWrite δ) := []
  saved : List δ := []

namespace ServiceFiles

variable (s : ServiceFiles δ)

/-! ### Saving -/

def writeFile (devID : δ) (file : Option DeviceConfiguration) : ServiceFiles δ :=
  { s with files := Function.update s.files devID file }

def notify (devID : δ) (external : Bool) : ServiceFiles δ :=
  { s with notifications := s.notifications ++ [⟨devID, external⟩] }

def sendDeviceConfigurationSavedSignal (devID : δ) : ServiceFiles δ :=
  { s with saved := s.saved ++ [devID] }

/-- `DeviceConfigurationFile::save`, which never throws. -/
def save (devID : δ) (file : DeviceConfiguration) : SaveResult → ServiceFiles δ
  | .saved               => (s.writeFile devID (some file)).notify devID false
  | .openFails           => s
  | .writeFails notified =>
    if notified then (s.writeFile devID none).notify devID false else s.writeFile devID none

/-- The next notification of the device will be ignored. -/
def saveDeviceConfigurationFile (devID : δ) (result : SaveResult) : ServiceFiles δ :=
  match s.devices.startedDevices[devID]? with
  | none => s
  | some device =>
    let s := { s with ignoredFSNotifications := insert devID s.ignoredFSNotifications }
    (s.save devID device.toDeviceConfiguration result).sendDeviceConfigurationSavedSignal devID

/-- A service whose session is active handles the signal. -/
def deviceMacroRecorded (devID : δ) (keyID : GKeysID) (events : MacroType) (result : SaveResult) :
    ServiceFiles δ :=
  match s.devices.setDeviceMacro devID keyID events with
  | none         => s
  | some devices => { s with devices }.saveDeviceConfigurationFile devID result

def deviceMacroCleared (devID : δ) (keyID : GKeysID) (result : SaveResult) : ServiceFiles δ :=
  match s.devices.clearDeviceMacro devID keyID with
  | none         => s
  | some devices => { s with devices }.saveDeviceConfigurationFile devID result

/-! ### Reloading -/

/-- The device is sent to the daemon, and the GUI is informed. -/
def reloadDeviceConfigurationFile (devID : δ) : ServiceFiles δ :=
  if devID ∈ s.ignoredFSNotifications then
    { s with ignoredFSNotifications := s.ignoredFSNotifications.erase devID }
  else
    match s.devices.loadDeviceConfigurationFile devID (s.files devID) with
    | none         => s
    | some devices => { s with devices }.sendDeviceConfigurationSavedSignal devID

def getDevicesFilesMap : DevicesFilesMap δ :=
  (s.devices.startedDevices.keys ++ s.devices.stoppedDevices.keys).foldl
    (fun map devID => map.insertIfNew devID (s.configFilePath devID)) ∅

/-- The events of the directory of the file. -/
def inotifyEvents : List InotifyEvent :=
  s.notifications.map fun write => { wd := 0, name := some (s.configFilePath write.devID) }

/-- The service polls the inotify queue, and reads it when it is not empty. -/
def checkNotifyEvents : ServiceFiles δ :=
  if s.notifications = [] then s
  else
    let r := s.fs.readNotifyEvents s.getDevicesFilesMap [s.inotifyEvents]
    let s := { s with fs := r.1, notifications := [] }
    r.2.keys.foldl reloadDeviceConfigurationFile s

/-- Another program writes the file. -/
def writeExternally (devID : δ) (file : Option DeviceConfiguration) : ServiceFiles δ :=
  (s.writeFile devID file).notify devID true

variable {s} {devID : δ}

/-! ### The map of the files -/

/-- The device is in a container. -/
def Knows (s : ServiceFiles δ) (devID : δ) : Prop := (s.devices.properties devID).isSome

instance : Decidable (s.Knows devID) :=
  inferInstanceAs (Decidable ((s.devices.properties devID).isSome = true))

lemma getElem?_foldl_insertIfNew {β : Type*} (f : δ → β) (keys : List δ) (map : StdMap δ β)
    (devID : δ) :
    (keys.foldl (fun map devID => map.insertIfNew devID (f devID)) map)[devID]? =
      map[devID]?.or (if devID ∈ keys then some (f devID) else none) := by
  have hloop := @GLogiK.getElem?_foldl_insertIfNew δ _ _ map devID _ id f keys
  simp only [id_eq, find?_eq_of_mem] at hloop
  rw [hloop]
  split_ifs <;> rfl

lemma getElem?_getDevicesFilesMap (devID : δ) :
    s.getDevicesFilesMap[devID]? =
      if s.Knows devID then some (s.configFilePath devID) else none := by
  rw [getDevicesFilesMap, getElem?_foldl_insertIfNew, Std.ExtTreeMap.getElem?_empty, Option.none_or]
  refine if_congr ?_ rfl rfl
  rw [List.mem_append, Std.ExtTreeMap.mem_keys, Std.ExtTreeMap.mem_keys,
    Std.ExtTreeMap.mem_iff_isSome_getElem?, Std.ExtTreeMap.mem_iff_isSome_getElem?, Knows,
    DevicesHandler.properties, Option.isSome_or, Bool.or_eq_true]

/-- The devices whose files are reloaded: every notification is about a file of that name. -/
def Reloads (s : ServiceFiles δ) (devID : δ) : Prop :=
  s.Knows devID ∧ ∀ write ∈ s.notifications, s.configFilePath write.devID = s.configFilePath devID

instance : Decidable (s.Reloads devID) :=
  inferInstanceAs (Decidable (s.Knows devID ∧
    ∀ write ∈ s.notifications, s.configFilePath write.devID = s.configFilePath devID))

lemma mem_keys_readNotifyEvents (devID : δ) :
    devID ∈ (s.fs.readNotifyEvents s.getDevicesFilesMap [s.inotifyEvents]).2.keys ↔
      s.Reloads devID := by
  rw [Std.ExtTreeMap.mem_keys, Std.ExtTreeMap.mem_iff_isSome_getElem?, Option.isSome_iff_exists]
  simp only [FSNotify.readNotifyEvents_eq_some, getElem?_getDevicesFilesMap, inotifyEvents,
    InotifyEvent.Names, List.flatten_cons, List.flatten_nil, List.append_nil, List.mem_map,
    forall_exists_index, and_imp, forall_apply_eq_imp_iff₂, Option.some_inj, Reloads]
  constructor
  · rintro ⟨file, hknows, hnames⟩
    split_ifs at hknows with hknown
    cases hknows
    exact ⟨hknown, hnames⟩
  · rintro ⟨hknown, hnames⟩
    exact ⟨s.configFilePath devID, if_pos hknown, hnames⟩

/-! ### What a reload does to a device -/

/-- How a device comes out of a reload. -/
inductive Reload
  | untouched
  | ignored
  | loaded
  deriving DecidableEq

/-- A reload loads the file of the device or leaves the device as it is, and removes its ignore
entry. The GUI is informed of the device when its file was loaded. -/
structure Reloaded (devID : δ) (reload : Reload) (s s' : ServiceFiles δ) : Prop where
  properties : s'.devices.properties devID =
    if reload = .loaded then (s.devices.properties devID).map (·.load (s.files devID))
    else s.devices.properties devID
  started : s'.devices.startedDevices[devID]?.isSome = s.devices.startedDevices[devID]?.isSome
  ignored : devID ∈ s'.ignoredFSNotifications ↔
    devID ∈ s.ignoredFSNotifications ∧ reload = .untouched
  files : s'.files = s.files
  notifications : s'.notifications = s.notifications
  saved : ∃ new, s'.saved = s.saved ++ new ∧ (devID ∈ new ↔ reload = .loaded)

lemma reloaded_refl : Reloaded devID .untouched s s where
  properties := rfl
  started := rfl
  ignored := by simp
  files := rfl
  notifications := rfl
  saved := ⟨[], by simp⟩

/-- A device that a reload leaves untouched goes through the other one. -/
lemma Reloaded.trans_left {s' s'' : ServiceFiles δ} {reload : Reload}
    (h : Reloaded devID .untouched s s') (h' : Reloaded devID reload s' s'') :
    Reloaded devID reload s s'' := by
  obtain ⟨new, hsaved, hnew⟩ := h.saved
  obtain ⟨new', hsaved', hnew'⟩ := h'.saved
  constructor
  · rw [h'.properties, h.properties, h.files]
    rfl
  · rw [h'.started, h.started]
  · rw [h'.ignored, h.ignored]
    simp
  · rw [h'.files, h.files]
  · rw [h'.notifications, h.notifications]
  · refine ⟨new ++ new', ?_, ?_⟩
    · rw [hsaved', hsaved, List.append_assoc]
    · rw [List.mem_append, hnew, hnew']
      simp

lemma Reloaded.trans_right {s' s'' : ServiceFiles δ} {reload : Reload}
    (h : Reloaded devID reload s s') (h' : Reloaded devID .untouched s' s'') :
    Reloaded devID reload s s'' := by
  obtain ⟨new, hsaved, hnew⟩ := h.saved
  obtain ⟨new', hsaved', hnew'⟩ := h'.saved
  constructor
  · rw [h'.properties, h.properties]
    rfl
  · rw [h'.started, h.started]
  · rw [h'.ignored, h.ignored]
    simp
  · rw [h'.files, h.files]
  · rw [h'.notifications, h.notifications]
  · refine ⟨new ++ new', ?_, ?_⟩
    · rw [hsaved', hsaved, List.append_assoc]
    · rw [List.mem_append, hnew, hnew']
      simp

/-- A device is changed in the container in which it is. -/
lemma properties_loadDeviceConfigurationFile {h devices : DevicesHandler δ}
    {file : Option DeviceConfiguration} {id : δ}
    (hload : h.loadDeviceConfigurationFile id file = some devices) (devID : δ) :
    devices.properties devID =
        (if devID = id then (h.properties devID).map (·.load file) else h.properties devID) ∧
      devices.startedDevices[devID]?.isSome = h.startedDevices[devID]?.isSome := by
  simp only [DevicesHandler.loadDeviceConfigurationFile] at hload
  cases hstarted : h.startedDevices[id]? with
  | some device =>
    rw [hstarted] at hload
    cases hload
    simp only [DevicesHandler.properties, DevicesHandler.fileStarted_started,
      DevicesHandler.fileStarted_stopped]
    by_cases hid : devID = id
    · subst hid
      simp [hstarted]
    · simp [hid]
  | none =>
    rw [hstarted] at hload
    obtain ⟨device, hstopped, rfl⟩ := Option.map_eq_some_iff.mp hload
    simp only [DevicesHandler.properties, DevicesHandler.fileStopped_started,
      DevicesHandler.fileStopped_stopped]
    by_cases hid : devID = id
    · subst hid
      simp [hstarted, hstopped]
    · simp [hid]

lemma isSome_loadDeviceConfigurationFile {h : DevicesHandler δ} (devID : δ)
    (file : Option DeviceConfiguration) :
    (h.loadDeviceConfigurationFile devID file).isSome = (h.properties devID).isSome := by
  simp only [DevicesHandler.loadDeviceConfigurationFile, DevicesHandler.properties]
  cases h.startedDevices[devID]? with
  | some device => rfl
  | none => simp

/-- One device is reloaded. -/
lemma reloaded_reloadDeviceConfigurationFile {id : δ} (hknown : s.Knows id) (devID : δ) :
    Reloaded devID
      (if devID = id then if id ∈ s.ignoredFSNotifications then .ignored else .loaded
        else .untouched) s (s.reloadDeviceConfigurationFile id) := by
  simp only [reloadDeviceConfigurationFile]
  by_cases hignored : id ∈ s.ignoredFSNotifications
  · simp only [if_pos hignored]
    constructor
    · split_ifs <;> simp_all
    · rfl
    · by_cases hid : devID = id <;> simp [hid]
    · rfl
    · rfl
    · refine ⟨[], by simp, ?_⟩
      split_ifs <;> simp
  · simp only [if_neg hignored]
    obtain ⟨devices, hdevices⟩ := Option.isSome_iff_exists.mp
      ((isSome_loadDeviceConfigurationFile id (s.files id)).trans hknown)
    obtain ⟨hproperties, hstarted⟩ := properties_loadDeviceConfigurationFile hdevices devID
    simp only [hdevices]
    constructor
    · rw [sendDeviceConfigurationSavedSignal, hproperties]
      by_cases hid : devID = id <;> simp [hid]
    · exact hstarted
    · by_cases hid : devID = id <;> simp [hid, hignored, sendDeviceConfigurationSavedSignal]
    · rfl
    · rfl
    · refine ⟨[id], rfl, ?_⟩
      by_cases hid : devID = id <;> simp [hid]

lemma Reloaded.knows {s' : ServiceFiles δ} {reload : Reload} (h : Reloaded devID reload s s') :
    s'.Knows devID ↔ s.Knows devID := by
  rw [Knows, Knows, h.properties]
  split_ifs <;> simp

/-- All devices of the map are reloaded. -/
lemma reloaded_foldl {keys : List δ} (hnodup : keys.Nodup) (hknown : ∀ id ∈ keys, s.Knows id)
    (devID : δ) :
    Reloaded devID
      (if devID ∈ keys then if devID ∈ s.ignoredFSNotifications then .ignored else .loaded
        else .untouched) s (keys.foldl reloadDeviceConfigurationFile s) := by
  induction keys generalizing s with
  | nil => exact reloaded_refl
  | cons id keys ih =>
    have hreload := fun devID => reloaded_reloadDeviceConfigurationFile
      (hknown id List.mem_cons_self) devID
    obtain ⟨hid, hnodup⟩ := List.nodup_cons.mp hnodup
    have hkeys := ih hnodup fun id' hmem =>
      (hreload id').knows.mpr (hknown id' (List.mem_cons_of_mem _ hmem))
    rw [List.foldl_cons]
    have hone := hreload devID
    by_cases hdevID : devID = id
    · subst hdevID
      rw [if_neg hid] at hkeys
      rw [if_pos rfl] at hone
      rw [if_pos List.mem_cons_self]
      exact hone.trans_right hkeys
    · rw [if_neg hdevID] at hone
      have hignored : (devID ∈ (s.reloadDeviceConfigurationFile id).ignoredFSNotifications) =
          (devID ∈ s.ignoredFSNotifications) := by
        rw [hone.ignored]
        simp
      simp only [hignored] at hkeys
      simp only [List.mem_cons, hdevID, false_or]
      exact hone.trans_left hkeys

/-- The queue is read: the devices that it is about are reloaded. -/
lemma reloaded_checkNotifyEvents (hne : s.notifications ≠ []) (devID : δ) :
    Reloaded devID
      (if s.Reloads devID then if devID ∈ s.ignoredFSNotifications then .ignored else .loaded
        else .untouched)
      { s with notifications := [] } s.checkNotifyEvents := by
  rw [checkNotifyEvents, if_neg hne]
  have hkeys := mem_keys_readNotifyEvents (s := s)
  have hreloaded := reloaded_foldl (s := { s with
      fs := (s.fs.readNotifyEvents s.getDevicesFilesMap [s.inotifyEvents]).1
      notifications := [] })
    (Std.ExtTreeMap.nodup_keys
      (t := (s.fs.readNotifyEvents s.getDevicesFilesMap [s.inotifyEvents]).2))
    (fun id hid => ((hkeys id).mp hid).1) devID
  simp only [hkeys] at hreloaded
  exact ⟨hreloaded.properties, hreloaded.started, hreloaded.ignored, hreloaded.files,
    hreloaded.notifications, hreloaded.saved⟩

end ServiceFiles

end GLogiK
