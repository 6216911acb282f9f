import GLogiK.GUI.MainWindow
import GLogiK.Service.Notifications

/-!
# Updates that the window overwrites

The service and the window write the same files from their own copies. A recorded macro should stay
in the file and in the service until its key is changed.
-/

namespace GLogiK

variable {δ : Type*} [LinearOrder δ]

/-! ### Banks that have the recorded macros -/

/-- The banks have all recorded macros. -/
def Remains (recorded : BanksMap) (banks : Option BanksMap) : Prop := ∀ bankID keyID event,
  recorded bankID keyID = some event → (banks.bind fun banks => banks bankID keyID) = some event

section

variable {recorded recorded' banks banks' : BanksMap}

lemma remains_empty (banks : Option BanksMap) : Remains (fun _ _ => none) banks :=
  fun _ _ _ hnone => nomatch hnone

/-- The keys whose macro is not kept may be changed. -/
lemma Remains.change (h : Remains recorded (some banks)) (heq : ∀ bankID keyID,
    recorded' bankID keyID ≠ none →
      recorded' bankID keyID = recorded bankID keyID ∧ banks' bankID keyID = banks bankID keyID) :
    Remains recorded' (some banks') := by
  intro bankID keyID event hrecorded
  have hne : recorded' bankID keyID ≠ none := by
    rw [hrecorded]
    exact Option.some_ne_none event
  obtain ⟨hsame, hbanks⟩ := heq bankID keyID hne
  show banks' bankID keyID = some event
  rw [hbanks]
  apply h bankID keyID event
  rw [← hsame, hrecorded]

/-- A macro is recorded, and set in the banks. -/
lemma Remains.setKey (h : Remains recorded (some banks)) (bankID : MKeysID) (keyID : GKeysID)
    (event : GKeysEvent) :
    Remains (updateKey recorded bankID keyID (some event))
      (some (GLogiK.setKey banks bankID keyID event)) := by
  intro bankID' keyID' event' hrecorded
  show GLogiK.setKey banks bankID keyID event bankID' keyID' = some event'
  simp only [updateKey] at hrecorded
  simp only [GLogiK.setKey]
  split_ifs at hrecorded ⊢ with hkey
  · exact hrecorded
  · exact h bankID' keyID' event' hrecorded

/-- A key is changed, and its macro is not kept any more. -/
lemma Remains.forget (h : Remains recorded (some banks)) {bankID : MKeysID} {keyID : GKeysID}
    (heq : ∀ bankID' keyID', ¬ (bankID' = bankID ∧ keyID' = keyID) →
      recorded bankID' keyID' ≠ none → banks' bankID' keyID' = banks bankID' keyID') :
    Remains (updateKey recorded bankID keyID none) (some banks') := by
  apply h.change
  intro bankID' keyID' hne
  simp only [updateKey] at hne ⊢
  split_ifs at hne ⊢ with hkey
  · exact absurd rfl hne
  · exact ⟨rfl, heq bankID' keyID' hkey hne⟩

/-- A file that has the macros is loaded. Invalid keys are dropped then. -/
lemma Remains.load {file : Option DeviceConfiguration} {device : Option DeviceProperties}
    (hvalid : ∀ bankID, recorded bankID GKeyID_INV = none)
    (hfile : Remains recorded (file.map (·.GKeysBanks)))
    (hdevice : Remains recorded (device.map (·.GKeysBanks))) :
    Remains recorded ((device.map (·.load file)).map (·.GKeysBanks)) := by
  intro bankID keyID event hrecorded
  have hkey : keyID ≠ GKeyID_INV := by
    rintro rfl
    rw [hvalid] at hrecorded
    cases hrecorded
  have hin := hfile bankID keyID event hrecorded
  have hold := hdevice bankID keyID event hrecorded
  cases file with
  | none => cases hin
  | some file =>
    cases device with
    | none => cases hold
    | some device =>
      show checkBanksKeys file.GKeysBanks bankID keyID = some event
      rw [checkBanksKeys, if_neg hkey]
      exact hin

end

namespace Desktop

variable (s : Desktop δ)

/-- The recorded macros are in the files and in the service. -/
structure KeepsMacros : Prop where
  file : ∀ devID, Remains (s.recorded devID) ((s.service.files devID).map (·.GKeysBanks))
  service : ∀ devID, Remains (s.recorded devID)
    ((s.service.devices.properties devID).map (·.GKeysBanks))

end Desktop

/-- The key that a tab changes. -/
def TabApplyButton.Changes : TabApplyButton → MKeysID → GKeysID → Prop
  | .tabGKeys bankID keyID _ _, bankID', keyID' => bankID' = bankID ∧ keyID' = keyID
  | _, _, _ => False

instance (tab : TabApplyButton) (bankID : MKeysID) (keyID : GKeysID) :
    Decidable (tab.Changes bankID keyID) :=
  match tab with
  | .tabGKeys .. => inferInstanceAs (Decidable (_ ∧ _))
  | .tabBacklight .. | .tabLCDPlugins .. => inferInstanceAs (Decidable False)

omit [LinearOrder δ] in
/-- The tab changes no other key of what was opened. -/
lemma MainWindow.change_spec {w : MainWindow δ} {tab : TabApplyButton} {opened : DeviceProperties}
    (hchange : w.change tab = some opened) {bankID : MKeysID} {keyID : GKeysID}
    (hkey : ¬ tab.Changes bankID keyID) :
    opened.GKeysBanks bankID keyID = w.openedConfigurationFile.GKeysBanks bankID keyID := by
  cases tab with
  | tabBacklight RGB =>
    cases hchange
    rfl
  | tabLCDPlugins mask =>
    cases hchange
    rfl
  | tabGKeys bankID' keyID' eventType command =>
    obtain ⟨event, -, rfl⟩ := Option.map_eq_some_iff.mp hchange
    exact if_neg hkey

namespace Desktop

/-- What the window opened is what the file has, but for the key that the tab changes. -/
def UpToDate (s : Desktop δ) (tab : TabApplyButton) : Prop :=
  ∀ id ∈ s.window.configurationFilePath, ∀ file ∈ s.service.files id, ∀ bankID keyID,
    keyID ≠ GKeyID_INV → ¬ tab.Changes bankID keyID →
      s.window.openedConfigurationFile.GKeysBanks bankID keyID = file.GKeysBanks bankID keyID

/-- Files that are saved are written, and no tab writes a configuration that is out of date. -/
def WritesUpToDate (s : Desktop δ) : DesktopEvent δ → Prop
  | .deviceMacroRecorded devID keyID events result =>
    (s.service.devices.setDeviceMacro devID keyID events).isSome → result = .saved
  | .deviceMacroCleared devID keyID result =>
    (s.service.devices.clearDeviceMacro devID keyID).isSome → result = .saved
  | .apply tab result =>
    (s.window.written tab).isSome → result = .saved ∧ s.UpToDate tab
  | _ => True

end Desktop

/-! ### The devices of the service -/

lemma ServiceFiles.Reloaded.loaded_or_kept {s s' : ServiceFiles δ} {devID : δ} {reload : Reload}
    (h : Reloaded devID reload s s') :
    s'.devices.properties devID = (s.devices.properties devID).map (·.load (s.files devID)) ∨
      s'.devices.properties devID = s.devices.properties devID := by
  rw [h.properties]
  split_ifs
  · exact Or.inl rfl
  · exact Or.inr rfl

namespace DevicesHandler

variable {h : DevicesHandler δ} {devID : δ}

lemma bank_of_started {device : DeviceProperties}
    (hdevice : h.startedDevices[devID]? = some device) : h.bank devID = device.currentBankID := by
  rw [bank, properties, hdevice]
  rfl

lemma properties_fileStarted (device : DeviceProperties) (id : δ) :
    (h.fileStarted devID device).properties id =
      if id = devID then some device else h.properties id := by
  rw [properties, fileStarted_started, fileStarted_stopped, properties]
  split_ifs <;> rfl

lemma properties_startDevice (loaded : DeviceConfiguration) (hknown : (h.properties devID).isSome)
    (id : δ) : (h.startDevice devID loaded).properties id = h.properties id := by
  rw [properties, startDevice_started, startDevice_stopped]
  split_ifs with hid
  · obtain ⟨device, hdevice⟩ := Option.isSome_iff_exists.mp hknown
    rw [hid, hdevice]
    rfl
  · rfl

lemma properties_stopDevice (loaded : DeviceConfiguration) (hknown : (h.properties devID).isSome)
    (id : δ) : (h.stopDevice devID loaded).properties id = h.properties id := by
  rw [properties, stopDevice_started, stopDevice_stopped]
  split_ifs with hid
  · obtain ⟨device, hdevice⟩ := Option.isSome_iff_exists.mp hknown
    rw [hid, hdevice]
    rfl
  · rfl

/-- The bank switch keeps the keys. -/
lemma banks_setDeviceCurrentBankID (bankID : MKeysID) (id : δ) :
    ((h.setDeviceCurrentBankID devID bankID).properties id).map (·.GKeysBanks) =
      (h.properties id).map (·.GKeysBanks) := by
  simp only [setDeviceCurrentBankID]
  cases hdevice : h.startedDevices[devID]? with
  | none => rfl
  | some device =>
    show ((h.fileStarted devID { device with currentBankID := bankID }).properties id).map _ = _
    rw [properties_fileStarted]
    split_ifs with hid
    · rw [hid, properties, hdevice]
      rfl
    · rfl

end DevicesHandler

namespace Desktop

variable {s : Desktop δ} {devID : δ}

/-! ### What the steps keep -/

/-- Macros are recorded for valid keys. -/
structure Invariant (s : Desktop δ) : Prop extends s.KeepsMacros where
  valid : ∀ devID bankID, s.recorded devID bankID GKeyID_INV = none

/-- A step that changes neither files nor keys. -/
lemma Invariant.of_eq (h : s.Invariant) {s' : Desktop δ} (hrecorded : s'.recorded = s.recorded)
    (hfiles : s'.service.files = s.service.files)
    (hbanks : ∀ devID, (s'.service.devices.properties devID).map (·.GKeysBanks) =
      (s.service.devices.properties devID).map (·.GKeysBanks)) : s'.Invariant := by
  refine ⟨⟨?_, ?_⟩, ?_⟩
  · intro devID
    rw [hrecorded, hfiles]
    exact h.file devID
  · intro devID
    rw [hrecorded, hbanks]
    exact h.service devID
  · intro devID bankID
    rw [hrecorded]
    exact h.valid devID bankID

/-- A step that is about one device. -/
lemma Invariant.update (h : s.Invariant) {s' : Desktop δ} {recorded : BanksMap}
    (hrecorded : s'.recorded = Function.update s.recorded devID recorded)
    (hvalid : ∀ bankID, recorded bankID GKeyID_INV = none)
    (hfile : Remains recorded ((s'.service.files devID).map (·.GKeysBanks)))
    (hbanks : Remains recorded ((s'.service.devices.properties devID).map (·.GKeysBanks)))
    (hother : ∀ id ≠ devID, s'.service.files id = s.service.files id ∧
      s'.service.devices.properties id = s.service.devices.properties id) : s'.Invariant := by
  have hself : s'.recorded devID = recorded := by
    rw [hrecorded, Function.update_self]
  have hne : ∀ id ≠ devID, s'.recorded id = s.recorded id := by
    intro id hid
    rw [hrecorded, Function.update_of_ne hid]
  refine ⟨⟨?_, ?_⟩, ?_⟩
  · intro id
    by_cases hid : id = devID
    · rw [hid, hself]
      exact hfile
    · rw [hne id hid, (hother id hid).1]
      exact h.file id
  · intro id
    by_cases hid : id = devID
    · rw [hid, hself]
      exact hbanks
    · rw [hne id hid, (hother id hid).2]
      exact h.service id
  · intro id bankID
    by_cases hid : id = devID
    · rw [hid, hself]
      exact hvalid bankID
    · rw [hne id hid]
      exact h.valid id bankID

/-- The keys of a started device are changed, and its file is saved. -/
lemma Invariant.save (h : s.Invariant) (devID : δ) (device : DeviceProperties)
    {banks recorded : BanksMap} (hbanks : Remains recorded (some banks))
    (hvalid : ∀ bankID, recorded bankID GKeyID_INV = none) :
    Invariant { s.serve ({ s.service with
        devices := s.service.devices.fileStarted devID { device with GKeysBanks := banks }
        }.saveDeviceConfigurationFile devID .saved) with
      recorded := Function.update s.recorded devID recorded } := by
  have hproperties := fun id => @DevicesHandler.properties_fileStarted δ _ s.service.devices devID
    { device with GKeysBanks := banks } id
  have hstarted : (s.service.devices.fileStarted devID
      { device with GKeysBanks := banks }).startedDevices[devID]? =
        some { device with GKeysBanks := banks } := by
    rw [DevicesHandler.fileStarted_started, if_pos rfl]
  simp only [ServiceFiles.saveDeviceConfigurationFile, hstarted]
  apply h.update rfl hvalid
  · show Remains recorded ((Function.update s.service.files devID _ devID).map _)
    rw [Function.update_self]
    exact hbanks
  · show Remains recorded (((s.service.devices.fileStarted devID _).properties devID).map _)
    rw [hproperties, if_pos rfl]
    exact hbanks
  · intro id hid
    constructor
    · exact Function.update_of_ne hid _ _
    · exact (hproperties id).trans (if_neg hid)

lemma KeepsMacros.of_started (h : s.KeepsMacros) {device : DeviceProperties}
    (hdevice : s.service.devices.startedDevices[devID]? = some device) :
    Remains (s.recorded devID) (some device.GKeysBanks) := by
  have hbanks := h.service devID
  rw [DevicesHandler.properties, hdevice] at hbanks
  exact hbanks

lemma Invariant.deviceMacroRecorded (h : s.Invariant) {keyID : GKeysID} {events : MacroType}
    {result : SaveResult} (hresult : (s.service.devices.setDeviceMacro devID keyID events).isSome →
      result = .saved) : (s.deviceMacroRecorded devID keyID events result).Invariant := by
  simp only [Desktop.deviceMacroRecorded, ServiceFiles.deviceMacroRecorded]
  cases hset : s.service.devices.setDeviceMacro devID keyID events with
  | none =>
    rw [if_neg fun hsome => nomatch hsome.2]
    exact h.of_eq rfl rfl fun _ => rfl
  | some devices =>
    obtain ⟨device, hdevice, hset'⟩ := Option.bind_eq_some_iff.mp hset
    obtain ⟨banks, hbanks, rfl⟩ := Option.map_eq_some_iff.mp hset'
    rw [hresult (by rw [hset]; rfl)]
    have hbank := DevicesHandler.bank_of_started hdevice
    have hremains := h.of_started hdevice
    simp only [setMacro] at hbanks
    by_cases hkey : keyID = GKeyID_INV
    · -- the service skips the key, and saves the file all the same
      rw [if_pos hkey] at hbanks
      cases hbanks
      rw [if_neg fun hvalid => hvalid.1 hkey]
      have hsave := h.save devID device hremains (h.valid devID)
      rw [Function.update_eq_self] at hsave
      exact hsave
    · rw [if_neg hkey] at hbanks
      split_ifs at hbanks with hsize
      obtain ⟨event, -, rfl⟩ := Option.map_eq_some_iff.mp hbanks
      rw [if_pos ⟨hkey, rfl⟩, hbank]
      apply h.save devID device (hremains.setKey _ _ _)
      intro bankID
      rw [updateKey, if_neg fun heq => hkey heq.2.symm]
      exact h.valid devID bankID

lemma Invariant.deviceMacroCleared (h : s.Invariant) {keyID : GKeysID}
    {result : SaveResult} (hresult : (s.service.devices.clearDeviceMacro devID keyID).isSome →
      result = .saved) : (s.deviceMacroCleared devID keyID result).Invariant := by
  simp only [Desktop.deviceMacroCleared, ServiceFiles.deviceMacroCleared]
  cases hclear : s.service.devices.clearDeviceMacro devID keyID with
  | none =>
    rw [if_neg fun hsome => nomatch hsome]
    exact h.of_eq rfl rfl fun _ => rfl
  | some devices =>
    obtain ⟨device, hdevice, hclear'⟩ := Option.bind_eq_some_iff.mp hclear
    obtain ⟨banks, hbanks, rfl⟩ := Option.map_eq_some_iff.mp hclear'
    rw [hresult (by rw [hclear]; rfl)]
    have hbank := DevicesHandler.bank_of_started hdevice
    have hremains := h.of_started hdevice
    simp only [clearMacro] at hbanks
    split_ifs at hbanks with hkey
    cases hevent : device.GKeysBanks device.currentBankID keyID with
    | none =>
      rw [hevent] at hbanks
      cases hbanks
    | some event =>
      simp only [hevent] at hbanks
      split_ifs at hbanks with hmacro
      cases hbanks
      rw [if_pos Option.isSome_some, hbank]
      apply h.save devID device (hremains.forget ?_)
      · intro bankID
        rw [updateKey]
        split_ifs
        · rfl
        · exact h.valid devID bankID
      · intro bankID' keyID' hne _
        exact if_neg hne

lemma Invariant.checkNotifyEvents (h : s.Invariant) :
    (s.serve s.service.checkNotifyEvents).Invariant := by
  by_cases hne : s.service.notifications = []
  · have hcheck : s.service.checkNotifyEvents = s.service := if_pos hne
    rw [hcheck]
    exact h.of_eq rfl rfl fun _ => rfl
  · have hreloaded := fun devID => ServiceFiles.reloaded_checkNotifyEvents hne devID
    refine ⟨⟨?_, ?_⟩, h.valid⟩
    · intro devID
      show Remains (s.recorded devID) ((s.service.checkNotifyEvents.files devID).map _)
      rw [(hreloaded devID).files]
      exact h.file devID
    · intro devID
      show Remains (s.recorded devID)
        ((s.service.checkNotifyEvents.devices.properties devID).map _)
      rcases (hreloaded devID).loaded_or_kept with hloaded | hkept
      · rw [hloaded]
        exact Remains.load (h.valid devID) (h.file devID) (h.service devID)
      · rw [hkept]
        exact h.service devID

/-- A configuration that is up to date is written. -/
lemma Invariant.write (h : s.Invariant) {tab : TabApplyButton} {id : δ} {opened : DeviceProperties}
    (hpath : s.window.configurationFilePath = some id) (hchange : s.window.change tab = some opened)
    (hup : s.UpToDate tab) (recorded : BanksMap)
    (hkept : ∀ bankID keyID event, recorded bankID keyID = some event →
      s.recorded id bankID keyID = some event ∧ ¬ tab.Changes bankID keyID)
    {s' : Desktop δ} (hrecorded : s'.recorded = Function.update s.recorded id recorded)
    (hservice : s'.service =
      s.service.saveExternally id opened.toDeviceConfiguration .saved) : s'.Invariant := by
  apply h.update hrecorded
  · intro bankID
    cases hevent : recorded bankID GKeyID_INV with
    | none => rfl
    | some event =>
      have hold := (hkept _ _ _ hevent).1
      rw [h.valid] at hold
      cases hold
  · rw [hservice]
    show Remains recorded ((Function.update s.service.files id _ id).map _)
    rw [Function.update_self]
    intro bankID keyID event hevent
    obtain ⟨hold, hkey⟩ := hkept bankID keyID event hevent
    have hvalid : keyID ≠ GKeyID_INV := by
      rintro rfl
      rw [h.valid] at hold
      cases hold
    have hin := h.file id bankID keyID event hold
    cases hfile : s.service.files id with
    | none =>
      rw [hfile] at hin
      cases hin
    | some file =>
      rw [hfile] at hin
      show opened.GKeysBanks bankID keyID = some event
      rw [MainWindow.change_spec hchange hkey, hup id hpath file hfile bankID keyID hvalid hkey]
      exact hin
  · rw [hservice]
    intro bankID keyID event hevent
    exact h.service id bankID keyID event (hkept _ _ _ hevent).1
  · intro id' hid
    rw [hservice]
    exact ⟨Function.update_of_ne hid _ _, rfl⟩

lemma Invariant.saveConfigurationFile (h : s.Invariant) {tab : TabApplyButton} {result : SaveResult}
    (hwrites : (s.window.written tab).isSome → result = .saved ∧ s.UpToDate tab) :
    (s.saveConfigurationFile tab result).Invariant := by
  simp only [Desktop.saveConfigurationFile]
  cases hwritten : s.window.written tab with
  | none => exact h
  | some written =>
    obtain ⟨rfl, hup⟩ := hwrites (by rw [hwritten]; rfl)
    simp only [MainWindow.written] at hwritten
    split_ifs at hwritten
    obtain ⟨id, hpath, hwritten'⟩ := Option.bind_eq_some_iff.mp hwritten
    obtain ⟨opened, hchange, rfl⟩ := Option.map_eq_some_iff.mp hwritten'
    cases tab with
    | tabBacklight RGB =>
      apply h.write hpath hchange hup (s.recorded id)
      · exact fun _ _ _ hevent => ⟨hevent, not_false⟩
      · exact (Function.update_eq_self id s.recorded).symm
      · rfl
    | tabLCDPlugins mask =>
      apply h.write hpath hchange hup (s.recorded id)
      · exact fun _ _ _ hevent => ⟨hevent, not_false⟩
      · exact (Function.update_eq_self id s.recorded).symm
      · rfl
    | tabGKeys bankID keyID eventType command =>
      apply h.write hpath hchange hup (updateKey (s.recorded id) bankID keyID none)
      · intro bankID' keyID' event hevent
        simp only [updateKey] at hevent
        split_ifs at hevent with hkey
        exact ⟨hevent, hkey⟩
      · rfl
      · rfl

lemma Invariant.step (h : s.Invariant) (event : DesktopEvent δ) (hwrites : s.WritesUpToDate event) :
    (s.step event).Invariant := by
  cases event with
  | deviceMacroRecorded devID keyID events result => exact h.deviceMacroRecorded hwrites
  | deviceMacroCleared devID keyID result => exact h.deviceMacroCleared hwrites
  | setDeviceCurrentBankID devID bankID =>
    exact h.of_eq rfl rfl fun id => DevicesHandler.banks_setDeviceCurrentBankID bankID id
  | startDevice devID =>
    simp only [Desktop.step, Desktop.startDevice]
    split_ifs with hknows
    · refine h.of_eq rfl rfl fun id => ?_
      exact congrArg _ (DevicesHandler.properties_startDevice {} hknows id)
    · exact h
  | stopDevice devID =>
    simp only [Desktop.step, Desktop.stopDevice]
    split_ifs with hknows
    · refine h.of_eq rfl rfl fun id => ?_
      exact congrArg _ (DevicesHandler.properties_stopDevice {} hknows id)
    · exact h
  | checkNotifyEvents => exact h.checkNotifyEvents
  | select index =>
    simp only [Desktop.step, Desktop.select]
    split_ifs
    · exact h
    · exact h.of_eq rfl rfl fun _ => rfl
  | apply tab result =>
    simp only [Desktop.step, saveConfigurationFileAndUpdateInterface]
    split_ifs
    · exact (h.saveConfigurationFile hwrites).of_eq rfl rfl fun _ => rfl
    · exact h
  | handleSignal =>
    simp only [Desktop.step, Desktop.handleSignal]
    split_ifs
    · exact h
    · cases s.signals with
      | nil => exact h
      | cons signal signals =>
        cases signal with
        | deviceConfigurationSaved devID => exact h.of_eq rfl rfl fun _ => rfl
        | devicesUpdated => exact h.of_eq rfl rfl fun _ => rfl
  | closeMessageBox =>
    simp only [Desktop.step, Desktop.closeMessageBox]
    split_ifs
    · exact h.of_eq rfl rfl fun _ => rfl
    · exact h

/-- A window that has just loaded a file is up to date. -/
lemma upToDate_updateInterface {id : δ} (hstarted : s.window.devices id = some .started)
    (tab : TabApplyButton) : (s.updateInterface (some id)).UpToDate tab := by
  have hwindow : (s.updateInterface (some id)).window = { s.window with
      devID := some id
      configurationFilePath := some id
      openedConfigurationFile := s.window.openedConfigurationFile.load (s.service.files id)
      tabsEnabled := true } := by
    rw [Desktop.updateInterface, MainWindow.updateInterface, hstarted]
  intro id' hpath file hfile bankID keyID hkey _
  rw [hwindow] at hpath
  cases hpath
  have hfile' : s.service.files id = some file := hfile
  rw [hwindow]
  show (s.window.openedConfigurationFile.load (s.service.files id)).GKeysBanks bankID keyID = _
  rw [hfile']
  exact if_neg hkey

/-- All signals and notifications are handled. -/
def Handled (s : Desktop δ) : Prop :=
  s.signals = [] ∧ s.service.notifications = [] ∧ s.window.messageBox = false

end Desktop

/-- In a run in which the files that are saved are written, and in which no tab writes a
configuration that is out of date, the recorded macros are kept in every state. -/
theorem keepsMacros_of_writesUpToDate (service : ServiceFiles δ) (window : MainWindow δ)
    (signals : List (ServiceSignal δ)) (events : List (DesktopEvent δ))
    (h : Run.Steps Desktop.step Desktop.WritesUpToDate { service, window, signals } events)
    (before : List (DesktopEvent δ)) (hbefore : before <+: events) :
    (Run.run Desktop.step { service, window, signals } before).KeepsMacros := by
  have hstart : Desktop.Invariant { service, window, signals } :=
    ⟨⟨fun _ => remains_empty _, fun _ => remains_empty _⟩, fun _ _ => rfl⟩
  have hend := (h.of_isPrefix hbefore).induction hstart
    fun s event hs hwrites => hs.step event hwrites
  exact hend.toKeepsMacros

/-- The configuration file of the keyboard. -/
def g510Configuration : DeviceConfiguration where
  GKeysBanks _ keyID := if keyID = 1 then some {} else none

/-- The keyboard of the service, and a window that lists it. -/
def g510Desktop : Desktop ℕ where
  service := { g510Service with files := fun _ => some g510Configuration }
  window := { devices := fun id => if id = 0 then some .started else none }

/-- The window loads the file that has the macro, and applies a color. -/
theorem keepsMacros_g510 : (Run.run Desktop.step g510Desktop
    [.deviceMacroRecorded 0 1 strokeA .saved, .checkNotifyEvents, .select (some 0),
      .apply (.tabBacklight ⟨255, 0, 0⟩) .saved]).KeepsMacros := by
  apply keepsMacros_of_writesUpToDate _ _ _ _ _ _ List.prefix_rfl
  refine ⟨fun _ => rfl, trivial, trivial, fun _ => ⟨rfl, ?_⟩, trivial⟩
  have hstarted : (Run.run Desktop.step g510Desktop
      [.deviceMacroRecorded 0 1 strokeA .saved, .checkNotifyEvents]).window.devices 0 =
        some .started := by
    decide +kernel
  exact Desktop.upToDate_updateInterface hstarted (.tabBacklight ⟨255, 0, 0⟩)

/-- The window ignores the signal of a macro that was recorded before the service read the
notification of the window's own write. The next color that is applied overwrites the macro. -/
theorem not_keepsMacros_ignoredSignal :
    let s := Run.run Desktop.step g510Desktop
      [.select (some 0), .apply (.tabBacklight ⟨255, 0, 0⟩) .saved,
        .deviceMacroRecorded 0 1 strokeA .saved, .handleSignal, .checkNotifyEvents,
        .apply (.tabBacklight ⟨0, 0, 255⟩) .saved, .checkNotifyEvents, .handleSignal]
    s.Handled ∧ ¬ s.KeepsMacros := by
  intro s
  refine ⟨⟨?_, ?_, ?_⟩, ?_⟩
  · decide +kernel
  · decide +kernel
  · decide +kernel
  · intro hkeeps
    have hrecorded : s.recorded 0 .m0 1 = some (.new (checkMacro strokeA)) := by
      decide +kernel
    have hfile := hkeeps.file 0 _ _ _ hrecorded
    revert hfile
    decide +kernel

end GLogiK
