import GLogiK.Service.DeviceMoves

/-!
# Names of configuration files

Each device should have a file of its own, and the default file of a new device should replace
none. The search of a name goes past the names of all known devices, but it gives up after ten names,
and the device is then left with the name that the constructor has set. It also takes a file whose
status can't be read for no file, first when it looks for one, then when it picks a new name.
-/

namespace GLogiK

variable {δ : Type*} [LinearOrder δ]

/-- The ten names of a device. -/
def DeviceAnswers.fileNames (answers : DeviceAnswers) : List String :=
  FileSystem.fileNames (answers.queried.product ++ " " ++ answers.queried.name) "cfg"

namespace ServiceDevices

variable {s s' : ServiceDevices δ} {devID : δ} {device : DeviceRecord} {answers : DeviceAnswers}

/-! ### The property and its condition -/

/-- The devices have different files. -/
def DistinctFiles (s : ServiceDevices δ) : Prop :=
  ∀ (id id' : δ) device device', s.properties id = some device → s.properties id' = some device' →
    device.configFilePath = device'.configFilePath → id = id'

/-- No default file was created where a regular file stood. -/
def NoFileReplaced (s : ServiceDevices δ) : Prop :=
  ∀ entry ∈ s.created, entry.2.2.isRegularFile = false

/-- The files of the devices are apart, from each other and from those on the disk. -/
structure FilesApart (s : ServiceDevices δ) : Prop where
  distinct : s.DistinctFiles
  created : s.NoFileReplaced

/-- One of the ten names is not used, or no device goes without a name. -/
def HasName (s : ServiceDevices δ) (answers : DeviceAnswers) : Prop :=
  (∃ fileName ∈ answers.fileNames, fileName ∉ s.alreadyUsed) ∨ "none" ∉ s.alreadyUsed

/-- No file is found under the names that are not used, and at the first of these names there is a
regular file whose status can't be read. -/
def HidesFile (s : ServiceDevices δ) (answers : DeviceAnswers) : Prop :=
  let status := answers.status (s.directory answers.queried.vendor)
  (∀ fileName ∈ answers.fileNames, fileName ∉ s.alreadyUsed → status fileName ≠ .regularFile) ∧
    ∃ fileName, answers.fileNames.find? (· ∉ s.alreadyUsed) = some fileName ∧
      status fileName = .unreadable true

/-- A new device gets a name, and hides no file. -/
def NamesNewDevice (s : ServiceDevices δ) : DevicesEvent δ → Prop
  | .startDevice devID answers | .stopDevice devID answers =>
    s.properties devID = none → s.HasName answers ∧ ¬ s.HidesFile answers
  | .unplugDevice devID answers => s.properties devID = none → ¬ s.HidesFile answers
  | _ => True

/-! ### The name of a new device -/

lemma DisjointIDs.mem_alreadyUsed (h : s.DisjointIDs) {fileName : String} :
    fileName ∈ s.alreadyUsed ↔
      ∃ id device, s.properties id = some device ∧ device.configFilePath = fileName := by
  have hmem : ∀ {map : StdMap δ DeviceRecord} {entry : δ × DeviceRecord},
      entry ∈ map.toList ↔ map[entry.1]? = some entry.2 :=
    Std.ExtTreeMap.mem_toList_iff_getElem?_eq_some
  simp only [alreadyUsed, List.mem_map, List.mem_append, hmem]
  constructor
  · rintro ⟨⟨id, device⟩, hstarted | hstopped, hname⟩
    · exact ⟨id, device, by rw [properties, hstarted, Option.some_or], hname⟩
    · refine ⟨id, device, ?_, hname⟩
      rw [properties, h.started hstopped, Option.none_or, hstopped]
  · rintro ⟨id, device, hdevice, hname⟩
    rcases Option.or_eq_some_iff.mp hdevice with hstarted | ⟨_, hstopped⟩
    · exact ⟨(id, device), Or.inl hstarted, hname⟩
    · exact ⟨(id, device), Or.inr hstopped, hname⟩

lemma configFilePath_setDeviceProperties (devID : δ) (answers : DeviceAnswers) :
    (s.setDeviceProperties devID answers).2.configFilePath =
      ((s.nextFileName answers.queried answers.status true).or
        (s.nextFileName answers.queried answers.status false)).getD "none" := by
  have hinit : ∀ device check answer,
      (s.initializeConfigurationDirectory device check answer).2.configFilePath =
        device.configFilePath :=
    eq_initializeConfigurationDirectory fun _ _ => rfl
  rw [setDeviceProperties]
  cases hfound : s.nextFileName answers.queried answers.status true with
  | some fileName =>
    simp only [DeviceRecord.load_configFilePath, hinit]
    rfl
  | none =>
    cases hnew : s.nextFileName answers.queried answers.status false with
    | some fileName =>
      simp only [hinit]
      rfl
    | none => exact answers.queried_isDefault.configFilePath

lemma nextFileName_eq_find :
    s.nextFileName answers.queried answers.status false =
      answers.fileNames.find? (· ∉ s.alreadyUsed) :=
  FileSystem.getNextAvailableFileName_eq_find

lemma nextFileName_eq_none_iff :
    s.nextFileName answers.queried answers.status true = none ↔
      ∀ fileName ∈ answers.fileNames, fileName ∉ s.alreadyUsed →
        answers.status (s.directory answers.queried.vendor) fileName ≠ .regularFile :=
  FileSystem.getNextAvailableFileName_eq_none_iff

/-- The name of a new device is not used exactly when it gets one. -/
lemma configFilePath_notMem_alreadyUsed_iff (devID : δ) (answers : DeviceAnswers) :
    (s.setDeviceProperties devID answers).2.configFilePath ∉ s.alreadyUsed ↔ s.HasName answers := by
  have hnext : ∀ {mustExist : Bool} {fileName : String},
      s.nextFileName answers.queried answers.status mustExist = some fileName →
        (fileName ∉ s.alreadyUsed ↔ s.HasName answers) := by
    intro mustExist fileName hname
    have hunused := FileSystem.notMem_of_getNextAvailableFileName hname
    exact iff_of_true hunused
      (Or.inl ⟨fileName, FileSystem.mem_of_getNextAvailableFileName hname, hunused⟩)
  rw [configFilePath_setDeviceProperties]
  cases hfound : s.nextFileName answers.queried answers.status true with
  | some fileName => exact hnext hfound
  | none =>
    cases hnew : s.nextFileName answers.queried answers.status false with
    | some fileName => exact hnext hnew
    | none =>
      rw [nextFileName_eq_find] at hnew
      refine (or_iff_right ?_).symm
      rintro ⟨fileName, hmem, hunused⟩
      exact List.find?_eq_none.mp hnew fileName hmem (decide_eq_true hunused)

lemma noFileReplaced_setDeviceProperties_iff (h : s.NoFileReplaced) (devID : δ)
    (answers : DeviceAnswers) :
    (s.setDeviceProperties devID answers).1.NoFileReplaced ↔ ¬ s.HidesFile answers := by
  rw [setDeviceProperties]
  cases hfound : s.nextFileName answers.queried answers.status true with
  | some fileName =>
    refine iff_of_true ?_ fun hhides => ?_
    · simp only [NoFileReplaced, created_initializeConfigurationDirectory]
      exact h
    · rw [nextFileName_eq_none_iff.mpr hhides.1] at hfound
      cases hfound
  | none =>
    cases hnew : s.nextFileName answers.queried answers.status false with
    | some fileName =>
      have hstatus := FileSystem.status_of_not_found hfound hnew
      simp only [NoFileReplaced, ignoreNextNotification, created_initializeConfigurationDirectory,
        List.forall_mem_cons, ← Bool.not_eq_true, hstatus]
      rw [and_iff_left fun entry hentry => by rw [h entry hentry]; exact Bool.false_ne_true]
      rw [nextFileName_eq_find] at hnew
      refine not_congr ⟨fun hunreadable => ?_, fun hhides => ?_⟩
      · exact ⟨nextFileName_eq_none_iff.mp hfound, fileName, hnew, hunreadable⟩
      · obtain ⟨fileName', hfirst, hunreadable⟩ := hhides.2
        rw [hnew] at hfirst
        cases hfirst
        exact hunreadable
    | none =>
      refine iff_of_true h fun hhides => ?_
      obtain ⟨fileName, hfirst, _⟩ := hhides.2
      rw [← nextFileName_eq_find, hnew] at hfirst
      cases hfirst

/-! ### Every step -/

/-- The devices of `s'` are devices of `s`, with the same files. -/
def KeepsNames (s s' : ServiceDevices δ) : Prop :=
  ∀ (id : δ) device', s'.properties id = some device' →
    ∃ device, s.properties id = some device ∧ device.configFilePath = device'.configFilePath

lemma KeepsNames.distinctFiles (h : KeepsNames s s') (hs : s.DistinctFiles) :
    s'.DistinctFiles := by
  intro id id' device device' hdevice hdevice' hname
  obtain ⟨before, hbefore, heq⟩ := h id device hdevice
  obtain ⟨before', hbefore', heq'⟩ := h id' device' hdevice'
  exact hs id id' before before' hbefore hbefore' (by rw [heq, heq', hname])

lemma KeepsNames.filesApart (h : KeepsNames s s') (hcreated : s'.created = s.created)
    (hs : s.FilesApart) : s'.FilesApart := by
  refine ⟨h.distinctFiles hs.distinct, ?_⟩
  rw [NoFileReplaced, hcreated]
  exact hs.created

lemma InPlace.keepsNames (h : InPlace DeviceRecord.configFilePath s s') : KeepsNames s s' := by
  intro id device' hdevice'
  have hmap := h.properties id
  rw [hdevice', Option.map_some] at hmap
  obtain ⟨device, hdevice, hname⟩ := Option.map_eq_some_iff.mp hmap.symm
  exact ⟨device, hdevice, hname⟩

/-- A known device is moved. -/
lemma keepsNames_of_known (hknown : s.properties devID ≠ none)
    (hprop : ∀ id, s'.properties id =
      if id = devID then some (s.propertiesD devID answers) else s.properties id) :
    KeepsNames s s' := by
  intro id device' hdevice'
  obtain ⟨device, hdevice⟩ := Option.ne_none_iff_exists'.mp hknown
  rw [hprop] at hdevice'
  split_ifs at hdevice' with hid
  · rw [propertiesD, hdevice, Option.getD_some] at hdevice'
    cases hdevice'
    exact ⟨device', by rw [hid, hdevice], rfl⟩
  · exact ⟨device', hdevice', rfl⟩

lemma keepsNames_of_unplugged
    (hprop : ∀ id, s'.properties id = if id = devID then none else s.properties id) :
    KeepsNames s s' := by
  intro id device' hdevice'
  rw [hprop] at hdevice'
  split_ifs at hdevice'
  exact ⟨device', hdevice', rfl⟩

/-- A new device keeps the files apart exactly when it gets a name and hides no file. -/
lemma filesApart_new_iff (hs : s.DisjointIDs) (hgood : s.FilesApart)
    (hnew : s.properties devID = none)
    (hcreated : s'.created = (s.setDeviceProperties devID answers).1.created)
    (hprop : ∀ id, s'.properties id =
      if id = devID then some (s.setDeviceProperties devID answers).2 else s.properties id) :
    s'.FilesApart ↔ s.HasName answers ∧ ¬ s.HidesFile answers := by
  have hfiles : s'.NoFileReplaced ↔ ¬ s.HidesFile answers := by
    rw [← noFileReplaced_setDeviceProperties_iff hgood.created devID answers, NoFileReplaced,
      hcreated]
    rfl
  have hnames : s'.DistinctFiles ↔ s.HasName answers := by
    rw [← configFilePath_notMem_alreadyUsed_iff devID answers, hs.mem_alreadyUsed]
    constructor
    · rintro hdistinct ⟨id, device, hdevice, hname⟩
      have hne : id ≠ devID := by
        rintro rfl
        rw [hnew] at hdevice
        cases hdevice
      refine hne (hdistinct id devID device _ ?_ ?_ hname)
      · rw [hprop, if_neg hne, hdevice]
      · rw [hprop, if_pos rfl]
    · intro hunused id id' device device' hdevice hdevice' hname
      rw [hprop] at hdevice hdevice'
      split_ifs at hdevice hdevice' with hid hid' hid'
      · rw [hid, hid']
      · cases hdevice
        exact absurd ⟨id', device', hdevice', hname.symm⟩ hunused
      · cases hdevice'
        exact absurd ⟨id, device, hdevice, hname⟩ hunused
      · exact hgood.distinct id id' device device' hdevice hdevice' hname
  exact ⟨fun h => ⟨hnames.mp h.distinct, hfiles.mp h.created⟩,
    fun h => ⟨hnames.mpr h.1, hfiles.mpr h.2⟩⟩

/-- What a new or known device is filed with. -/
lemma filesApart_filed_iff (hs : s.DisjointIDs) (hgood : s.FilesApart)
    (hnew : s.properties devID = none →
      s'.created = (s.setDeviceProperties devID answers).1.created)
    (hknown : s.properties devID ≠ none → s'.created = s.created)
    (hprop : ∀ id, s'.properties id =
      if id = devID then some (s.propertiesD devID answers) else s.properties id) :
    s'.FilesApart ↔ (s.properties devID = none → s.HasName answers ∧ ¬ s.HidesFile answers) := by
  by_cases hnone : s.properties devID = none
  · rw [forall_prop_of_true hnone]
    refine filesApart_new_iff hs hgood hnone (hnew hnone) fun id => ?_
    rw [hprop, propertiesD, hnone, Option.getD_none]
  · exact iff_of_true ((keepsNames_of_known hnone hprop).filesApart (hknown hnone) hgood)
      fun h => absurd h hnone

lemma FilesApart.startDevice_iff (hgood : s.FilesApart) (hs : s.DisjointIDs) (devID : δ)
    (answers : DeviceAnswers) :
    (s.startDevice devID answers).FilesApart ↔
      (s.properties devID = none → s.HasName answers ∧ ¬ s.HidesFile answers) :=
  filesApart_filed_iff hs hgood (fun hnew => (sameAround_startDevice_new hnew answers).created)
    (fun hknown => (sameAround_startDevice hknown answers).created)
    (hs.files_startDevice devID answers).properties

lemma FilesApart.stopDevice_iff (hgood : s.FilesApart) (hs : s.DisjointIDs) (devID : δ)
    (answers : DeviceAnswers) :
    (s.stopDevice devID answers).FilesApart ↔
      (s.properties devID = none → s.HasName answers ∧ ¬ s.HidesFile answers) :=
  filesApart_filed_iff hs hgood (fun hnew => (sameAround_stopDevice_new hnew answers).created)
    (fun hknown => (sameAround_stopDevice hknown answers).created)
    (hs.files_stopDevice devID answers).properties

lemma FilesApart.unplugDevice_iff (hgood : s.FilesApart) (hs : s.DisjointIDs) (devID : δ)
    (answers : DeviceAnswers) :
    (s.unplugDevice devID answers).FilesApart ↔
      (s.properties devID = none → ¬ s.HidesFile answers) := by
  have hkeeps : KeepsNames s (s.unplugDevice devID answers) :=
    keepsNames_of_unplugged (hs.files_unplugDevice devID answers).properties
  have hcreated : (s.unplugDevice devID answers).created = (s.stopDevice devID answers).created := by
    rw [unplugDevice_eq, created_unrefDevice]
  by_cases hnone : s.properties devID = none
  · rw [forall_prop_of_true hnone,
      ← noFileReplaced_setDeviceProperties_iff hgood.created devID answers, NoFileReplaced,
      ← (sameAround_stopDevice_new hnone answers).created, ← hcreated]
    exact ⟨fun h => h.created, fun h => ⟨hkeeps.distinctFiles hgood.distinct, h⟩⟩
  · rw [(sameAround_stopDevice hnone answers).created] at hcreated
    exact iff_of_true (hkeeps.filesApart hcreated hgood) fun h => absurd h hnone

lemma FilesApart.clearDevices (hgood : s.FilesApart) (hs : s.DisjointIDs)
    (answers : δ → DeviceAnswers) : (s.clearDevices answers).FilesApart := by
  have hcreated : (s.unplugAll answers s.devicesID).created = s.created := by
    refine unplugAll_induction (p := fun s' => s'.created = s.created) ?_ Std.ExtTreeMap.nodup_keys
      (fun devID => mem_devicesID.mp) hs rfl
    intro s' devID _ hknown hs'
    rw [unplugDevice_eq, created_unrefDevice, (sameAround_stopDevice hknown _).created, hs']
  have hkeeps : KeepsNames s (s.clearDevices answers) := by
    intro id device' hdevice'
    rw [properties_eq_none_iff.mpr (files_clearDevices answers id)] at hdevice'
    cases hdevice'
  exact hkeeps.filesApart hcreated hgood

lemma created_checkNotifyEvents (reads : List (List InotifyEvent))
    (files : δ → Option SavedConfiguration) :
    (s.checkNotifyEvents reads files).created = s.created :=
  (sameAround_reloadAll files _ _).created

lemma created_saveDeviceConfigurationFile (devID : δ) (answer : DirectoryAnswer) :
    (s.saveDeviceConfigurationFile devID answer).created = s.created := by
  rw [saveDeviceConfigurationFile]
  cases s.startedDevices[devID]? with
  | none => rfl
  | some device => exact created_initializeConfigurationDirectory device true answer

lemma FilesApart.step_iff (hgood : s.FilesApart) (hs : s.DisjointIDs) (event : DevicesEvent δ) :
    (s.step event).FilesApart ↔ s.NamesNewDevice event := by
  have hplace : ∀ {s' : ServiceDevices δ}, InPlace DeviceRecord.configFilePath s s' →
      s'.created = s.created → (s'.FilesApart ↔ True) := by
    intro s' h hcreated
    exact iff_true_intro (h.keepsNames.filesApart hcreated hgood)
  cases event with
  | startDevice devID answers => exact hgood.startDevice_iff hs devID answers
  | stopDevice devID answers => exact hgood.stopDevice_iff hs devID answers
  | unplugDevice devID answers => exact hgood.unplugDevice_iff hs devID answers
  | clearDevices answers => exact iff_true_intro (hgood.clearDevices hs answers)
  | saveDeviceConfigurationFile devID answer =>
    exact hplace (inPlace_saveDeviceConfigurationFile (fun _ _ => rfl) answer)
      (created_saveDeviceConfigurationFile devID answer)
  | setDeviceCurrentBankID devID bankID =>
    exact hplace (inPlace_setDeviceCurrentBankID (fun _ _ => rfl) bankID)
      (sameAround_changeStarted devID _).created
  | setDeviceMacro devID keyID events =>
    exact hplace (inPlace_setDeviceMacro (fun _ _ => rfl) keyID events)
      (sameAround_changeStarted devID _).created
  | clearDeviceMacro devID keyID =>
    exact hplace (inPlace_clearDeviceMacro (fun _ _ => rfl) keyID)
      (sameAround_changeStarted devID _).created
  | checkNotifyEvents reads files =>
    exact hplace
      (inPlace_checkNotifyEvents (fun _ file => DeviceRecord.load_configFilePath file) reads files)
      (created_checkNotifyEvents reads files)

lemma filesApart_init (directory : String → String) :
    ({ directory } : ServiceDevices δ).FilesApart := by
  refine ⟨fun id id' device device' hdevice => ?_, List.forall_mem_nil _⟩
  cases hdevice

end ServiceDevices

/-- In a run every state keeps the files apart exactly when every new device gets a name and hides
no file. -/
theorem filesApart_run_iff (directory : String → String) (events : List (DevicesEvent δ)) :
    Run.Steps ServiceDevices.step (fun s event => (s.step event).FilesApart) { directory } events ↔
      Run.Steps ServiceDevices.step ServiceDevices.NamesNewDevice { directory } events := by
  have hstep : ∀ (s : ServiceDevices δ) event, s.DisjointIDs → (s.step event).DisjointIDs :=
    fun s event hs => hs.step event
  have hok : ∀ (s : ServiceDevices δ) event, s.DisjointIDs → s.FilesApart →
      ((s.step event).FilesApart ↔ s.NamesNewDevice event) :=
    fun s event hs hgood => hgood.step_iff hs event
  exact Run.steps_iff_of_keeps (ServiceDevices.disjointIDs_init directory)
    (ServiceDevices.filesApart_init directory) hstep hok events

/-- Twelve keyboards of one model: the eleventh and the twelfth are left without a name. -/
theorem not_filesApart_twelve :
    ¬ ∀ (directory : String → String) (events : List (DevicesEvent ℕ)),
      Run.Steps ServiceDevices.step (fun s event => (s.step event).FilesApart) { directory }
        events := by
  intro h
  let answers : DeviceAnswers := { properties := some ("Logitech", "Gaming Keyboard", "G510", 0) }
  let events : List (DevicesEvent ℕ) := (List.range 12).map fun devID => .startDevice devID answers
  let s : ServiceDevices ℕ := Run.run ServiceDevices.step { directory := id } events
  have hapart : s.FilesApart :=
    (h id events).induction (ServiceDevices.filesApart_init id) fun _ _ _ hnext => hnext
  have hnames : (s.properties 10).map DeviceRecord.configFilePath = some "none" ∧
      (s.properties 11).map DeviceRecord.configFilePath = some "none" := by
    decide +kernel
  obtain ⟨device, hdevice, hname⟩ := Option.map_eq_some_iff.mp hnames.1
  obtain ⟨device', hdevice', hname'⟩ := Option.map_eq_some_iff.mp hnames.2
  have heq := hapart.distinct 10 11 device device' hdevice hdevice' (by rw [hname, hname'])
  cases heq

end GLogiK
