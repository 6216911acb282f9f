import GLogiK.Lib.Run
import GLogiK.Service.Devices

/-!
# Moves between the containers

`_startedDevices` and `_stoppedDevices` never share a device, and a device that moves from one to
the other keeps its properties. The other functions change a device in its container.
-/

namespace GLogiK

variable {δ : Type*} [LinearOrder δ]

namespace ServiceDevices

variable {s s' : ServiceDevices δ} {devID : δ} {device : DeviceRecord} {answers : DeviceAnswers}

/-! ### Operations that leave the containers -/

/-- The containers stay as they are. -/
structure SameContainers (s s' : ServiceDevices δ) : Prop where
  started : s'.startedDevices = s.startedDevices
  stopped : s'.stoppedDevices = s.stoppedDevices

/-- The device after its directory is watched with the descriptor. -/
abbrev watchWith (s : ServiceDevices δ) (device : DeviceRecord) (fs : FSNotify) (wd : ℤ) :
    ServiceDevices δ × DeviceRecord :=
  ({ s with
      fs := fs
      nextWd := s.nextWd + 1
      returned := Function.update s.returned (s.directory device.vendor) (some wd) },
    { device with watchedDescriptor := wd })

/-- The directory can't be watched, or it is watched with the descriptor that is returned. -/
lemma initializeConfigurationDirectory_cases (s : ServiceDevices δ) (device : DeviceRecord)
    (check : Bool) (answer : DirectoryAnswer) :
    s.initializeConfigurationDirectory device check answer = (s, device) ∨
      ∃ fs wd added, answer.created ∧ (added = none ∨ added = some (s.nextWd : ℤ)) ∧
        s.fs.addNotifyDirectoryWatch (s.directory device.vendor) check added = some (fs, wd) ∧
        s.initializeConfigurationDirectory device check answer = s.watchWith device fs wd := by
  rw [initializeConfigurationDirectory]
  cases answer.created with
  | false => exact Or.inl rfl
  | true =>
    generalize hadded : (if answer.watched then some (s.nextWd : ℤ) else none) = added
    have hcases : added = none ∨ added = some (s.nextWd : ℤ) := by
      rw [← hadded]
      cases answer.watched with
      | false => exact Or.inl rfl
      | true => exact Or.inr rfl
    cases hadd : s.fs.addNotifyDirectoryWatch (s.directory device.vendor) check added with
    | none => exact Or.inl rfl
    | some r => exact Or.inr ⟨r.1, r.2, added, rfl, hcases, hadd, rfl⟩

lemma sameContainers_initializeConfigurationDirectory (device : DeviceRecord) (check : Bool)
    (answer : DirectoryAnswer) :
    SameContainers s (s.initializeConfigurationDirectory device check answer).1 := by
  rcases s.initializeConfigurationDirectory_cases device check answer with
    heq | ⟨fs, wd, _, _, _, _, heq⟩
  · rw [heq]
    exact ⟨rfl, rfl⟩
  · rw [heq]
    exact ⟨rfl, rfl⟩

lemma created_initializeConfigurationDirectory (device : DeviceRecord) (check : Bool)
    (answer : DirectoryAnswer) :
    (s.initializeConfigurationDirectory device check answer).1.created = s.created := by
  rcases s.initializeConfigurationDirectory_cases device check answer with
    heq | ⟨fs, wd, _, _, _, _, heq⟩
  · rw [heq]
  · rw [heq]

/-- Only the watched descriptor of the device changes. -/
lemma eq_initializeConfigurationDirectory {γ : Type*} {f : DeviceRecord → γ}
    (hf : ∀ device wd, f { device with watchedDescriptor := wd } = f device) (device : DeviceRecord)
    (check : Bool) (answer : DirectoryAnswer) :
    f (s.initializeConfigurationDirectory device check answer).2 = f device := by
  rcases s.initializeConfigurationDirectory_cases device check answer with
    heq | ⟨fs, wd, _, _, _, _, heq⟩
  · rw [heq]
  · rw [heq]
    exact hf device wd

lemma sameContainers_setDeviceProperties (devID : δ) (answers : DeviceAnswers) :
    SameContainers s (s.setDeviceProperties devID answers).1 := by
  rw [setDeviceProperties]
  simp only
  split
  · exact sameContainers_initializeConfigurationDirectory _ _ _
  · split
    · have hinit := sameContainers_initializeConfigurationDirectory (s := s)
      exact ⟨(hinit _ _ _).started, (hinit _ _ _).stopped⟩
    · exact ⟨rfl, rfl⟩

/-! ### The containers are disjoint -/

/-- No device is in both containers. -/
def DisjointIDs (s : ServiceDevices δ) : Prop :=
  ∀ devID : δ, s.startedDevices[devID]?.isSome → s.stoppedDevices[devID]? = none

/-- The properties of a device, in either container. -/
def properties (s : ServiceDevices δ) (devID : δ) : Option DeviceRecord :=
  s.startedDevices[devID]?.or s.stoppedDevices[devID]?

lemma DisjointIDs.stopped (h : s.DisjointIDs) (hdevice : s.startedDevices[devID]? = some device) :
    s.stoppedDevices[devID]? = none :=
  h devID (by simp [hdevice])

lemma DisjointIDs.started (h : s.DisjointIDs) (hdevice : s.stoppedDevices[devID]? = some device) :
    s.startedDevices[devID]? = none := by
  cases hstarted : s.startedDevices[devID]? with
  | none => rfl
  | some device' =>
    rw [h.stopped hstarted] at hdevice
    cases hdevice

/-- From `s` to `s'` the device comes to be filed as given, and the others stay where they are. -/
structure Files (s s' : ServiceDevices δ) (devID : δ) (started stopped : Option DeviceRecord) :
    Prop where
  started : ∀ id, s'.startedDevices[id]? = if id = devID then started else s.startedDevices[id]?
  stopped : ∀ id, s'.stoppedDevices[id]? = if id = devID then stopped else s.stoppedDevices[id]?

lemma Files.disjointIDs {started stopped : Option DeviceRecord}
    (h : Files s s' devID started stopped) (hs : s.DisjointIDs)
    (hone : started.isSome → stopped = none) : s'.DisjointIDs := by
  intro id hid
  rw [h.started] at hid
  rw [h.stopped]
  split_ifs at hid ⊢
  · exact hone hid
  · exact hs id hid

lemma Files.properties {started stopped : Option DeviceRecord}
    (h : Files s s' devID started stopped) (id : δ) :
    s'.properties id = if id = devID then started.or stopped else s.properties id := by
  rw [ServiceDevices.properties, h.started, h.stopped]
  split_ifs <;> rfl

lemma Files.trans {s'' : ServiceDevices δ} {started stopped started' stopped' : Option DeviceRecord}
    (h : Files s s' devID started stopped) (h' : Files s' s'' devID started' stopped') :
    Files s s'' devID started' stopped' := by
  constructor
  · intro id
    rw [h'.started, h.started]
    split_ifs <;> rfl
  · intro id
    rw [h'.stopped, h.stopped]
    split_ifs <;> rfl

/-- What a device that is met for the first time, or known, is filed with. -/
def propertiesD (s : ServiceDevices δ) (devID : δ) (answers : DeviceAnswers) : DeviceRecord :=
  (s.properties devID).getD (s.setDeviceProperties devID answers).2

/-- A move leaves a known device as it is. -/
lemma propertiesD_of_known {id : δ} (hdevice : s.properties id = some device) :
    (if id = devID then some (s.propertiesD devID answers) else s.properties id) = some device := by
  split_ifs with hid
  · rw [propertiesD, ← hid, hdevice, Option.getD_some]
  · exact hdevice

lemma DisjointIDs.files_startDevice (h : s.DisjointIDs) (devID : δ) (answers : DeviceAnswers) :
    Files s (s.startDevice devID answers) devID (some (s.propertiesD devID answers)) none := by
  rw [startDevice, propertiesD, properties]
  cases hstarted : s.startedDevices[devID]? with
  | some device => exact ⟨getElem?_of_eq hstarted, getElem?_of_eq (h.stopped hstarted)⟩
  | none =>
    cases hstopped : s.stoppedDevices[devID]? with
    | some device => exact ⟨fun id => getElem?_insert_eq _ _ id _, getElem?_erase_eq _ _⟩
    | none =>
      have hsame := sameContainers_setDeviceProperties (s := s) devID answers
      simp only [Option.or_none, Option.getD_none]
      rw [hsame.started]
      refine ⟨fun id => getElem?_insert_eq _ _ id _, ?_⟩
      rw [hsame.stopped]
      exact getElem?_of_eq hstopped

lemma files_moveToStopped (devID : δ) (device : DeviceRecord) :
    Files s (s.moveToStopped devID device) devID none (some device) :=
  ⟨getElem?_erase_eq _ _, fun id => getElem?_insert_eq _ _ id _⟩

lemma DisjointIDs.files_stopDevice (h : s.DisjointIDs) (devID : δ) (answers : DeviceAnswers) :
    Files s (s.stopDevice devID answers) devID none (some (s.propertiesD devID answers)) := by
  have hstart := h.files_startDevice devID answers
  rw [stopDevice]
  cases hstopped : s.stoppedDevices[devID]? with
  | some device =>
    have hnone := h.started hstopped
    rw [propertiesD, properties, hnone, hstopped]
    exact ⟨getElem?_of_eq hnone, getElem?_of_eq hstopped⟩
  | none =>
    cases hstarted : s.startedDevices[devID]? with
    | some device =>
      rw [propertiesD, properties, hstarted]
      exact files_moveToStopped devID device
    | none =>
      have hdevice : (s.startDevice devID answers).startedDevices[devID]? = _ := hstart.started devID
      rw [if_pos rfl] at hdevice
      simp only [hdevice]
      exact hstart.trans (files_moveToStopped devID _)

lemma files_unrefDevice (hstarted : s.startedDevices[devID]? = none) :
    Files s (s.unrefDevice devID) devID none none := by
  rw [unrefDevice]
  cases hstopped : s.stoppedDevices[devID]? with
  | none => exact ⟨getElem?_of_eq hstarted, getElem?_of_eq hstopped⟩
  | some device => exact ⟨getElem?_of_eq hstarted, getElem?_erase_eq _ _⟩

lemma DisjointIDs.files_unplugDevice (h : s.DisjointIDs) (devID : δ) (answers : DeviceAnswers) :
    Files s (s.unplugDevice devID answers) devID none none := by
  rw [unplugDevice]
  cases hstopped : s.stoppedDevices[devID]? with
  | some device => exact files_unrefDevice (h.started hstopped)
  | none =>
    have hstop := h.files_stopDevice devID answers
    have hstarted : (s.stopDevice devID answers).startedDevices[devID]? = none := by
      rw [hstop.started, if_pos rfl]
    exact hstop.trans (files_unrefDevice hstarted)

/-! ### Changes in place -/

/-- Every device stays in its container, and keeps what `f` reads of it. -/
structure InPlace {γ : Type*} (f : DeviceRecord → γ) (s s' : ServiceDevices δ) : Prop where
  started : ∀ id : δ, s'.startedDevices[id]?.map f = s.startedDevices[id]?.map f
  stopped : ∀ id : δ, s'.stoppedDevices[id]?.map f = s.stoppedDevices[id]?.map f

section

variable {γ : Type*} {f : DeviceRecord → γ}

lemma SameContainers.inPlace (h : SameContainers s s') : InPlace f s s' :=
  ⟨fun id => by rw [h.started], fun id => by rw [h.stopped]⟩

lemma InPlace.trans {s'' : ServiceDevices δ} (h : InPlace f s s') (h' : InPlace f s' s'') :
    InPlace f s s'' :=
  ⟨fun id => (h'.started id).trans (h.started id), fun id => (h'.stopped id).trans (h.stopped id)⟩

lemma InPlace.properties (h : InPlace f s s') (id : δ) :
    (s'.properties id).map f = (s.properties id).map f := by
  rw [ServiceDevices.properties, ServiceDevices.properties, Option.map_or, Option.map_or,
    h.started, h.stopped]

lemma InPlace.disjointIDs (h : InPlace f s s') (hs : s.DisjointIDs) : s'.DisjointIDs := by
  intro id hid
  have hstarted := congrArg Option.isSome (h.started id)
  rw [Option.isSome_map, Option.isSome_map] at hstarted
  have hstopped := h.stopped id
  rw [hs id (hstarted ▸ hid)] at hstopped
  exact Option.map_eq_none_iff.mp hstopped

/-- A started device is changed. -/
lemma inPlace_insertStarted {device' : DeviceRecord}
    (hdevice : s.startedDevices[devID]? = some device) (hf : f device' = f device)
    (hstarted : s'.startedDevices = s.startedDevices.insert devID device')
    (hstopped : s'.stoppedDevices = s.stoppedDevices) : InPlace f s s' := by
  refine ⟨fun id => ?_, fun id => by rw [hstopped]⟩
  rw [hstarted, getElem?_insert_eq]
  split_ifs with hid
  · rw [hid, hdevice, Option.map_some, Option.map_some, hf]
  · rfl

lemma inPlace_changeStarted {change : DeviceRecord → Option DeviceRecord}
    (hf : ∀ device device', change device = some device' → f device' = f device) :
    InPlace f s (s.changeStarted devID change) := by
  rw [changeStarted]
  cases hdevice : s.startedDevices[devID]? with
  | none => exact ⟨fun _ => rfl, fun _ => rfl⟩
  | some device =>
    rw [Option.bind_some]
    cases hchange : change device with
    | none => exact ⟨fun _ => rfl, fun _ => rfl⟩
    | some device' => exact inPlace_insertStarted hdevice (hf device device' hchange) rfl rfl

lemma inPlace_setDeviceCurrentBankID (hf : ∀ device bankID,
    f { device with currentBankID := bankID } = f device) (bankID : MKeysID) :
    InPlace f s (s.setDeviceCurrentBankID devID bankID) := by
  refine inPlace_changeStarted fun device device' hchange => ?_
  rw [← Option.some_inj.mp hchange]
  exact hf device bankID

lemma inPlace_setDeviceMacro (hf : ∀ device GKeysBanks,
    f { device with GKeysBanks := GKeysBanks } = f device) (keyID : EnumByte) (events : MacroType) :
    InPlace f s (s.setDeviceMacro devID keyID events) := by
  refine inPlace_changeStarted fun device device' hchange => ?_
  obtain ⟨banks, _, rfl⟩ := Option.map_eq_some_iff.mp hchange
  exact hf device banks

lemma inPlace_clearDeviceMacro (hf : ∀ device GKeysBanks,
    f { device with GKeysBanks := GKeysBanks } = f device) (keyID : EnumByte) :
    InPlace f s (s.clearDeviceMacro devID keyID) := by
  refine inPlace_changeStarted fun device device' hchange => ?_
  obtain ⟨r, _, rfl⟩ := Option.map_eq_some_iff.mp hchange
  exact hf device r.1

lemma inPlace_reloadDeviceConfigurationFile (hf : ∀ device file,
    f (device.load file) = f device) (file : Option SavedConfiguration) :
    InPlace f s (s.reloadDeviceConfigurationFile devID file) := by
  rw [reloadDeviceConfigurationFile]
  split_ifs
  · exact ⟨fun _ => rfl, fun _ => rfl⟩
  · cases hstarted : s.startedDevices[devID]? with
    | some device => exact inPlace_insertStarted hstarted (hf device file) rfl rfl
    | none =>
      cases hstopped : s.stoppedDevices[devID]? with
      | none => exact ⟨fun _ => rfl, fun _ => rfl⟩
      | some device =>
        refine ⟨fun _ => rfl, fun id => ?_⟩
        rw [getElem?_insert_eq]
        split_ifs with hid
        · rw [hid, hstopped, Option.map_some, Option.map_some, hf]
        · rfl

lemma inPlace_reloadAll (hf : ∀ device file, f (device.load file) = f device)
    (files : δ → Option SavedConfiguration) (devIDs : List δ) (s : ServiceDevices δ) :
    InPlace f s (devIDs.foldl
      (fun s devID => s.reloadDeviceConfigurationFile devID (files devID)) s) := by
  induction devIDs generalizing s with
  | nil => exact ⟨fun _ => rfl, fun _ => rfl⟩
  | cons devID devIDs ih =>
    exact (inPlace_reloadDeviceConfigurationFile hf (files devID)).trans (ih _)

lemma inPlace_checkNotifyEvents (hf : ∀ device file, f (device.load file) = f device)
    (reads : List (List InotifyEvent)) (files : δ → Option SavedConfiguration) :
    InPlace f s (s.checkNotifyEvents reads files) := by
  have hread : SameContainers s
      { s with fs := (s.fs.readNotifyEvents s.getDevicesFilesMap reads).1 } := ⟨rfl, rfl⟩
  exact hread.inPlace.trans (inPlace_reloadAll hf files _ _)

lemma inPlace_saveDeviceConfigurationFile (hf : ∀ device wd,
    f { device with watchedDescriptor := wd } = f device) (answer : DirectoryAnswer) :
    InPlace f s (s.saveDeviceConfigurationFile devID answer) := by
  rw [saveDeviceConfigurationFile]
  cases hdevice : s.startedDevices[devID]? with
  | none => exact ⟨fun _ => rfl, fun _ => rfl⟩
  | some device =>
    rcases s.initializeConfigurationDirectory_cases device true answer with
      heq | ⟨fs, wd, _, _, _, _, heq⟩
    · simp only [heq]
      exact inPlace_insertStarted hdevice rfl rfl rfl
    · simp only [heq]
      exact inPlace_insertStarted hdevice (hf device wd) rfl rfl

end

/-! ### What is around the containers -/

/-- The watches stay as they are. -/
structure SameWatches (s s' : ServiceDevices δ) : Prop where
  directory : s'.directory = s.directory
  fs : s'.fs = s.fs
  nextWd : s'.nextWd = s.nextWd
  returned : s'.returned = s.returned

/-- No file is created either. -/
structure SameAround (s s' : ServiceDevices δ) : Prop extends SameWatches s s' where
  created : s'.created = s.created

lemma sameAround_refl (s : ServiceDevices δ) : SameAround s s := ⟨⟨rfl, rfl, rfl, rfl⟩, rfl⟩

lemma SameWatches.trans {s'' : ServiceDevices δ} (h : SameWatches s s') (h' : SameWatches s' s'') :
    SameWatches s s'' where
  directory := h'.directory.trans h.directory
  fs := h'.fs.trans h.fs
  nextWd := h'.nextWd.trans h.nextWd
  returned := h'.returned.trans h.returned

lemma SameAround.trans {s'' : ServiceDevices δ} (h : SameAround s s') (h' : SameAround s' s'') :
    SameAround s s'' :=
  ⟨h.toSameWatches.trans h'.toSameWatches, h'.created.trans h.created⟩

lemma sameAround_changeStarted (devID : δ) (change : DeviceRecord → Option DeviceRecord) :
    SameAround s (s.changeStarted devID change) := by
  rw [changeStarted]
  cases s.startedDevices[devID]?.bind change with
  | none => exact sameAround_refl s
  | some device => exact ⟨⟨rfl, rfl, rfl, rfl⟩, rfl⟩

lemma sameAround_reloadDeviceConfigurationFile (devID : δ) (file : Option SavedConfiguration) :
    SameAround s (s.reloadDeviceConfigurationFile devID file) := by
  rw [reloadDeviceConfigurationFile]
  split_ifs
  · exact ⟨⟨rfl, rfl, rfl, rfl⟩, rfl⟩
  · cases s.startedDevices[devID]? with
    | some device => exact ⟨⟨rfl, rfl, rfl, rfl⟩, rfl⟩
    | none =>
      cases s.stoppedDevices[devID]? with
      | some device => exact ⟨⟨rfl, rfl, rfl, rfl⟩, rfl⟩
      | none => exact sameAround_refl s

lemma sameAround_reloadAll (files : δ → Option SavedConfiguration) (devIDs : List δ)
    (s : ServiceDevices δ) : SameAround s (devIDs.foldl
      (fun s devID => s.reloadDeviceConfigurationFile devID (files devID)) s) := by
  induction devIDs generalizing s with
  | nil => exact sameAround_refl s
  | cons devID devIDs ih =>
    exact (sameAround_reloadDeviceConfigurationFile devID (files devID)).trans (ih _)

lemma properties_eq_none_iff :
    s.properties devID = none ↔ s.startedDevices[devID]? = none ∧ s.stoppedDevices[devID]? = none :=
  Option.or_eq_none_iff

/-- A known device is only moved. -/
lemma sameAround_startDevice (hknown : s.properties devID ≠ none) (answers : DeviceAnswers) :
    SameAround s (s.startDevice devID answers) := by
  rw [startDevice]
  cases hstarted : s.startedDevices[devID]? with
  | some device => exact sameAround_refl s
  | none =>
    cases hstopped : s.stoppedDevices[devID]? with
    | some device => exact ⟨⟨rfl, rfl, rfl, rfl⟩, rfl⟩
    | none => exact absurd (properties_eq_none_iff.mpr ⟨hstarted, hstopped⟩) hknown

lemma sameAround_stopDevice (hknown : s.properties devID ≠ none) (answers : DeviceAnswers) :
    SameAround s (s.stopDevice devID answers) := by
  rw [stopDevice]
  cases hstopped : s.stoppedDevices[devID]? with
  | some device => exact sameAround_refl s
  | none =>
    cases hstarted : s.startedDevices[devID]? with
    | some device => exact ⟨⟨rfl, rfl, rfl, rfl⟩, rfl⟩
    | none => exact absurd (properties_eq_none_iff.mpr ⟨hstarted, hstopped⟩) hknown

/-- A new device is given its properties. -/
lemma sameAround_startDevice_new (hnew : s.properties devID = none) (answers : DeviceAnswers) :
    SameAround (s.setDeviceProperties devID answers).1 (s.startDevice devID answers) := by
  obtain ⟨hstarted, hstopped⟩ := properties_eq_none_iff.mp hnew
  rw [startDevice, hstarted]
  simp only [hstopped]
  exact ⟨⟨rfl, rfl, rfl, rfl⟩, rfl⟩

lemma sameAround_stopDevice_new (hnew : s.properties devID = none) (answers : DeviceAnswers) :
    SameAround (s.setDeviceProperties devID answers).1 (s.stopDevice devID answers) := by
  obtain ⟨hstarted, hstopped⟩ := properties_eq_none_iff.mp hnew
  refine (sameAround_startDevice_new hnew answers).trans ?_
  rw [stopDevice, hstopped]
  simp only [hstarted]
  cases (s.startDevice devID answers).startedDevices[devID]? with
  | some device => exact ⟨⟨rfl, rfl, rfl, rfl⟩, rfl⟩
  | none => exact sameAround_refl _

/-- A device that is unplugged is stopped before. -/
lemma unplugDevice_eq (devID : δ) (answers : DeviceAnswers) :
    s.unplugDevice devID answers = (s.stopDevice devID answers).unrefDevice devID := by
  rw [unplugDevice, stopDevice]
  cases s.stoppedDevices[devID]? with
  | some device => rfl
  | none => rfl

lemma created_unrefDevice (devID : δ) : (s.unrefDevice devID).created = s.created := by
  rw [unrefDevice]
  cases s.stoppedDevices[devID]? with
  | some device => rfl
  | none => rfl

/-! ### Unplugging all devices -/

lemma mem_devicesID : devID ∈ s.devicesID ↔ s.properties devID ≠ none := by
  have hkeys : ∀ map : StdMap δ DeviceRecord, devID ∈ map.keys ↔ ¬map[devID]? = none := by
    intro map
    rw [Std.ExtTreeMap.mem_keys, Std.ExtTreeMap.mem_iff_isSome_getElem?, Option.isSome_iff_ne_none]
  rw [devicesID, Std.ExtTreeMap.mem_keys, Std.ExtTreeMap.mem_iff_isSome_getElem?,
    ServiceFiles.getElem?_foldl_insertIfNew fun _ => (), Std.ExtTreeMap.getElem?_empty,
    Option.none_or, Ne, properties_eq_none_iff, not_and_or, ← hkeys, ← hkeys, ← List.mem_append]
  split_ifs with hmem
  · exact iff_of_true rfl hmem
  · exact iff_of_false Bool.false_ne_true hmem

/-- What unplugging a known device preserves holds after the loop. -/
lemma unplugAll_induction {p : ServiceDevices δ → Prop} {answers : δ → DeviceAnswers}
    (hp : ∀ (s : ServiceDevices δ) devID, s.DisjointIDs → s.properties devID ≠ none → p s →
      p (s.unplugDevice devID (answers devID))) {devIDs : List δ} (hnodup : devIDs.Nodup)
    (hknown : ∀ devID ∈ devIDs, s.properties devID ≠ none) (h : s.DisjointIDs) (hs : p s) :
    p (s.unplugAll answers devIDs) := by
  induction devIDs generalizing s with
  | nil => exact hs
  | cons devID devIDs ih =>
    obtain ⟨hnotMem, hnodup⟩ := List.nodup_cons.mp hnodup
    have hfiles := h.files_unplugDevice devID (answers devID)
    have hnext : ∀ id ∈ devIDs, (s.unplugDevice devID (answers devID)).properties id ≠ none := by
      intro id hid
      have hne : id ≠ devID := by
        rintro rfl
        exact hnotMem hid
      rw [hfiles.properties, if_neg hne]
      exact hknown id (List.mem_cons_of_mem _ hid)
    exact ih hnodup hnext (hfiles.disjointIDs h fun _ => rfl)
      (hp s devID h (hknown devID List.mem_cons_self) hs)

/-! ### Every step -/

lemma files_clearDevices (answers : δ → DeviceAnswers) (id : δ) :
    (s.clearDevices answers).startedDevices[id]? = none ∧
      (s.clearDevices answers).stoppedDevices[id]? = none :=
  ⟨Std.ExtTreeMap.getElem?_empty, Std.ExtTreeMap.getElem?_empty⟩

/-- No step files a device in both containers. -/
lemma DisjointIDs.step (h : s.DisjointIDs) (event : DevicesEvent δ) : (s.step event).DisjointIDs := by
  have hplace : ∀ {s' : ServiceDevices δ}, InPlace (fun _ => ()) s s' → s'.DisjointIDs :=
    fun hplace => hplace.disjointIDs h
  cases event with
  | startDevice devID answers => exact (h.files_startDevice devID answers).disjointIDs h fun _ => rfl
  | stopDevice devID answers =>
    exact (h.files_stopDevice devID answers).disjointIDs h fun hnone => by cases hnone
  | unplugDevice devID answers => exact (h.files_unplugDevice devID answers).disjointIDs h fun _ => rfl
  | clearDevices answers => exact fun id _ => (files_clearDevices answers id).2
  | saveDeviceConfigurationFile devID answer =>
    exact hplace (inPlace_saveDeviceConfigurationFile (fun _ _ => rfl) answer)
  | setDeviceCurrentBankID devID bankID =>
    exact hplace (inPlace_setDeviceCurrentBankID (fun _ _ => rfl) bankID)
  | setDeviceMacro devID keyID events =>
    exact hplace (inPlace_setDeviceMacro (fun _ _ => rfl) keyID events)
  | clearDeviceMacro devID keyID => exact hplace (inPlace_clearDeviceMacro (fun _ _ => rfl) keyID)
  | checkNotifyEvents reads files =>
    exact hplace (inPlace_checkNotifyEvents (fun _ _ => rfl) reads files)

lemma disjointIDs_init (directory : String → String) :
    ({ directory } : ServiceDevices δ).DisjointIDs :=
  fun _ _ => Std.ExtTreeMap.getElem?_empty

lemma disjointIDs_run (directory : String → String) (events : List (DevicesEvent δ)) :
    (Run.run step ({ directory } : ServiceDevices δ) events).DisjointIDs :=
  (Run.steps_true events).induction (disjointIDs_init directory) fun _ event h _ => h.step event

/-- The device is in `_startedDevices` only. -/
def OnlyStarted (s : ServiceDevices δ) (devID : δ) : Prop :=
  s.startedDevices[devID]?.isSome ∧ s.stoppedDevices[devID]? = none

/-- The device is in `_stoppedDevices` only. -/
def OnlyStopped (s : ServiceDevices δ) (devID : δ) : Prop :=
  s.startedDevices[devID]? = none ∧ s.stoppedDevices[devID]?.isSome

/-- The device is in neither container. -/
def Unknown (s : ServiceDevices δ) (devID : δ) : Prop :=
  s.startedDevices[devID]? = none ∧ s.stoppedDevices[devID]? = none

end ServiceDevices

/-- After any calls no device is in both containers. Whatever device is started, stopped or unplugged
then is only where it belongs, and all that is known of it and of the others is unchanged. -/
theorem containers_of_run (directory : String → String) (events : List (DevicesEvent δ)) :
    let s : ServiceDevices δ := Run.run ServiceDevices.step { directory } events
    s.DisjointIDs ∧ ∀ (devID : δ) (answers : DeviceAnswers),
      (s.startDevice devID answers).OnlyStarted devID ∧
      (s.stopDevice devID answers).OnlyStopped devID ∧
      (s.unplugDevice devID answers).Unknown devID ∧
      (∀ answers : δ → DeviceAnswers, (s.clearDevices answers).Unknown devID) ∧
      ∀ id device, s.properties id = some device →
        (s.startDevice devID answers).properties id = some device ∧
        (s.stopDevice devID answers).properties id = some device ∧
        (id ≠ devID → (s.unplugDevice devID answers).properties id = some device) := by
  intro s
  have h : s.DisjointIDs := ServiceDevices.disjointIDs_run directory events
  refine ⟨h, fun devID answers => ?_⟩
  have hstart := h.files_startDevice devID answers
  have hstop := h.files_stopDevice devID answers
  have hunplug := h.files_unplugDevice devID answers
  refine ⟨⟨?_, ?_⟩, ⟨?_, ?_⟩, ⟨?_, ?_⟩, fun answers => ServiceDevices.files_clearDevices answers devID,
    fun id device hdevice => ⟨?_, ?_, fun hid => ?_⟩⟩
  · rw [hstart.started, if_pos rfl]
    rfl
  · rw [hstart.stopped, if_pos rfl]
  · rw [hstop.started, if_pos rfl]
  · rw [hstop.stopped, if_pos rfl]
    rfl
  · rw [hunplug.started, if_pos rfl]
  · rw [hunplug.stopped, if_pos rfl]
  · rw [hstart.properties]
    exact ServiceDevices.propertiesD_of_known hdevice
  · rw [hstop.properties]
    exact ServiceDevices.propertiesD_of_known hdevice
  · rw [hunplug.properties, if_neg hid, hdevice]

end GLogiK
