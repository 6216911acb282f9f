import GLogiK.Service.DeviceMoves

/-!
# The devices handler of the valid IDs

Seen through the valid IDs of banks and keys, the containers are those of `DevicesHandler`, and each
function does on the one what its namesake does on the other.
-/

namespace GLogiK

variable {δ : Type*} [LinearOrder δ]

namespace ServiceDevices

variable {s s' : ServiceDevices δ} {h : DevicesHandler δ} {devID : δ} {device : DeviceRecord}

/-- The containers are those of the handler, seen through the valid IDs. -/
structure Refines (s : ServiceDevices δ) (h : DevicesHandler δ) : Prop where
  started : ∀ id : δ, s.startedDevices[id]?.map DeviceRecord.toProperties = h.startedDevices[id]?
  stopped : ∀ id : δ, s.stoppedDevices[id]?.map DeviceRecord.toProperties = h.stoppedDevices[id]?

lemma Refines.disjointIDs (href : Refines s h) : s.DisjointIDs := by
  intro id hid
  have hstarted : h.startedDevices[id]?.isSome := by
    rw [← href.started, Option.isSome_map]
    exact hid
  have hstopped := href.stopped id
  rw [h.disjoint id hstarted] at hstopped
  exact Option.map_eq_none_iff.mp hstopped

lemma Refines.properties (href : Refines s h) (id : δ) :
    (s.properties id).map DeviceRecord.toProperties = h.properties id := by
  rw [ServiceDevices.properties, Option.map_or, href.started, href.stopped, DevicesHandler.properties]

lemma Refines.inPlace (href : Refines s h) (hplace : InPlace DeviceRecord.toProperties s s') :
    Refines s' h :=
  ⟨fun id => (hplace.started id).trans (href.started id),
    fun id => (hplace.stopped id).trans (href.stopped id)⟩

/-- A new device is at its first bank. -/
lemma currentBankID_setDeviceProperties (devID : δ) (answers : DeviceAnswers) :
    (s.setDeviceProperties devID answers).2.currentBankID = .m0 := by
  have hinit : ∀ device check answer,
      (s.initializeConfigurationDirectory device check answer).2.currentBankID =
        device.currentBankID :=
    eq_initializeConfigurationDirectory fun _ _ => rfl
  have hqueried : answers.queried.currentBankID = .m0 := answers.queried_isDefault.currentBankID
  rw [setDeviceProperties]
  simp only
  split
  · rw [DeviceRecord.load_currentBankID, hinit]
    exact hqueried
  · split
    · rw [hinit]
      exact hqueried
    · exact hqueried

/-- What the handler is told of a device that it does not know. -/
def loaded (s : ServiceDevices δ) (devID : δ) (answers : DeviceAnswers) : DeviceConfiguration :=
  (s.setDeviceProperties devID answers).2.toConfiguration

lemma Refines.propertiesD (href : Refines s h) (devID : δ) (answers : DeviceAnswers) :
    (s.propertiesD devID answers).toProperties =
      (h.properties devID).getD (.new (s.loaded devID answers)) := by
  rw [← href.properties, ServiceDevices.propertiesD]
  cases s.properties devID with
  | some device => rfl
  | none =>
    have hbank := currentBankID_setDeviceProperties (s := s) devID answers
    rw [Option.getD_none, DeviceRecord.toProperties, hbank]
    rfl

lemma Refines.startDevice (href : Refines s h) (devID : δ) (answers : DeviceAnswers) :
    Refines (s.startDevice devID answers) (h.startDevice devID (s.loaded devID answers)) := by
  have hfiles := href.disjointIDs.files_startDevice devID answers
  constructor
  · intro id
    rw [hfiles.started, DevicesHandler.startDevice_started, ← href.propertiesD, ← href.started]
    split_ifs <;> rfl
  · intro id
    rw [hfiles.stopped, DevicesHandler.startDevice_stopped, ← href.stopped]
    split_ifs <;> rfl

lemma Refines.stopDevice (href : Refines s h) (devID : δ) (answers : DeviceAnswers) :
    Refines (s.stopDevice devID answers) (h.stopDevice devID (s.loaded devID answers)) := by
  have hfiles := href.disjointIDs.files_stopDevice devID answers
  constructor
  · intro id
    rw [hfiles.started, DevicesHandler.stopDevice_started, ← href.started]
    split_ifs <;> rfl
  · intro id
    rw [hfiles.stopped, DevicesHandler.stopDevice_stopped, ← href.propertiesD, ← href.stopped]
    split_ifs <;> rfl

lemma Refines.unplugDevice (href : Refines s h) (devID : δ) (answers : DeviceAnswers) :
    Refines (s.unplugDevice devID answers) (h.unplugDevice devID (s.loaded devID answers)) := by
  have hfiles := href.disjointIDs.files_unplugDevice devID answers
  constructor
  · intro id
    rw [hfiles.started, DevicesHandler.unplugDevice_started, ← href.started]
    split_ifs <;> rfl
  · intro id
    rw [hfiles.stopped, DevicesHandler.unplugDevice_stopped, ← href.stopped]
    split_ifs <;> rfl

/-- A started device is changed on both sides. -/
lemma Refines.insertStarted (href : Refines s h) (device' : DeviceRecord)
    (hdevice : s.startedDevices[devID]? = some device)
    (hstarted : s'.startedDevices = s.startedDevices.insert devID device')
    (hstopped : s'.stoppedDevices = s.stoppedDevices) :
    Refines s' (h.fileStarted devID device'.toProperties) := by
  have hdevice' : h.startedDevices[devID]? = some device.toProperties := by
    rw [← href.started, hdevice, Option.map_some]
  constructor
  · intro id
    rw [hstarted, getElem?_insert_eq, DevicesHandler.fileStarted_started, ← href.started]
    split_ifs <;> rfl
  · intro id
    rw [hstopped, DevicesHandler.fileStarted_stopped_of_started hdevice', href.stopped]

lemma Refines.setDeviceCurrentBankID (href : Refines s h) (devID : δ) (bankID : MKeysID) :
    Refines (s.setDeviceCurrentBankID devID bankID) (h.setDeviceCurrentBankID devID bankID) := by
  rw [ServiceDevices.setDeviceCurrentBankID, changeStarted, DevicesHandler.setDeviceCurrentBankID,
    ← href.started]
  cases hdevice : s.startedDevices[devID]? with
  | none => exact href
  | some device => exact href.insertStarted { device with currentBankID := bankID } hdevice rfl rfl

/-- The banks of a started device are changed, or the change throws. -/
lemma Refines.changeBanks (href : Refines s h) {change : DeviceRecord → Option BanksByID}
    {change' : DeviceProperties → Option BanksMap}
    (hchange : ∀ device : DeviceRecord,
      (change device).map BanksByID.toBanksMap = change' device.toProperties) :
    Refines (s.changeStarted devID fun device =>
        (change device).map fun GKeysBanks => { device with GKeysBanks })
      ((h.startedDevices[devID]?.bind fun device => (change' device).map fun banks =>
        h.fileStarted devID { device with GKeysBanks := banks }).getD h) := by
  rw [changeStarted, ← href.started]
  cases hdevice : s.startedDevices[devID]? with
  | none => exact href
  | some device =>
    simp only [Option.map_some, Option.bind_some]
    rw [← hchange]
    cases change device with
    | none => exact href
    | some banks => exact href.insertStarted { device with GKeysBanks := banks } hdevice rfl rfl

lemma Refines.setDeviceMacro (href : Refines s h) (devID : δ) (keyID : GKeysID)
    (events : MacroType) :
    Refines (s.setDeviceMacro devID keyID.byte events)
      ((h.setDeviceMacro devID keyID events).getD h) :=
  href.changeBanks fun device => BanksByID.toBanksMap_setMacro device.currentBankID keyID events

lemma Refines.clearDeviceMacro (href : Refines s h) (devID : δ) (keyID : GKeysID) :
    Refines (s.clearDeviceMacro devID keyID.byte) ((h.clearDeviceMacro devID keyID).getD h) := by
  rw [ServiceDevices.clearDeviceMacro, changeStarted, DevicesHandler.clearDeviceMacro, ← href.started]
  cases hdevice : s.startedDevices[devID]? with
  | none => exact href
  | some device =>
    have hclear :=
      @BanksByID.toBanksMap_clearMacro device.GKeysBanks device.currentBankID keyID
    simp only [Option.map_some, Option.bind_some]
    have hbanks : device.toProperties.GKeysBanks = device.GKeysBanks.toBanksMap := rfl
    have hbankID : device.toProperties.currentBankID = device.currentBankID := rfl
    rw [hbanks, hbankID, ← hclear]
    cases hresult : device.GKeysBanks.clearMacro device.currentBankID.byte keyID.byte with
    | error failure => exact href
    | ok r =>
      obtain ⟨banks, cleared⟩ := r
      cases cleared with
      | true => exact href.insertStarted { device with GKeysBanks := banks } hdevice rfl rfl
      | false =>
        -- there was no macro: the device is written back as it was
        have heq : banks = device.GKeysBanks := BanksByID.eq_of_clearMacro_false hresult
        refine href.inPlace (inPlace_insertStarted hdevice ?_ rfl rfl)
        rw [heq]

lemma Refines.saveDeviceConfigurationFile (href : Refines s h) (devID : δ)
    (answer : DirectoryAnswer) : Refines (s.saveDeviceConfigurationFile devID answer) h :=
  href.inPlace (inPlace_saveDeviceConfigurationFile (fun _ _ => rfl) answer)

lemma Refines.reloadDeviceConfigurationFile (href : Refines s h) (devID : δ)
    (file : Option SavedConfiguration) :
    Refines (s.reloadDeviceConfigurationFile devID file)
      (if devID ∈ s.ignoredFSNotifications then h
        else (h.loadDeviceConfigurationFile devID (file.map (·.toConfiguration))).getD h) := by
  rw [ServiceDevices.reloadDeviceConfigurationFile]
  split_ifs
  · exact ⟨href.started, href.stopped⟩
  · rw [DevicesHandler.loadDeviceConfigurationFile, ← href.started, ← href.stopped]
    cases hstarted : s.startedDevices[devID]? with
    | some device =>
      simp only [Option.map_some, Option.getD_some]
      rw [← DeviceRecord.toProperties_load]
      exact href.insertStarted (device.load file) hstarted rfl rfl
    | none =>
      cases hstopped : s.stoppedDevices[devID]? with
      | none => exact href
      | some device =>
        simp only [Option.map_none, Option.map_some, Option.getD_some]
        rw [← DeviceRecord.toProperties_load]
        constructor
        · intro id
          rw [DevicesHandler.fileStopped_started, href.started]
          exact getElem?_of_eq (by rw [← href.started, hstarted, Option.map_none]) id
        · intro id
          rw [getElem?_insert_eq, DevicesHandler.fileStopped_stopped, ← href.stopped]
          split_ifs <;> rfl

end ServiceDevices

end GLogiK
