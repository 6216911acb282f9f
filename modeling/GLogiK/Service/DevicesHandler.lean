import GLogiK.Keyboard.Device
import GLogiK.Macro.Basic

/-!
# The devices of the desktop service

`DevicesHandler`: the devices a service knows, each with the configuration it has in memory. What
the daemon and the configuration file say about a device is an argument.
-/

namespace GLogiK

variable {δ : Type*} [LinearOrder δ]

/-! ### Properties of a device -/

inductive GKeyEventType
  | gkeyInactive
  | gkeyMacro
  | gkeyRuncmd
  | gkeyInvalid
  deriving DecidableEq, Repr

structure GKeysEvent where
  GKeyMacro : MacroType := []
  GKeyCommand : String := ""
  GKeyEventType : GKeyEventType := .gkeyInactive
  deriving DecidableEq, Repr

/-- The constructor from recorded events. -/
def GKeysEvent.new (events : MacroType) : GKeysEvent where
  GKeyMacro := events
  GKeyEventType := if events = [] then .gkeyInactive else .gkeyMacro

/-- `banksMap_type`; a bank that is not in the map has no key. -/
abbrev BanksMap := MKeysID → GKeysID → Option GKeysEvent

/-- The part of the properties that is read from the configuration file. -/
structure DeviceConfiguration where
  RGB : RGBBytes := defaultRGB
  LCDPluginsMask1 : UInt64 := 0
  GKeysBanks : BanksMap := fun _ _ => none

structure DeviceProperties extends DeviceConfiguration where
  currentBankID : MKeysID := .m0

/-- A device that was not known before. -/
def DeviceProperties.new (loaded : DeviceConfiguration) : DeviceProperties := { loaded with }

/-- The banks without the keys that are erased after a file was loaded. -/
def checkBanksKeys (banks : BanksMap) : BanksMap :=
  fun bankID keyID => if keyID = GKeyID_INV then none else banks bankID keyID

/-- A configuration as it is after `load`. -/
def DeviceConfiguration.load (file : DeviceConfiguration) : DeviceConfiguration where
  RGB := file.RGB
  LCDPluginsMask1 := if file.LCDPluginsMask1 = 0 then GK_LCD_SPLASHSCREEN ||| GK_LCD_SYSTEM_MONITOR
    else file.LCDPluginsMask1
  GKeysBanks := checkBanksKeys file.GKeysBanks

/-! ### Events of the keys -/

def setKey (banks : BanksMap) (bankID : MKeysID) (keyID : GKeysID) (event : GKeysEvent) : BanksMap :=
  fun bankID' keyID' => if bankID' = bankID ∧ keyID' = keyID then some event else banks bankID' keyID'

/-- `setMacro` of `GKeysEventManager`; `none` when it throws. An invalid key is skipped. -/
def setMacro (banks : BanksMap) (bankID : MKeysID) (keyID : GKeysID) (events : MacroType) :
    Option BanksMap :=
  if keyID = GKeyID_INV then some banks
  else if MACRO_T_MAX_SIZE ≤ (checkMacro events).length then none
  else (banks bankID keyID).map fun _ => setKey banks bankID keyID (.new (checkMacro events))

/-- `clearMacro` of `GKeysEventManager`; `none` when it throws or there is nothing to clear. -/
def clearMacro (banks : BanksMap) (bankID : MKeysID) (keyID : GKeysID) : Option BanksMap :=
  if keyID = GKeyID_INV then none
  else
    match banks bankID keyID with
    | none       => none
    | some event =>
      if event.GKeyMacro = [] then none
      else some (setKey banks bankID keyID { event with
        GKeyMacro := []
        GKeyEventType := .gkeyInactive })

/-! ### The devices handler -/

/-- A device is never filed as started and as stopped. The containers with all that is kept of a
device do the same, see `ServiceDevices.Refines`. -/
structure DevicesHandler (δ : Type*) [LinearOrder δ] where
  startedDevices : StdMap δ DeviceProperties := ∅
  stoppedDevices : StdMap δ DeviceProperties := ∅
  disjoint : ∀ devID : δ, startedDevices[devID]?.isSome → stoppedDevices[devID]? = none := by simp

namespace DevicesHandler

variable (h : DevicesHandler δ)

/-- The device is in `_startedDevices`, and not in `_stoppedDevices`. -/
def fileStarted (devID : δ) (device : DeviceProperties) : DevicesHandler δ where
  startedDevices := h.startedDevices.insert devID device
  stoppedDevices := h.stoppedDevices.erase devID
  disjoint id hid := by
    rw [getElem?_insert_eq] at hid
    rw [getElem?_erase_eq]
    split_ifs at hid ⊢
    · rfl
    · exact h.disjoint id hid

/-- The device is in `_stoppedDevices`, and not in `_startedDevices`. -/
def fileStopped (devID : δ) (device : DeviceProperties) : DevicesHandler δ where
  startedDevices := h.startedDevices.erase devID
  stoppedDevices := h.stoppedDevices.insert devID device
  disjoint id hid := by
    rw [getElem?_erase_eq] at hid
    rw [getElem?_insert_eq]
    split_ifs at hid ⊢
    · cases hid
    · exact h.disjoint id hid

/-- `loaded` are the properties of a device that was not known before. -/
def startDevice (devID : δ) (loaded : DeviceConfiguration) : DevicesHandler δ :=
  match h.startedDevices[devID]? with
  | some _ => h
  | none =>
    match h.stoppedDevices[devID]? with
    | some device => h.fileStarted devID device
    | none        => h.fileStarted devID (.new loaded)

/-- A device that is not known is started first. -/
def stopDevice (devID : δ) (loaded : DeviceConfiguration) : DevicesHandler δ :=
  match h.stoppedDevices[devID]? with
  | some _ => h
  | none =>
    match h.startedDevices[devID]? with
    | some device => h.fileStopped devID device
    | none =>
      let h := h.startDevice devID loaded
      match h.startedDevices[devID]? with
      | some device => h.fileStopped devID device
      | none        => h

def unrefDevice (devID : δ) : DevicesHandler δ where
  startedDevices := h.startedDevices
  stoppedDevices := h.stoppedDevices.erase devID
  disjoint id hid := by
    rw [getElem?_erase_eq]
    split_ifs
    · rfl
    · exact h.disjoint id hid

def unplugDevice (devID : δ) (loaded : DeviceConfiguration) : DevicesHandler δ :=
  match h.stoppedDevices[devID]? with
  | some _ => h.unrefDevice devID
  | none   => (h.stopDevice devID loaded).unrefDevice devID

/-- It throws, and nothing is changed, if the device is not started. -/
def setDeviceCurrentBankID (devID : δ) (bankID : MKeysID) : DevicesHandler δ :=
  match h.startedDevices[devID]? with
  | none        => h
  | some device => h.fileStarted devID { device with currentBankID := bankID }

/-- `setMacro` on the banks that `getDeviceBanks` returns. -/
def setDeviceMacro (devID : δ) (keyID : GKeysID) (events : MacroType) :
    Option (DevicesHandler δ) :=
  h.startedDevices[devID]?.bind fun device =>
    (setMacro device.GKeysBanks device.currentBankID keyID events).map fun banks =>
      h.fileStarted devID { device with GKeysBanks := banks }

/-- `clearMacro` on the banks that `getDeviceBanks` returns. -/
def clearDeviceMacro (devID : δ) (keyID : GKeysID) : Option (DevicesHandler δ) :=
  h.startedDevices[devID]?.bind fun device =>
    (clearMacro device.GKeysBanks device.currentBankID keyID).map fun banks =>
      h.fileStarted devID { device with GKeysBanks := banks }

/-- The properties of a device, in either container. -/
def properties (devID : δ) : Option DeviceProperties :=
  h.startedDevices[devID]?.or h.stoppedDevices[devID]?

/-- The current bank of a device; the one of a new device if it is not known. -/
def bank (devID : δ) : MKeysID := (h.properties devID).elim .m0 (·.currentBankID)

/-! ### What the operations do -/

variable {h} {devID : δ}

@[simp] lemma fileStarted_started (device : DeviceProperties) (id : δ) :
    (h.fileStarted devID device).startedDevices[id]? =
      if id = devID then some device else h.startedDevices[id]? :=
  getElem?_insert_eq _ _ _ _

@[simp] lemma fileStarted_stopped (device : DeviceProperties) (id : δ) :
    (h.fileStarted devID device).stoppedDevices[id]? =
      if id = devID then none else h.stoppedDevices[id]? :=
  getElem?_erase_eq _ _ _

@[simp] lemma fileStopped_started (device : DeviceProperties) (id : δ) :
    (h.fileStopped devID device).startedDevices[id]? =
      if id = devID then none else h.startedDevices[id]? :=
  getElem?_erase_eq _ _ _

@[simp] lemma fileStopped_stopped (device : DeviceProperties) (id : δ) :
    (h.fileStopped devID device).stoppedDevices[id]? =
      if id = devID then some device else h.stoppedDevices[id]? :=
  getElem?_insert_eq _ _ _ _

lemma stopped_of_started {device : DeviceProperties}
    (hdevice : h.startedDevices[devID]? = some device) :
    h.stoppedDevices[devID]? = none :=
  h.disjoint devID (by simp [hdevice])

lemma started_of_stopped {device : DeviceProperties}
    (hdevice : h.stoppedDevices[devID]? = some device) :
    h.startedDevices[devID]? = none := by
  cases hstarted : h.startedDevices[devID]? with
  | none => rfl
  | some device' =>
    rw [stopped_of_started hstarted] at hdevice
    cases hdevice

lemma startDevice_started (loaded : DeviceConfiguration) (id : δ) :
    (h.startDevice devID loaded).startedDevices[id]? =
      if id = devID then some ((h.properties devID).getD (.new loaded))
      else h.startedDevices[id]? := by
  simp only [startDevice, properties]
  cases hstarted : h.startedDevices[devID]? with
  | some device => exact getElem?_of_eq hstarted id
  | none =>
    cases h.stoppedDevices[devID]? with
    | some device => exact fileStarted_started device id
    | none => exact fileStarted_started _ id

lemma startDevice_stopped (loaded : DeviceConfiguration) (id : δ) :
    (h.startDevice devID loaded).stoppedDevices[id]? =
      if id = devID then none else h.stoppedDevices[id]? := by
  simp only [startDevice]
  cases hstarted : h.startedDevices[devID]? with
  | some device => exact getElem?_of_eq (stopped_of_started hstarted) id
  | none =>
    cases h.stoppedDevices[devID]? with
    | some device => exact fileStarted_stopped device id
    | none => exact fileStarted_stopped _ id

lemma stopDevice_started (loaded : DeviceConfiguration) (id : δ) :
    (h.stopDevice devID loaded).startedDevices[id]? =
      if id = devID then none else h.startedDevices[id]? := by
  simp only [stopDevice]
  cases hstopped : h.stoppedDevices[devID]? with
  | some device => exact getElem?_of_eq (started_of_stopped hstopped) id
  | none =>
    cases hstarted : h.startedDevices[devID]? with
    | some device => exact fileStopped_started device id
    | none =>
      simp only [startDevice_started, if_true, fileStopped_started]
      split_ifs <;> rfl

lemma stopDevice_stopped (loaded : DeviceConfiguration) (id : δ) :
    (h.stopDevice devID loaded).stoppedDevices[id]? =
      if id = devID then some ((h.properties devID).getD (.new loaded))
      else h.stoppedDevices[id]? := by
  simp only [stopDevice, properties]
  cases hstopped : h.stoppedDevices[devID]? with
  | some device =>
    rw [started_of_stopped hstopped]
    exact getElem?_of_eq hstopped id
  | none =>
    cases hstarted : h.startedDevices[devID]? with
    | some device => exact fileStopped_stopped device id
    | none =>
      simp only [startDevice_started, if_true, fileStopped_stopped, startDevice_stopped, properties,
        hstarted, hstopped]
      split_ifs <;> rfl

lemma unplugDevice_started (loaded : DeviceConfiguration) (id : δ) :
    (h.unplugDevice devID loaded).startedDevices[id]? =
      if id = devID then none else h.startedDevices[id]? := by
  simp only [unplugDevice]
  cases hstopped : h.stoppedDevices[devID]? with
  | some device =>
    have hstop : (h.stopDevice devID loaded).startedDevices[id]? = _ := stopDevice_started loaded id
    simp only [stopDevice, hstopped] at hstop
    exact hstop
  | none => exact stopDevice_started loaded id

lemma unplugDevice_stopped (loaded : DeviceConfiguration) (id : δ) :
    (h.unplugDevice devID loaded).stoppedDevices[id]? =
      if id = devID then none else h.stoppedDevices[id]? := by
  simp only [unplugDevice]
  cases hstopped : h.stoppedDevices[devID]? with
  | some device => exact getElem?_erase_eq _ _ _
  | none =>
    simp only [unrefDevice, getElem?_erase_eq, stopDevice_stopped]
    split_ifs <;> rfl

/-- A started device is changed in place. -/
lemma fileStarted_stopped_of_started {device : DeviceProperties}
    (hdevice : h.startedDevices[devID]? = some device) (device' : DeviceProperties) (id : δ) :
    (h.fileStarted devID device').stoppedDevices[id]? = h.stoppedDevices[id]? := by
  rw [fileStarted_stopped]
  exact (getElem?_of_eq (stopped_of_started hdevice) id).symm

/-- The same devices are started and stopped. -/
def SameDevices (h h' : DevicesHandler δ) : Prop :=
  ∀ id : δ, h'.startedDevices[id]?.isSome = h.startedDevices[id]?.isSome ∧
    h'.stoppedDevices[id]?.isSome = h.stoppedDevices[id]?.isSome

lemma sameDevices_fileStarted {device : DeviceProperties}
    (hdevice : h.startedDevices[devID]? = some device) (device' : DeviceProperties) :
    SameDevices h (h.fileStarted devID device') := by
  intro id
  rw [fileStarted_stopped_of_started hdevice, fileStarted_started]
  refine ⟨?_, rfl⟩
  split_ifs with hid
  · rw [hid, hdevice]
    rfl
  · rfl

lemma sameDevices_setDeviceCurrentBankID (bankID : MKeysID) :
    SameDevices h (h.setDeviceCurrentBankID devID bankID) := by
  simp only [setDeviceCurrentBankID]
  cases hdevice : h.startedDevices[devID]? with
  | none => exact fun id => ⟨rfl, rfl⟩
  | some device => exact sameDevices_fileStarted hdevice _

/-! ### Current banks -/

lemma bank_startDevice (loaded : DeviceConfiguration) (id : δ) :
    (h.startDevice devID loaded).bank id = h.bank id := by
  rw [bank, bank, properties, startDevice_started, startDevice_stopped]
  split_ifs with hid
  · rw [hid]
    cases h.properties devID <;> rfl
  · rfl

lemma bank_stopDevice (loaded : DeviceConfiguration) (id : δ) :
    (h.stopDevice devID loaded).bank id = h.bank id := by
  rw [bank, bank, properties, stopDevice_started, stopDevice_stopped]
  split_ifs with hid
  · rw [hid]
    cases h.properties devID <;> rfl
  · rfl

lemma bank_unplugDevice (loaded : DeviceConfiguration) {id : δ} (hid : id ≠ devID) :
    (h.unplugDevice devID loaded).bank id = h.bank id := by
  rw [bank, bank, properties, unplugDevice_started, unplugDevice_stopped, if_neg hid, if_neg hid]
  rfl

lemma bank_fileStarted {device : DeviceProperties} (hdevice : h.startedDevices[devID]? = some device)
    (device' : DeviceProperties) (id : δ) :
    (h.fileStarted devID device').bank id =
      if id = devID then device'.currentBankID else h.bank id := by
  rw [bank, properties, fileStarted_stopped_of_started hdevice, fileStarted_started]
  split_ifs with hid
  · rfl
  · rfl

lemma bank_setDeviceCurrentBankID (bankID : MKeysID) (id : δ) :
    (h.setDeviceCurrentBankID devID bankID).bank id =
      if id = devID ∧ h.startedDevices[devID]?.isSome then bankID else h.bank id := by
  simp only [setDeviceCurrentBankID]
  cases hdevice : h.startedDevices[devID]? with
  | none => simp
  | some device =>
    rw [bank_fileStarted hdevice]
    simp

/-- Neither the containers nor the current banks change. -/
def SameBanks (h h' : DevicesHandler δ) : Prop := SameDevices h h' ∧ ∀ id, h'.bank id = h.bank id

lemma sameBanks_refl : SameBanks h h := ⟨fun _ => ⟨rfl, rfl⟩, fun _ => rfl⟩

/-- The keys of a started device are changed, or the change throws. -/
lemma sameBanks_change (change : DeviceProperties → Option BanksMap) :
    SameBanks h ((h.startedDevices[devID]?.bind fun device => (change device).map fun banks =>
      h.fileStarted devID { device with GKeysBanks := banks }).getD h) := by
  cases hdevice : h.startedDevices[devID]? with
  | none => exact sameBanks_refl
  | some device =>
    rw [Option.bind_some]
    cases change device with
    | none => exact sameBanks_refl
    | some banks =>
      refine ⟨sameDevices_fileStarted hdevice _, fun id => ?_⟩
      rw [Option.map_some, Option.getD_some, bank_fileStarted hdevice]
      split_ifs with hid
      · rw [hid, bank, properties, hdevice]
        rfl
      · rfl

lemma sameBanks_setDeviceMacro (keyID : GKeysID) (events : MacroType) :
    SameBanks h ((h.setDeviceMacro devID keyID events).getD h) :=
  sameBanks_change fun device => setMacro device.GKeysBanks device.currentBankID keyID events

lemma sameBanks_clearDeviceMacro (keyID : GKeysID) :
    SameBanks h ((h.clearDeviceMacro devID keyID).getD h) :=
  sameBanks_change fun device => clearMacro device.GKeysBanks device.currentBankID keyID

end DevicesHandler

end GLogiK
