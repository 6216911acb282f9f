import GLogiK.Daemon.Refinement
import GLogiK.Keyboard.Session
import GLogiK.DBus.ArgTypes

/-!
# The plugins managers of LCD devices

`initializeDevice` makes a plugins manager for a device with an LCD screen, and `closeUSBDevice`
destroys it. A device whose initialization fails stays in `_initializedDevices` without manager,
where the next `initializeDevice` finds it; a device that is closed is no longer there.
-/

namespace GLogiK

variable {δ : Type*} [LinearOrder δ]

/-! ### Reading the properties of the plugins -/

/-- `plugins` are the properties that the plugins manager made for a device returns; `none` when
the manager is null. -/
def KeyboardDriver.getDeviceLCDPluginsProperties (driver : KeyboardDriver δ)
    (plugins : USBDeviceID δ → LCDPPArray) (devID : δ) : Option LCDPPArray :=
  match driver.initializedDevices[devID]? with
  | none => some []
  | some device =>
    if device.hasLCDPluginsManager then some (plugins device.toUSBDeviceID) else none

/-! ### Devices that have their manager -/

/-- A device with an LCD screen has a plugins manager. -/
def USBDevice.PluginsReady {δ : Type*} (device : USBDevice δ) : Prop :=
  device.checkDeviceCapability .lcdScreen → device.hasLCDPluginsManager

instance {δ : Type*} (device : USBDevice δ) : Decidable device.PluginsReady :=
  inferInstanceAs (Decidable (_ → _))

section

omit [LinearOrder δ]

variable {device : USBDevice δ}

lemma pluginsReady_newUSBDevice (det : USBDeviceID δ) : (newUSBDevice det).PluginsReady := fun h => h

lemma USBDevice.Same.pluginsReady {device' : USBDevice δ} (h : device.Same device')
    (hdevice : device.PluginsReady) : device'.PluginsReady := by
  intro hlcd
  rw [h.id] at hlcd
  rw [h.manager]
  exact hdevice hlcd

/-- Only a failed initialization leaves an open device without its manager. -/
lemma pluginsReady_opening_iff (h : device.PluginsReady) (result : OpenResult) :
    (∀ device', (KeyboardDriver.opening device result).1 = some device' → device'.PluginsReady) ↔
      (result = .initFails → device.checkDeviceCapability .lcdScreen = false) := by
  cases result with
  | opened =>
    refine iff_of_true ?_ fun hinit => by cases hinit
    rintro _ ⟨rfl⟩
    exact (same_resetDeviceState device).pluginsReady h
  | openFails =>
    refine iff_of_true ?_ fun hinit => by cases hinit
    rintro _ ⟨rfl⟩
    exact h
  | spawnFails =>
    refine iff_of_true ?_ fun hinit => by cases hinit
    intro device' hnone
    cases hnone
  | initFails =>
    constructor
    · intro hready _
      cases hlcd : device.checkDeviceCapability .lcdScreen with
      | false => rfl
      | true => exact absurd (hready _ rfl hlcd) Bool.false_ne_true
    · rintro hnot _ ⟨rfl⟩ hlcd
      exact absurd ((hnot rfl).symm.trans hlcd) Bool.false_ne_true

end

/-! ### Runs of a driver -/

namespace KeyboardDriver

/-- A call of one of the driver's functions, or a turn of a listening thread. -/
inductive Operation (δ : Type*)
  | initializeDevice (det : USBDeviceID δ)
  | openDevice (det : USBDeviceID δ) (result : OpenResult)
  | closeDevice (det : USBDeviceID δ)
  | resetDeviceState (devID : δ)
  | setDeviceActiveConfiguration (devID : δ) (c : RGBBytes) (LCDPluginsMask1 : UInt64)
  | keysTurn (devID : δ) (turn : KeysTurn)
  | stopThreads (devID : δ)

def step (driver : KeyboardDriver δ) : Operation δ → KeyboardDriver δ
  | .initializeDevice det => driver.initializeDevice det
  | .openDevice det result => (driver.openDevice det result).1
  | .closeDevice det => (driver.closeDevice det).1
  | .resetDeviceState devID => driver.resetDeviceState devID
  | .setDeviceActiveConfiguration devID c LCDPluginsMask1 =>
    driver.setDeviceActiveConfiguration devID c LCDPluginsMask1
  | .keysTurn devID turn => (driver.runThread devID (GLogiK.keysTurn · turn)).1
  | .stopThreads devID =>
    (driver.runThread devID fun d => ({ d with threadsStatus := false }, [])).1

/-- Every entry of `_initializedDevices` with an LCD screen has a plugins manager. -/
def PluginsReady (driver : KeyboardDriver δ) : Prop :=
  ∀ (devID : δ) (device : USBDevice δ), driver.initializedDevices[devID]? = some device →
    device.PluginsReady

/-- The operation does not open an LCD device whose initialization requests throw. -/
def KeepsManagers (driver : KeyboardDriver δ) : Operation δ → Prop
  | .openDevice det .initFails => ∀ device, driver.initializedDevices[det.devID]? = some device →
    device.checkDeviceCapability .lcdScreen = false
  | _ => True

variable {driver driver' : KeyboardDriver δ}

/-- The driver after what it holds of one device has changed. -/
lemma PluginsReady.setHeld_iff (h : driver.PluginsReady) {devID : δ} {held : Option (USBDevice δ)}
    (hheld : ∀ id, driver'.initializedDevices[id]? =
      if id = devID then held else driver.initializedDevices[id]?) :
    driver'.PluginsReady ↔ ∀ device, held = some device → device.PluginsReady := by
  constructor
  · intro hready device hdevice
    refine hready devID device ?_
    rw [hheld, if_pos rfl, hdevice]
  · intro hready id device hdevice
    rw [hheld] at hdevice
    split_ifs at hdevice
    · exact hready device hdevice
    · exact h id device hdevice

lemma PluginsReady.initializeDevice (h : driver.PluginsReady) (det : USBDeviceID δ) :
    (driver.initializeDevice det).PluginsReady := by
  rw [h.setHeld_iff (initializeDevice_held det)]
  rintro _ ⟨rfl⟩
  cases hdevice : driver.initializedDevices[det.devID]? with
  | none => exact pluginsReady_newUSBDevice det
  | some device => exact h det.devID device hdevice

lemma PluginsReady.closeDevice (h : driver.PluginsReady) (det : USBDeviceID δ) :
    (driver.closeDevice det).1.PluginsReady := by
  rw [h.setHeld_iff (closeDevice_held det)]
  rintro _ ⟨⟩

lemma PluginsReady.openDevice_iff (h : driver.PluginsReady) (det : USBDeviceID δ)
    (result : OpenResult) :
    (driver.openDevice det result).1.PluginsReady ↔
      driver.KeepsManagers (.openDevice det result) := by
  cases hdevice : driver.initializedDevices[det.devID]? with
  | none =>
    simp only [KeyboardDriver.openDevice, hdevice]
    refine iff_of_true h ?_
    cases result with
    | initFails => exact fun device hsome => by rw [hdevice] at hsome; cases hsome
    | _ => trivial
  | some device =>
    obtain ⟨hheld, _⟩ := openDevice_held hdevice result
    rw [h.setHeld_iff hheld, pluginsReady_opening_iff (h det.devID device hdevice)]
    cases result with
    | initFails => simp [KeepsManagers, hdevice]
    | _ => simp [KeepsManagers]

/-- An operation on a device that is held. -/
lemma PluginsReady.setDevice (h : driver.PluginsReady) {devID : δ} {device device' : USBDevice δ}
    (hdevice : driver.initializedDevices[devID]? = some device) (hsame : device.Same device') :
    (driver.setDevice devID device').PluginsReady := by
  rw [h.setHeld_iff fun id => setDevice_held device' id]
  rintro _ ⟨rfl⟩
  exact hsame.pluginsReady (h devID device hdevice)

lemma PluginsReady.runThread (h : driver.PluginsReady) (devID : δ)
    {op : USBDevice δ → USBDevice δ × List (DeviceSignal δ)}
    (hop : ∀ device : USBDevice δ, device.Same (op device).1) :
    (driver.runThread devID op).1.PluginsReady := by
  rw [KeyboardDriver.runThread]
  cases hdevice : driver.initializedDevices[devID]? with
  | none => exact h
  | some device => exact h.setDevice hdevice (hop device)

lemma PluginsReady.step_iff (h : driver.PluginsReady) (op : Operation δ) :
    (driver.step op).PluginsReady ↔ driver.KeepsManagers op := by
  cases op with
  | openDevice det result => exact h.openDevice_iff det result
  | initializeDevice det => exact iff_of_true (h.initializeDevice det) trivial
  | closeDevice det => exact iff_of_true (h.closeDevice det) trivial
  | keysTurn devID turn =>
    exact iff_of_true (h.runThread devID fun device => same_keysTurn device turn) trivial
  | stopThreads devID => exact iff_of_true (h.runThread devID fun _ => ⟨rfl, rfl⟩) trivial
  | resetDeviceState devID =>
    refine iff_of_true ?_ trivial
    rw [step, KeyboardDriver.resetDeviceState]
    cases hdevice : driver.initializedDevices[devID]? with
    | none => exact h
    | some device =>
      have hcall : (driver.call (.resetDeviceState devID)).PluginsReady := h
      exact hcall.setDevice hdevice (same_resetDeviceState device)
  | setDeviceActiveConfiguration devID c mask =>
    refine iff_of_true ?_ trivial
    rw [step, KeyboardDriver.setDeviceActiveConfiguration]
    cases hdevice : driver.initializedDevices[devID]? with
    | none => exact h
    | some device =>
      have hcall : (driver.call (.setDeviceActiveConfiguration devID c mask)).PluginsReady := h
      exact hcall.setDevice hdevice (same_setDeviceActiveConfiguration device c mask)

/-- In a run of a driver every state is ready exactly when no LCD device is opened whose
initialization requests throw. -/
theorem pluginsReady_iff (driverID : UInt16) (ops : List (Operation δ)) :
    let driver : KeyboardDriver δ := { driverID := driverID }
    Run.Steps step (fun driver op => (driver.step op).PluginsReady) driver ops ↔
      Run.Steps step KeepsManagers driver ops := by
  have hready : ({ driverID := driverID } : KeyboardDriver δ).PluginsReady := by
    intro devID device hdevice
    simp at hdevice
  have hok : ∀ (driver : KeyboardDriver δ) (op : Operation δ), True → driver.PluginsReady →
      ((driver.step op).PluginsReady ↔ driver.KeepsManagers op) :=
    fun driver op _ h => h.step_iff op
  exact Run.steps_iff_of_keeps trivial hready (fun _ _ _ => trivial) hok ops

/-- The initialization of the opened device fails, and its entry stays without manager. -/
theorem not_pluginsReady_initFails :
    ¬ ∀ (driverID : UInt16) (ops : List (Operation ℕ)),
      (Run.run step ({ driverID := driverID } : KeyboardDriver ℕ) ops).PluginsReady := by
  intro h
  let g510 : USBDeviceID ℕ :=
    { devID := 0, capabilities := 15, driverID := 0, GKeysTransferLength := 5 }
  have hready := h 0 [.initializeDevice g510, .openDevice g510 .initFails] 0
  have hall := (Option.all_eq_true _ _).mpr fun device hdevice =>
    decide_eq_true (hready device hdevice)
  revert hall
  decide +kernel

end KeyboardDriver

end GLogiK
