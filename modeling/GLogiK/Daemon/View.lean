import GLogiK.Daemon.Daemon

/-!
# One device of the daemon

What the daemon holds about one device, and what its operations do to it. The devices manager is
a family of such views: an operation on a device changes the view of that device only, see
`GLogiK.Daemon.Refinement`.
-/

namespace GLogiK

variable {δ : Type*}

/-! ### The threads and the opening of a device -/

namespace KeyboardDriver

lemma announces_joinDeviceThreads (device : USBDevice δ) :
    Announces device (joinDeviceThreads device) := by
  rw [joinDeviceThreads]
  simp only
  split_ifs
  · exact announces_checkExit.after rfl rfl
  · exact announces_of_mask rfl rfl

/-- What becomes of an initialized device that is opened, and what is broadcast. -/
def opening (device : USBDevice δ) : OpenResult → Option (USBDevice δ) × List (DeviceSignal δ)
  | .openFails  => (some device, [])
  | .initFails  => (some (closeUSBDevice device), [])
  | .spawnFails => (none, (joinDeviceThreads (GLogiK.resetDeviceState device)).2)
  | .opened     => (some (GLogiK.resetDeviceState device), [])

lemma opening_id {device device' : USBDevice δ} {result : OpenResult}
    (h : (opening device result).1 = some device') : device'.devID = device.devID := by
  cases result with
  | spawnFails => cases h
  | opened =>
    cases h
    simp only [resetDeviceState_eq]
  | _ =>
    cases h
    rfl

lemma opening_named (device : USBDevice δ) (result : OpenResult) :
    ∀ signal ∈ (opening device result).2, signal.devID = device.devID := by
  cases result with
  | spawnFails =>
    intro signal hsignal
    rw [(announces_joinDeviceThreads _).named signal hsignal]
    simp only [resetDeviceState_eq]
  | _ => exact nofun

end KeyboardDriver

/-! ### Views -/

/-- `held` is the device in `_initializedDevices` of its driver; `switches` are the banks of the
`DeviceMBankSwitch` signals that were sent for the device. -/
structure DeviceView (δ : Type*) where
  started : Option (USBDeviceID δ) := none
  stopped : Option (USBDeviceID δ) := none
  unplugged : Option (USBDeviceID δ) := none
  held : Option (USBDevice δ) := none
  switches : List MKeysID := []

namespace DeviceView

variable (v : DeviceView δ)

def status : DevicesManager.DeviceStatus :=
  if v.started.isSome then .started
  else if v.stopped.isSome then .stopped
  else if v.unplugged.isSome then .unplugged
  else .unknown

/-- The device, while it is started. -/
def device : Option (USBDevice δ) := if v.started.isSome then v.held else none

/-- The device is open, and something is done to it. -/
def onDevice (op : USBDevice δ → USBDevice δ × List (DeviceSignal δ)) : DeviceView δ :=
  match v.device with
  | none => v
  | some device =>
    { v with held := some (op device).1, switches := v.switches ++ switchesOf (op device).2 }

def reset : DeviceView δ := v.onDevice fun device => (resetDeviceState device, [])

def configure (c : RGBBytes) (LCDPluginsMask1 : UInt64) : DeviceView δ :=
  v.onDevice fun device => (setDeviceActiveConfiguration device c LCDPluginsMask1, [])

/-- The device is closed. -/
def close : DeviceView δ :=
  { v with
    held := none
    switches := v.switches ++
      v.held.elim [] fun device => switchesOf (KeyboardDriver.joinDeviceThreads device).2 }

def stop : DeviceView δ :=
  match v.started with
  | none     => v
  | some det => { v.close with started := none, stopped := some det }

/-- The device is initialized, where the driver keeps the one it holds, and opened. -/
def initAndOpen (det : USBDeviceID δ) (result : OpenResult) : DeviceView δ :=
  let opened := KeyboardDriver.opening (v.held.getD (newUSBDevice det)) result
  { v with held := opened.1, switches := v.switches ++ switchesOf opened.2 }

def start (result : OpenResult) : DeviceView δ :=
  match v.stopped with
  | none => v
  | some det =>
    let v := v.initAndOpen det result
    if result = .opened then { v with started := some det, stopped := none } else v

/-- The device is neither started nor stopped. -/
def isFree : Bool := v.started.isNone && v.stopped.isNone

/-- A detected device is initialized, and opened if asked to. -/
def detect (openDevices : Bool) (det : USBDeviceID δ) (result : OpenResult) : DeviceView δ :=
  if !v.isFree then v
  else if !openDevices then
    { v with held := some (v.held.getD (newUSBDevice det)), stopped := some det }
  else
    let v := v.initAndOpen det result
    if result = .opened then { v with started := some det } else v

/-- A stopped device is unplugged. -/
def unplugStopped : DeviceView δ :=
  match v.stopped with
  | none     => v
  | some det => { v with stopped := none, unplugged := some det }

def unplug : DeviceView δ := v.stop.unplugStopped

/-- The device is started, and its threads have ended. -/
def threadsEnded : Bool := v.started.isSome && !v.held.any (·.threadsStatus)

def checkThreads : DeviceView δ := if v.threadsEnded then v.stop else v

end DeviceView

/-! ### An invariant of views -/

/-- No thread has touched the device. -/
structure USBDevice.Idle (device : USBDevice δ) : Prop where
  mask : device.MxKeysLedsMask = 0
  mode : device.inMacroRecordMode = false

lemma USBDevice.idle_newUSBDevice (det : USBDeviceID δ) : (newUSBDevice det).Idle := ⟨rfl, rfl⟩

lemma USBDevice.Idle.closeUSBDevice {device : USBDevice δ} (h : device.Idle) :
    (KeyboardDriver.closeUSBDevice device).Idle := ⟨h.mask, h.mode⟩

lemma USBDevice.Idle.resetDeviceState {device : USBDevice δ} (h : device.Idle) :
    (GLogiK.resetDeviceState device).Idle := by
  rw [resetDeviceState_eq]
  refine ⟨?_, h.mode⟩
  simp only [h.mask, ite_self]

lemma USBDevice.Idle.joinDeviceThreads {device : USBDevice δ} (h : device.Idle) :
    (KeyboardDriver.joinDeviceThreads device).2 = [] := by
  simp [KeyboardDriver.joinDeviceThreads, h.mode]

namespace DeviceView

/-- A started device is held and not stopped; a device that is held without being started has no
thread. -/
structure Inv (v : DeviceView δ) : Prop where
  held : v.started.isSome → v.held.isSome
  disjoint : v.started.isSome → v.stopped = none
  idle : v.started = none → ∀ device, v.held = some device → device.Idle

variable {v : DeviceView δ}

lemma onDevice_of_started {det : USBDeviceID δ} (hstarted : v.started = some det)
    (op : USBDevice δ → USBDevice δ × List (DeviceSignal δ)) :
    v.onDevice op = { v with
      held := v.held.map fun device => (op device).1
      switches := v.switches ++ v.held.elim [] fun device => switchesOf (op device).2 } := by
  obtain ⟨started, stopped, unplugged, held, switches⟩ := v
  cases held <;> simp_all [DeviceView.onDevice, device]

@[simp] lemma onDevice_started (op : USBDevice δ → USBDevice δ × List (DeviceSignal δ)) :
    (v.onDevice op).started = v.started := by
  rw [onDevice]
  split <;> rfl

lemma onDevice_device (op : USBDevice δ → USBDevice δ × List (DeviceSignal δ)) :
    (v.onDevice op).device = v.device.map fun device => (op device).1 := by
  cases hstarted : v.started with
  | none => simp [device, hstarted]
  | some det => simp [onDevice_of_started hstarted, device, hstarted]

/-- An operation without signals. -/
lemma onDevice_map_of_started {det : USBDeviceID δ} (hstarted : v.started = some det)
    (f : USBDevice δ → USBDevice δ) :
    (v.onDevice fun device => (f device, [])) = { v with held := v.held.map f } := by
  rw [onDevice_of_started hstarted]
  cases v.held <;> simp

lemma Inv.onDevice (h : v.Inv) (op : USBDevice δ → USBDevice δ × List (DeviceSignal δ)) :
    (v.onDevice op).Inv := by
  rw [DeviceView.onDevice, device]
  cases hstarted : v.started with
  | none => exact h
  | some det =>
    cases hheld : v.held with
    | none => simpa [hstarted, hheld] using h
    | some device => exact ⟨fun _ => rfl, fun _ => h.disjoint (by simp [hstarted]), by simp⟩

lemma Inv.stop (h : v.Inv) : v.stop.Inv := by
  rw [DeviceView.stop]
  cases hstarted : v.started with
  | none => exact h
  | some det => exact ⟨by simp, by simp, by simp [close]⟩

lemma stop_of_not_started (hstarted : v.started = none) : v.stop = v := by
  simp [DeviceView.stop, hstarted]

@[simp] lemma stop_started (v : DeviceView δ) : v.stop.started = none := by
  rw [DeviceView.stop]
  cases hstarted : v.started with
  | none => exact hstarted
  | some det => rfl

/-- The device that is opened has no thread. -/
lemma Inv.idle_getD (h : v.Inv) (hstarted : v.started = none) (det : USBDeviceID δ) :
    (v.held.getD (newUSBDevice det)).Idle := by
  cases hheld : v.held with
  | none => exact USBDevice.idle_newUSBDevice det
  | some device => exact h.idle hstarted device hheld

lemma Inv.not_started_of_stopped (h : v.Inv) {det : USBDeviceID δ} (hstopped : v.stopped = some det) :
    v.started = none := by
  cases hstarted : v.started with
  | none => rfl
  | some det' =>
    have := h.disjoint (by simp [hstarted])
    simp [hstopped] at this

/-- A device that is not started is initialized and opened: it keeps its place, no signal is sent,
and what the driver holds is idle. -/
lemma Inv.initAndOpen (h : v.Inv) (hstarted : v.started = none) (det : USBDeviceID δ)
    (result : OpenResult) :
    ∃ held, v.initAndOpen det result = { v with held := held } ∧
      (∀ device, held = some device → device.Idle) ∧
      (result = .opened → held = some (resetDeviceState (v.held.getD (newUSBDevice det)))) := by
  have hidle := h.idle_getD hstarted det
  cases result with
  | opened =>
    refine ⟨some (resetDeviceState (v.held.getD (newUSBDevice det))), ?_, ?_, fun _ => rfl⟩
    · simp [DeviceView.initAndOpen, KeyboardDriver.opening]
    · rintro _ ⟨rfl⟩
      exact hidle.resetDeviceState
  | openFails =>
    refine ⟨some (v.held.getD (newUSBDevice det)), ?_, ?_, nofun⟩
    · simp [DeviceView.initAndOpen, KeyboardDriver.opening]
    · rintro _ ⟨rfl⟩
      exact hidle
  | initFails =>
    refine ⟨some (KeyboardDriver.closeUSBDevice (v.held.getD (newUSBDevice det))), ?_, ?_, nofun⟩
    · simp [DeviceView.initAndOpen, KeyboardDriver.opening]
    · rintro _ ⟨rfl⟩
      exact hidle.closeUSBDevice
  | spawnFails =>
    refine ⟨none, ?_, nofun, nofun⟩
    simp [DeviceView.initAndOpen, KeyboardDriver.opening, hidle.resetDeviceState.joinDeviceThreads]

/-- A start in full: the device is reset if it can be opened. -/
lemma Inv.start_eq (h : v.Inv) {det : USBDeviceID δ} (hstopped : v.stopped = some det)
    (result : OpenResult) :
    (result = .opened ∧ v.start result = { v with
        started := some det
        stopped := none
        held := some (resetDeviceState (v.held.getD (newUSBDevice det))) }) ∨
      (result ≠ .opened ∧ ∃ held, v.start result = { v with held := held } ∧
        ∀ device, held = some device → device.Idle) := by
  obtain ⟨held, heq, hidle, hopened⟩ := h.initAndOpen (h.not_started_of_stopped hstopped) det result
  simp only [start, hstopped, heq]
  split_ifs with hresult
  · exact Or.inl ⟨hresult, by rw [hopened hresult]⟩
  · exact Or.inr ⟨hresult, held, rfl, hidle⟩

lemma start_of_not_stopped (hstopped : v.stopped = none) (result : OpenResult) :
    v.start result = v := by
  simp [start, hstopped]

lemma Inv.start (h : v.Inv) (result : OpenResult) : (v.start result).Inv := by
  cases hstopped : v.stopped with
  | none => rwa [start_of_not_stopped hstopped]
  | some det =>
    rcases h.start_eq hstopped result with ⟨_, heq⟩ | ⟨_, held, heq, hidle⟩
    · rw [heq]
      exact ⟨fun _ => rfl, fun _ => rfl, by simp⟩
    · rw [heq]
      have hstarted := h.not_started_of_stopped hstopped
      exact ⟨by simp [hstarted], by simp [hstarted], fun _ => hidle⟩

lemma isFree_iff : v.isFree ↔ v.started = none ∧ v.stopped = none := by
  simp [isFree]

lemma detect_of_not_free (hfree : v.isFree = false) (openDevices : Bool) (det : USBDeviceID δ)
    (result : OpenResult) : v.detect openDevices det result = v := by
  simp [detect, hfree]

lemma Inv.detect (h : v.Inv) (openDevices : Bool) (det : USBDeviceID δ) (result : OpenResult) :
    (v.detect openDevices det result).Inv := by
  cases hfree : v.isFree with
  | false => rwa [detect_of_not_free hfree]
  | true =>
    obtain ⟨hstarted, hstopped⟩ := isFree_iff.mp hfree
    cases openDevices with
    | false =>
      simp only [DeviceView.detect, hfree, Bool.not_true, Bool.false_eq_true, if_false,
        Bool.not_false, if_true]
      refine ⟨by simp [hstarted], by simp [hstarted], ?_⟩
      rintro _ _ ⟨rfl⟩
      exact h.idle_getD hstarted det
    | true =>
      obtain ⟨held, heq, hidle, hopened⟩ := h.initAndOpen hstarted det result
      simp only [DeviceView.detect, hfree, Bool.not_true, Bool.false_eq_true, if_false, heq]
      split_ifs with hresult
      · rw [hopened hresult]
        exact ⟨fun _ => rfl, fun _ => hstopped, by simp⟩
      · exact ⟨by simp [hstarted], by simp [hstarted], fun _ => hidle⟩

lemma unplugStopped_of_not_stopped (hstopped : v.stopped = none) : v.unplugStopped = v := by
  simp [unplugStopped, hstopped]

lemma Inv.unplugStopped (h : v.Inv) : v.unplugStopped.Inv := by
  rw [DeviceView.unplugStopped]
  cases v.stopped with
  | none => exact h
  | some det => exact ⟨h.held, fun _ => rfl, h.idle⟩

@[simp] lemma unplugStopped_started (v : DeviceView δ) : v.unplugStopped.started = v.started := by
  rw [DeviceView.unplugStopped]
  split <;> rfl

@[simp] lemma unplug_started (v : DeviceView δ) : v.unplug.started = none := by
  simp [DeviceView.unplug]

lemma checkThreads_started (hstarted : v.started = none) : v.checkThreads.started = none := by
  simp [DeviceView.checkThreads, threadsEnded, hstarted]

lemma Inv.unplug (h : v.Inv) : v.unplug.Inv := h.stop.unplugStopped

lemma Inv.checkThreads (h : v.Inv) : v.checkThreads.Inv := by
  rw [DeviceView.checkThreads]
  split_ifs
  · exact h.stop
  · exact h

/-! ### The status -/

@[simp] lemma onDevice_status (op : USBDevice δ → USBDevice δ × List (DeviceSignal δ)) :
    (v.onDevice op).status = v.status := by
  simp only [onDevice]
  split <;> rfl

@[simp] lemma reset_status : v.reset.status = v.status := onDevice_status _

lemma stop_status (hstarted : v.started.isSome) : v.stop.status = .stopped := by
  obtain ⟨det, hdet⟩ := Option.isSome_iff_exists.mp hstarted
  simp [DeviceView.stop, hdet, status]

lemma Inv.start_status (h : v.Inv) (hstopped : v.stopped.isSome) (result : OpenResult) :
    (v.start result).status = if result = .opened then .started else v.status := by
  obtain ⟨det, hdet⟩ := Option.isSome_iff_exists.mp hstopped
  rcases h.start_eq hdet result with ⟨hopened, heq⟩ | ⟨hfailed, held, heq, -⟩
  · rw [heq, if_pos hopened]
    rfl
  · rw [heq, if_neg hfailed]
    rfl

lemma detect_status (hfree : v.isFree) (det : USBDeviceID δ) (result : OpenResult) :
    (v.detect false det result).status = .stopped := by
  obtain ⟨hstarted, -⟩ := isFree_iff.mp hfree
  simp [DeviceView.detect, hfree, status, hstarted]

lemma unplug_status (hfree : v.isFree = false) : v.unplug.status = .unplugged := by
  have hstopped : v.stop.stopped.isSome := by
    cases hstarted : v.started with
    | none =>
      rw [stop_of_not_started hstarted]
      simpa [isFree, hstarted] using hfree
    | some det => simp [DeviceView.stop, hstarted]
  obtain ⟨det, hdet⟩ := Option.isSome_iff_exists.mp hstopped
  simp [unplug, unplugStopped, hdet, status]

lemma unplug_of_free (hfree : v.isFree) : v.unplug = v := by
  obtain ⟨hstarted, hstopped⟩ := isFree_iff.mp hfree
  rw [unplug, stop_of_not_started hstarted, unplugStopped_of_not_stopped hstopped]

end DeviceView

end GLogiK
