import GLogiK.Daemon.LCDPlugins
import GLogiK.Daemon.Invariant

/-!
# The plugins of started and stopped devices

`DevicesManager::getDeviceLCDPluginsProperties` answers for a device that is started or stopped, and
asks the driver. The driver has a plugins manager for the devices that it holds: for the started
ones, and for those that were plugged while the daemon runs. A device that is stopped is closed, and
no longer held.
-/

namespace GLogiK

variable {δ : Type*} [LinearOrder δ]

/-- The driver of a device that is started or stopped, else the empty array. -/
def DevicesManager.getDeviceLCDPluginsProperties (m : DevicesManager δ)
    (plugins : USBDeviceID δ → LCDPPArray) (devID : δ) : Option LCDPPArray :=
  match m.knownDevice devID with
  | none => some []
  | some det =>
    match m.drivers.find? (·.driverID = det.driverID) with
    | none => some []
    | some driver => driver.getDeviceLCDPluginsProperties plugins devID

/-! ### Started and stopped devices -/

/-- What the results of `openDevice` leave of a device that was initialized with its manager. -/
def OpenResult.keepsManager : OpenResult → Bool
  | .opened | .openFails     => true
  | .initFails | .spawnFails => false

namespace DeviceView

section

omit [LinearOrder δ]

variable {v : DeviceView δ} {det : USBDeviceID δ}

/-- The device that `DevicesManager` reads. -/
def known (v : DeviceView δ) : Option (USBDeviceID δ) := v.started.or v.stopped

/-- If the known device has an LCD screen, the driver holds it with a plugins manager. -/
def HasPlugins (v : DeviceView δ) : Prop :=
  ∀ det : USBDeviceID δ, v.known = some det → det.checkDeviceCapability .lcdScreen →
    ∃ device, v.held = some device ∧ device.hasLCDPluginsManager

def startedLCD (v : DeviceView δ) : Bool := v.started.any (·.checkDeviceCapability .lcdScreen)

def stoppedLCD (v : DeviceView δ) : Bool := v.stopped.any (·.checkDeviceCapability .lcdScreen)

/-- If the driver holds the device, it holds it with a plugins manager. -/
def heldReady (v : DeviceView δ) : Bool := v.held.all (·.hasLCDPluginsManager)

lemma hasPlugins_of_free (h : v.known = none) : v.HasPlugins := by
  intro det hdet
  rw [h] at hdet
  cases hdet

lemma hasPlugins_iff_of_known (h : v.known = some det) :
    v.HasPlugins ↔ (det.checkDeviceCapability .lcdScreen →
      ∃ device, v.held = some device ∧ device.hasLCDPluginsManager) := by
  constructor
  · intro hv
    exact hv det h
  · intro hv det' hdet'
    rw [h] at hdet'
    cases hdet'
    exact hv

/-- The plugins managers stay when something is done to the device. -/
lemma hasPlugins_onDevice_iff {op : USBDevice δ → USBDevice δ × List (DeviceSignal δ)}
    (hop : ∀ device : USBDevice δ, device.Same (op device).1) :
    (v.onDevice op).HasPlugins ↔ v.HasPlugins := by
  cases hstarted : v.started with
  | none =>
    rw [DeviceView.onDevice, DeviceView.device, hstarted]
    rfl
  | some det =>
    rw [onDevice_of_started hstarted]
    refine forall₃_congr fun det hdet hlcd => ?_
    simp only [Option.map_eq_some_iff, exists_exists_and_eq_and, (hop _).manager]

lemma hasPlugins_reset_iff : v.reset.HasPlugins ↔ v.HasPlugins :=
  hasPlugins_onDevice_iff same_resetDeviceState

/-- A started LCD device that is stopped has no plugins manager any more. -/
lemma HasPlugins.stop_iff (h : v.HasPlugins) : v.stop.HasPlugins ↔ v.startedLCD = false := by
  cases hstarted : v.started with
  | none =>
    rw [stop_of_not_started hstarted]
    exact iff_of_true h (by simp [startedLCD, hstarted])
  | some det =>
    have hknown : v.stop.known = some det := by simp [stop, hstarted, known]
    have hheld : v.stop.held = none := by simp [stop, hstarted, close]
    rw [hasPlugins_iff_of_known hknown, hheld]
    simp [startedLCD, hstarted]

/-- A device that is initialized and opened, whatever the driver held of it. -/
lemma hasPlugins_initAndOpen_iff (hready : det.checkDeviceCapability .lcdScreen → v.heldReady)
    (result : OpenResult) :
    (det.checkDeviceCapability .lcdScreen →
      ∃ device, (v.initAndOpen det result).held = some device ∧ device.hasLCDPluginsManager) ↔
      (det.checkDeviceCapability .lcdScreen → result.keepsManager) := by
  refine forall_congr' fun hlcd => ?_
  -- the device is held with a manager, or initialized with one
  have hmanager : (v.held.getD (newUSBDevice det)).hasLCDPluginsManager := by
    have hheld := hready hlcd
    cases hdevice : v.held with
    | none => exact hlcd
    | some device => simpa [heldReady, hdevice] using hheld
  cases result with
  | opened =>
    refine iff_of_true ⟨_, rfl, ?_⟩ rfl
    exact (same_resetDeviceState _).manager.trans hmanager
  | openFails => exact iff_of_true ⟨_, rfl, hmanager⟩ rfl
  | initFails =>
    refine iff_of_false ?_ Bool.false_ne_true
    rintro ⟨_, ⟨rfl⟩, hclosed⟩
    cases hclosed
  | spawnFails =>
    refine iff_of_false ?_ Bool.false_ne_true
    rintro ⟨_, hnone, _⟩
    cases hnone

lemma hasPlugins_start_iff (hinv : v.Inv) (hready : v.stoppedLCD → v.heldReady)
    (result : OpenResult) (hnone : v.stopped = none → v.HasPlugins) :
    (v.start result).HasPlugins ↔ (v.stoppedLCD → result.keepsManager) := by
  cases hstopped : v.stopped with
  | none =>
    rw [start_of_not_stopped hstopped]
    exact iff_of_true (hnone hstopped) (by simp [stoppedLCD, hstopped])
  | some det =>
    have hlcd : v.stoppedLCD = det.checkDeviceCapability .lcdScreen := by
      simp [stoppedLCD, hstopped]
    have hstarted := hinv.not_started_of_stopped hstopped
    rw [hlcd] at hready ⊢
    rw [← hasPlugins_initAndOpen_iff hready result, start, hstopped]
    simp only
    split_ifs
    · exact hasPlugins_iff_of_known rfl
    · exact hasPlugins_iff_of_known (by simp [known, initAndOpen, hstarted, hstopped])

lemma HasPlugins.heldReady (h : v.HasPlugins) (hinv : v.Inv) (hlcd : v.stoppedLCD) :
    v.heldReady := by
  obtain ⟨det, hstopped, hdet⟩ := (Option.any_eq_true _ _).mp hlcd
  have hstarted := hinv.not_started_of_stopped hstopped
  obtain ⟨device, hdevice, hmanager⟩ := h det (by simp [known, hstarted, hstopped]) hdet
  simpa [DeviceView.heldReady, hdevice] using hmanager

lemma HasPlugins.start_iff (h : v.HasPlugins) (hinv : v.Inv) (result : OpenResult) :
    (v.start result).HasPlugins ↔ (v.stoppedLCD → result.keepsManager) :=
  hasPlugins_start_iff hinv (h.heldReady hinv) result fun _ => h

/-- The driver initializes the device again after it was stopped. -/
lemma hasPlugins_restart_iff (hinv : v.Inv) (hstarted : v.started.isSome) (result : OpenResult) :
    (v.stop.start result).HasPlugins ↔ (v.startedLCD → result.keepsManager) := by
  obtain ⟨det, hdet⟩ := Option.isSome_iff_exists.mp hstarted
  have hstopped : v.stop.stopped = some det := by simp [stop, hdet]
  have hheld : v.stop.heldReady := by simp [DeviceView.heldReady, stop, hdet, close]
  have hlcd : v.stop.stoppedLCD = v.startedLCD := by simp [stoppedLCD, startedLCD, hstopped, hdet]
  rw [hasPlugins_start_iff hinv.stop (fun _ => hheld) result (by simp [hstopped]), hlcd]

lemma HasPlugins.detect_iff (h : v.HasPlugins) (det : USBDeviceID δ) (result : OpenResult) :
    (v.detect false det result).HasPlugins ↔
      (v.isFree → det.checkDeviceCapability .lcdScreen → v.heldReady) := by
  cases hfree : v.isFree with
  | false =>
    rw [detect_of_not_free hfree]
    exact iff_of_true h (by simp)
  | true =>
    obtain ⟨hstarted, _⟩ := isFree_iff.mp hfree
    have heq : v.detect false det result =
        { v with held := some (v.held.getD (newUSBDevice det)), stopped := some det } := by
      simp [detect, hfree]
    have hknown : (v.detect false det result).known = some det := by simp [heq, known, hstarted]
    rw [hasPlugins_iff_of_known hknown, heq]
    simp only [Option.some.injEq, exists_eq_left', true_imp_iff]
    refine forall_congr' fun hlcd => ?_
    cases hdevice : v.held with
    | none => exact iff_of_true hlcd (by simp [DeviceView.heldReady, hdevice])
    | some device => simp [DeviceView.heldReady, hdevice]

lemma hasPlugins_unplug : v.unplug.HasPlugins := by
  apply hasPlugins_of_free
  rw [known, unplug_started, DeviceView.unplug, unplugStopped]
  cases hstopped : v.stop.stopped with
  | none => simp [hstopped]
  | some det => rfl

/-- The devices found at the start are opened, and the driver held none of them. -/
lemma hasPlugins_detect_open (hheld : v.held = none) (hfree : v.isFree) (det : USBDeviceID δ)
    (result : OpenResult) : (v.detect true det result).HasPlugins := by
  obtain ⟨hstarted, hstopped⟩ := isFree_iff.mp hfree
  have hready : v.heldReady := by simp [DeviceView.heldReady, hheld]
  simp only [detect, hfree, Bool.not_true, Bool.false_eq_true, if_false]
  split_ifs with hresult
  · apply (hasPlugins_iff_of_known rfl).mpr
    apply (hasPlugins_initAndOpen_iff (fun _ => hready) result).mpr
    rw [hresult]
    exact fun _ => rfl
  · apply hasPlugins_of_free
    simp [known, initAndOpen, hstarted, hstopped]

end

end DeviceView

namespace Client

variable {π : Type*} {client : Client π δ} {devID : δ} {v : DeviceView δ}

lemma hasPlugins_configure_iff : (client.configure devID v).HasPlugins ↔ v.HasPlugins := by
  rw [configure]
  cases client.devices[devID]? with
  | none => rfl
  | some device => exact DeviceView.hasPlugins_onDevice_iff fun _ =>
      same_setDeviceActiveConfiguration _ device.RGB device.LCDPluginsMask1

lemma hasPlugins_startView_iff (result : OpenResult) :
    (client.startView devID result v).HasPlugins ↔ (v.start result).HasPlugins := by
  rw [startView]
  split_ifs
  · exact hasPlugins_configure_iff
  · rfl

lemma hasPlugins_restartView_iff (h : v.HasPlugins) (hinv : v.Inv) (result : OpenResult) :
    (client.restartView devID result v).HasPlugins ↔ (v.startedLCD → result.keepsManager) := by
  rw [restartView]
  split_ifs with hstarted
  · rw [hasPlugins_startView_iff, DeviceView.hasPlugins_restart_iff hinv hstarted]
  · have hnone : v.started = none := by simpa using hstarted
    exact iff_of_true h (by simp [DeviceView.startedLCD, hnone])

end Client

/-! ### Runs of the daemon -/

namespace ClientsManager

variable {κ π : Type*} [LinearOrder κ]

/-- The client is connected, and may start and stop devices. -/
def mayChangeDevices (m : ClientsManager κ π δ) (clientID : κ) : Bool :=
  m.connectedClients[clientID]?.any (·.mayChangeDevices)

/-- The event keeps the plugins manager of the device: it does not stop it while it is started
(`StopDevice`, a suspend, a hard stop), `openDevice` fails in `openUSBDevice` if it fails, and a
device that is plugged is not one that the driver still holds without manager. -/
def keepsPlugins (m : ClientsManager κ π δ) (devID : δ) (v : DeviceView δ) :
    DaemonEvent κ π δ → Prop
  | .request (.stopDevice clientID id) =>
    m.mayChangeDevices clientID ∧ devID = id → v.startedLCD = false
  | .request (.startDevice clientID id result) =>
    m.mayChangeDevices clientID ∧ devID = id → v.stoppedLCD → result.keepsManager
  | .request (.restartDevice clientID id result) =>
    m.mayChangeDevices clientID ∧ devID = id → v.startedLCD → result.keepsManager
  | .udevAdd found => ∀ det : USBDeviceID δ,
    (m.devicesManager.searchSupportedDevices found).detectedDevices[devID]? = some det → v.isFree →
      det.checkDeviceCapability .lcdScreen → v.heldReady
  | .checkThreads => v.threadsEnded → v.startedLCD = false
  | .handleSleepEvent true _ => v.startedLCD = false
  | .handleSleepEvent false opens =>
    devID ∈ m.devicesManager.sleepingDevices → v.stoppedLCD → (opens devID).keepsManager
  | .request _ | .udevRemove _ | .keysTurn _ _ | .stopThreads _ => True

variable [DecidableEq π] {m : ClientsManager κ π δ} {devID : δ} {v : DeviceView δ}

omit [DecidableEq π] in
/-- A request that only a client that may start and stop devices can make. -/
lemma hasPlugins_ofClient_iff {clientID : κ} {id : δ} {w : DeviceView δ}
    {ok : Prop} (h : v.HasPlugins) (act : Client π δ → DeviceView δ)
    (hnone : m.connectedClients[clientID]? = none → w = v)
    (hsome : ∀ client : Client π δ, m.connectedClients[clientID]? = some client →
      w = if client.mayChangeDevices ∧ devID = id then act client else v)
    (hact : ∀ client : Client π δ, (act client).HasPlugins ↔ ok) :
    w.HasPlugins ↔ (m.mayChangeDevices clientID ∧ devID = id → ok) := by
  rw [mayChangeDevices]
  cases hclient : m.connectedClients[clientID]? with
  | none =>
    rw [hnone hclient]
    exact iff_of_true h (by simp)
  | some client =>
    rw [hsome client hclient, Option.any_some]
    split_ifs with hmay
    · rw [hact client]
      exact (imp_iff_right hmay).symm
    · exact iff_of_true h fun hmay' => absurd hmay' hmay

lemma hasPlugins_requestView_iff (h : v.HasPlugins) (hinv : v.Inv) (r : Request κ π δ) :
    (m.requestView devID v r).HasPlugins ↔ m.keepsPlugins devID v (.request r) := by
  cases r with
  | registerClient path clientID =>
    refine iff_of_true ?_ trivial
    rw [requestView]
    cases findLostClients path m.connectedClients.toList with
    | none => exact h
    | some lost =>
      simp only
      split_ifs
      · exact DeviceView.hasPlugins_reset_iff.mpr h
      · exact h
  | unregisterClient clientID =>
    refine iff_of_true ?_ trivial
    rw [requestView]
    split_ifs
    · exact DeviceView.hasPlugins_reset_iff.mpr h
    · exact h
  | updateClientState clientID state =>
    refine iff_of_true ?_ trivial
    rw [requestView]
    split_ifs
    · exact h
    · cases m.connectedClients[clientID]? with
      | none => exact h
      | some client =>
        simp only
        split_ifs
        · exact DeviceView.hasPlugins_reset_iff.mpr (Client.hasPlugins_configure_iff.mpr h)
        · exact DeviceView.hasPlugins_reset_iff.mpr h
        · exact Client.hasPlugins_configure_iff.mpr h
        · exact h
  | toggleClientReadyPropertie clientID =>
    refine iff_of_true ?_ trivial
    rw [requestView]
    cases m.connectedClients[clientID]? with
    | none => exact h
    | some client =>
      simp only
      split_ifs
      · exact Client.hasPlugins_configure_iff.mpr h
      · exact h
  | stopDevice clientID id =>
    refine hasPlugins_ofClient_iff h (fun _ => v.stop) (fun hnone => ?_) (fun client hclient => ?_)
      fun _ => h.stop_iff
    · simp [requestView, hnone]
    · simp [requestView, hclient]
  | startDevice clientID id result =>
    refine hasPlugins_ofClient_iff h (·.startView id result v) (fun hnone => ?_)
      (fun client hclient => ?_)
      fun _ => (Client.hasPlugins_startView_iff result).trans (h.start_iff hinv result)
    · simp [requestView, hnone]
    · simp [requestView, hclient]
  | restartDevice clientID id result =>
    refine hasPlugins_ofClient_iff h (·.restartView id result v) (fun hnone => ?_)
      (fun client hclient => ?_) fun _ => Client.hasPlugins_restartView_iff h hinv result
    · simp [requestView, hnone]
    · simp [requestView, hclient]
  | _ => exact iff_of_true h trivial

lemma hasPlugins_viewStep_iff (h : v.HasPlugins) (hinv : v.Inv) (event : DaemonEvent κ π δ) :
    (m.viewStep devID v event).HasPlugins ↔ m.keepsPlugins devID v event := by
  cases event with
  | request r => exact hasPlugins_requestView_iff h hinv r
  | udevAdd found =>
    rw [viewStep, keepsPlugins]
    cases (m.devicesManager.searchSupportedDevices found).detectedDevices[devID]? with
    | none => exact iff_of_true h (by simp)
    | some det =>
      simp only [Option.elim_some, Option.some.injEq, forall_eq']
      exact h.detect_iff det .opened
  | udevRemove found =>
    refine iff_of_true ?_ trivial
    rw [viewStep]
    split_ifs
    · exact DeviceView.hasPlugins_unplug
    · exact h
  | checkThreads =>
    rw [viewStep, keepsPlugins, DeviceView.checkThreads]
    split_ifs with hended
    · rw [h.stop_iff]
      exact (imp_iff_right hended).symm
    · exact iff_of_true h fun hended' => absurd hended' hended
  | handleSleepEvent mode opens =>
    cases mode with
    | true => exact h.stop_iff
    | false =>
      rw [viewStep, keepsPlugins]
      split_ifs with hsleeping
      · rw [h.start_iff hinv]
        exact (imp_iff_right hsleeping).symm
      · exact iff_of_true h fun hsleeping' => absurd hsleeping' hsleeping
  | keysTurn id turn =>
    refine iff_of_true ?_ trivial
    rw [viewStep]
    split_ifs
    · exact (DeviceView.hasPlugins_onDevice_iff fun device => same_keysTurn device turn).mpr h
    · exact h
  | stopThreads id =>
    refine iff_of_true ?_ trivial
    rw [viewStep]
    split_ifs
    · exact (DeviceView.hasPlugins_onDevice_iff fun _ => ⟨rfl, rfl⟩).mpr h
    · exact h

end ClientsManager

namespace DevicesManager

/-- For every started or stopped LCD device the properties are those of its plugins manager. -/
def AnswersPlugins (m : DevicesManager δ) (plugins : USBDeviceID δ → LCDPPArray) : Prop :=
  ∀ (devID : δ) (det : USBDeviceID δ),
    m.startedDevices[devID]? = some det ∨ m.stoppedDevices[devID]? = some det →
    det.checkDeviceCapability .lcdScreen →
    ∃ driver ∈ m.drivers, driver.driverID = det.driverID ∧
      ∃ device : USBDevice δ, driver.initializedDevices[devID]? = some device ∧
        device.hasLCDPluginsManager ∧
        m.getDeviceLCDPluginsProperties plugins devID = some (plugins device.toUSBDeviceID)

variable {m : DevicesManager δ}

lemma knownDevice_eq (m : DevicesManager δ) (devID : δ) :
    m.knownDevice devID = (m.view devID).known := by
  rw [knownDevice, DeviceView.known, view]
  cases m.startedDevices[devID]? <;> rfl

lemma Intact.known_iff (h : m.Intact) (devID : δ) (det : USBDeviceID δ) :
    (m.view devID).known = some det ↔
      m.startedDevices[devID]? = some det ∨ m.stoppedDevices[devID]? = some det := by
  have hdisjoint := (h.views devID).disjoint
  rw [DeviceView.known]
  rw [view] at hdisjoint ⊢
  cases hstarted : m.startedDevices[devID]? with
  | none => simp
  | some det' =>
    simp only [hstarted, Option.isSome_some, true_imp_iff] at hdisjoint
    simp [hdisjoint]

/-- An answer is that of a plugins manager exactly when the driver holds the device with one. -/
lemma Intact.answersPlugins_iff_hasPlugins (h : m.Intact) (plugins : USBDeviceID δ → LCDPPArray) :
    m.AnswersPlugins plugins ↔ ∀ devID, (m.view devID).HasPlugins := by
  obtain ⟨driver, hdriver⟩ := h.oneDriver
  refine forall_congr' fun devID => forall_congr' fun det => ?_
  rw [← h.known_iff devID det]
  refine imp_congr_right fun hknown => imp_congr_right fun hlcd => ?_
  have hdriverID : driver.driverID = det.driverID := by
    rcases (h.known_iff devID det).mp hknown with hdet | hdet
    · exact (hdriver.started devID det hdet).2.symm
    · exact (hdriver.stopped devID det hdet).2.symm
  rw [hdriver.view_held]
  constructor
  · rintro ⟨driver', hmem, _, device, hdevice, hmanager, _⟩
    rw [hdriver.drivers, List.mem_singleton] at hmem
    subst hmem
    exact ⟨device, hdevice, hmanager⟩
  · rintro ⟨device, hdevice, hmanager⟩
    refine ⟨driver, by simp [hdriver.drivers], hdriverID, device, hdevice, hmanager, ?_⟩
    simp [getDeviceLCDPluginsProperties, knownDevice_eq, hknown, hdriver.drivers, hdriverID,
      KeyboardDriver.getDeviceLCDPluginsProperties, hdevice, hmanager]

end DevicesManager

namespace ClientsManager

variable {κ π : Type*} [LinearOrder κ]

def KeepsPlugins (m : ClientsManager κ π δ) (event : DaemonEvent κ π δ) : Prop :=
  ∀ devID, m.keepsPlugins devID (m.devicesManager.view devID) event

lemma answersPlugins_startMonitoring (driverID : UInt16) (found : List (USBDeviceID δ))
    (opens : δ → OpenResult) (plugins : USBDeviceID δ → LCDPPArray) :
    (startMonitoring (κ := κ) (π := π) driverID found opens).devicesManager.AnswersPlugins
      plugins := by
  have hstart := (DevicesManager.intact_loaded driverID).moves_initializeDevices found true opens
  have hmoves : DevicesManager.Moves _ _
      (startMonitoring (κ := κ) (π := π) driverID found opens).devicesManager :=
    hstart.send fun signal hsignal devID => by
      rw [DevicesManager.eq_of_mem_sendSignal hsignal]
      rfl
  rw [hmoves.intact.answersPlugins_iff_hasPlugins]
  intro devID
  rw [hmoves.view]
  cases (({ drivers := [{ driverID := driverID }] } : DevicesManager δ).searchSupportedDevices
    found).detectedDevices[devID]? with
  | none => exact DeviceView.hasPlugins_of_free (by simp [DeviceView.known, DevicesManager.view])
  | some det =>
    apply DeviceView.hasPlugins_detect_open
    · simp [DevicesManager.view]
    · simp [DeviceView.isFree, DevicesManager.view]

variable [DecidableEq π] {m : ClientsManager κ π δ}

lemma answersPlugins_step_iff (h : m.devicesManager.Intact) {plugins : USBDeviceID δ → LCDPPArray}
    (hanswers : m.devicesManager.AnswersPlugins plugins) (event : DaemonEvent κ π δ) :
    (m.step event).devicesManager.AnswersPlugins plugins ↔ m.KeepsPlugins event := by
  have hmoves := moves_step h event
  rw [hmoves.intact.answersPlugins_iff_hasPlugins]
  rw [h.answersPlugins_iff_hasPlugins] at hanswers
  refine forall_congr' fun devID => ?_
  rw [hmoves.view]
  exact hasPlugins_viewStep_iff (hanswers devID) (h.views devID) event

end ClientsManager

/-- At the start the answers are those of the plugins managers, and they stay so in a run of the
daemon exactly when every event keeps the manager of every device. -/
theorem answersPlugins_iff {κ π : Type*} [LinearOrder κ] [DecidableEq π] (driverID : UInt16)
    (found : List (USBDeviceID δ)) (opens : δ → OpenResult) (plugins : USBDeviceID δ → LCDPPArray)
    (events : List (DaemonEvent κ π δ)) :
    let m : ClientsManager κ π δ := startMonitoring driverID found opens
    m.devicesManager.AnswersPlugins plugins ∧
      (Run.Steps ClientsManager.step
          (fun m event => (m.step event).devicesManager.AnswersPlugins plugins) m events ↔
        Run.Steps ClientsManager.step ClientsManager.KeepsPlugins m events) := by
  have hanswers := ClientsManager.answersPlugins_startMonitoring (κ := κ) (π := π) driverID found
    opens plugins
  have hstep : ∀ (m : ClientsManager κ π δ) (event : DaemonEvent κ π δ),
      m.devicesManager.Intact → (m.step event).devicesManager.Intact :=
    fun m event h => (ClientsManager.moves_step h event).intact
  have hok : ∀ (m : ClientsManager κ π δ) (event : DaemonEvent κ π δ), m.devicesManager.Intact →
      m.devicesManager.AnswersPlugins plugins →
      ((m.step event).devicesManager.AnswersPlugins plugins ↔ m.KeepsPlugins event) :=
    fun m event h hanswers => ClientsManager.answersPlugins_step_iff h hanswers event
  refine ⟨hanswers, Run.steps_iff_of_keeps ?_ ?_ hstep hok events⟩
  · exact intact_startMonitoring driverID found opens
  · exact hanswers

/-- A suspend stops the device, and the driver no longer knows it. -/
theorem not_answersPlugins_suspend :
    ¬ ∀ m : ClientsManager ℕ ℕ ℕ, ReachableDaemon m → ∀ plugins,
      m.devicesManager.AnswersPlugins plugins := by
  intro h
  let g510 : USBDeviceID ℕ :=
    { devID := 0, capabilities := 15, driverID := 0, GKeysTransferLength := 5 }
  let m : ClientsManager ℕ ℕ ℕ := Run.run ClientsManager.step
    (startMonitoring 0 [g510] fun _ => .opened) [.handleSleepEvent true fun _ => .opened]
  have hreach : ReachableDaemon m := ⟨0, [g510], fun _ => .opened, _, rfl⟩
  obtain ⟨_, _, _, _, _, _, hplugins⟩ := h m hreach (fun _ => [{}]) 0 g510
    (Or.inr (by decide +kernel)) (by decide +kernel)
  have hempty : m.devicesManager.getDeviceLCDPluginsProperties (fun _ => [{}]) 0 = some [] := by
    decide +kernel
  rw [hempty] at hplugins
  cases hplugins

end GLogiK
