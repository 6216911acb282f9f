import GLogiK.Daemon.Invariant

/-!
# The containers of the devices manager

The operations of the devices manager, in any order and without the clients that call them, keep
its containers apart, and keep every started device in the map of its driver.
-/

namespace GLogiK

variable {δ : Type*} [LinearOrder δ]

/-- Before devices are initialized or checked, udev is asked for the devices that are plugged. The
last four leave the containers as they are. -/
inductive ManagerOperation (δ : Type*)
  | initializeDevices (found : List (USBDeviceID δ)) (openDevices : Bool) (opens : δ → OpenResult)
  | startDevice (devID : δ) (result : OpenResult)
  | stopDevice (devID : δ)
  | stopInitializedDevices
  | startSleepingDevices (opens : δ → OpenResult)
  | checkForUnpluggedDevices (found : List (USBDeviceID δ))
  | checkInitializedDevicesThreadsStatus
  | resetDevicesStates
  | setDeviceActiveConfiguration (devID : δ) (c : RGBBytes) (LCDPluginsMask1 : UInt64)
  | keysTurn (devID : δ) (turn : KeysTurn)
  | stopThreads (devID : δ)

namespace DevicesManager

def operate (m : DevicesManager δ) : ManagerOperation δ → DevicesManager δ
  | .initializeDevices found openDevices opens =>
    (m.searchSupportedDevices found).initializeDevices openDevices opens
  | .startDevice devID result                  => (m.startDevice devID result).1
  | .stopDevice devID                          => (m.stopDevice devID).1
  | .stopInitializedDevices                    => m.stopInitializedDevices
  | .startSleepingDevices opens                => m.startSleepingDevices opens
  | .checkForUnpluggedDevices found            =>
    (m.searchSupportedDevices found).checkForUnpluggedDevices
  | .checkInitializedDevicesThreadsStatus      => m.checkInitializedDevicesThreadsStatus.getD m
  | .resetDevicesStates                        => m.resetDevicesStates
  | .setDeviceActiveConfiguration devID c mask => m.setDeviceActiveConfiguration devID c mask
  | .keysTurn devID turn                       => m.runThread devID (GLogiK.keysTurn · turn)
  | .stopThreads devID                         =>
    m.runThread devID fun d => ({ d with threadsStatus := false }, [])

variable {m : DevicesManager δ}

lemma Intact.operate (h : m.Intact) (operation : ManagerOperation δ) :
    (m.operate operation).Intact := by
  cases operation with
  | initializeDevices found openDevices opens =>
    exact (h.moves_initializeDevices found openDevices opens).intact
  | startDevice devID result => exact (h.moves_startDevice devID result).intact
  | stopDevice devID => exact (h.moves_stopDevice devID).intact
  | stopInitializedDevices => exact h.moves_stopInitializedDevices.intact
  | startSleepingDevices opens => exact (h.moves_startSleepingDevices opens).intact
  | checkForUnpluggedDevices found => exact (h.moves_checkForUnpluggedDevices found).intact
  | checkInitializedDevicesThreadsStatus =>
    exact h.moves_checkInitializedDevicesThreadsStatus.intact
  | resetDevicesStates => exact h.moves_resetDevicesStates.intact
  | setDeviceActiveConfiguration devID c mask =>
    exact (h.moves_setDeviceActiveConfiguration devID c mask).intact
  | keysTurn devID turn =>
    exact (h.moves_runThread devID fun device => announces_keysTurn turn).intact
  | stopThreads devID =>
    have hop : ∀ device : USBDevice δ, Announces device ({ device with threadsStatus := false }, []) :=
      fun device => announces_of_mask rfl rfl
    exact (h.moves_runThread devID hop).intact

lemma Intact.stopped_of_started (h : m.Intact) {devID : δ}
    (hstarted : m.startedDevices.contains devID) : m.stoppedDevices.contains devID = false := by
  rw [Std.ExtTreeMap.contains_eq_isSome_getElem?] at hstarted ⊢
  have hstopped : m.stoppedDevices[devID]? = none := (h.views devID).disjoint hstarted
  rw [hstopped]
  rfl

/-- The driver of a started device holds the device. -/
lemma Intact.driver_of_started (h : m.Intact) {devID : δ} {det : USBDeviceID δ}
    (hdet : m.startedDevices[devID]? = some det) :
    ∃ driver ∈ m.drivers, driver.driverID = det.driverID ∧
      driver.initializedDevices.contains devID := by
  obtain ⟨driver, hdriver⟩ := h.oneDriver
  refine ⟨driver, ?_, (hdriver.started devID det hdet).2.symm, ?_⟩
  · rw [hdriver.drivers]
    exact List.mem_singleton_self driver
  · have hstarted : (m.view devID).started = some det := hdet
    have hheld := (h.views devID).held (by rw [hstarted]; rfl)
    rw [hdriver.view_held] at hheld
    rwa [Std.ExtTreeMap.contains_eq_isSome_getElem?]

end DevicesManager

/-- After any operations of a manager that has loaded its driver, no device is both started and
stopped, no detected device is left, and the driver of each started device holds it. -/
theorem containers_of_operations (driverID : UInt16) (operations : List (ManagerOperation δ)) :
    let m := Run.run DevicesManager.operate { drivers := [{ driverID := driverID }] } operations
    (∀ devID, m.startedDevices.contains devID → m.stoppedDevices.contains devID = false) ∧
      m.detectedDevices = ∅ ∧
      ∀ devID det, m.startedDevices[devID]? = some det → ∃ driver ∈ m.drivers,
        driver.driverID = det.driverID ∧ driver.initializedDevices.contains devID := by
  intro m
  have hsteps : Run.Steps DevicesManager.operate (fun _ _ => True)
      { drivers := [{ driverID := driverID }] } operations := Run.steps_true operations
  have hm : m.Intact := hsteps.induction (DevicesManager.intact_loaded driverID)
    fun m operation hm _ => hm.operate operation
  exact ⟨fun devID => hm.stopped_of_started, hm.detected, fun devID det => hm.driver_of_started⟩

end GLogiK
