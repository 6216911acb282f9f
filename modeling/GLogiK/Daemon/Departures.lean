import GLogiK.Daemon.Invariant

/-!
# Clients that cease to be active

A client ceases to be active when it unregisters, when it says so, or when a registration removes
it. The devices should be reset then only if no active client is left.
-/

namespace GLogiK

variable {κ π δ : Type*} [LinearOrder κ] [LinearOrder δ]

/-! ### Resets -/

namespace KeyboardDriver

variable {driver : KeyboardDriver δ}

lemma length_calls_resetDeviceState (devID : δ) :
    driver.calls.length ≤ (driver.resetDeviceState devID).calls.length := by
  rw [resetDeviceState]
  split
  · exact le_rfl
  · simp [setDevice, call]

lemma length_calls_resetDeviceState_of_held {devID : δ} {device : USBDevice δ}
    (hheld : driver.initializedDevices[devID]? = some device) :
    driver.calls.length < (driver.resetDeviceState devID).calls.length := by
  simp [resetDeviceState, hheld, setDevice, call]

/-- A driver that resets devices one after the other. -/
lemma length_calls_foldl (dets : List (δ × USBDeviceID δ)) (driver : KeyboardDriver δ) :
    ∃ driver' : KeyboardDriver δ, dets.foldl (fun drivers det => drivers.map fun driver =>
        if det.2.driverID = driver.driverID then driver.resetDeviceState det.2.devID else driver)
        [driver] = [driver'] ∧ driver.calls.length ≤ driver'.calls.length := by
  induction dets generalizing driver with
  | nil => exact ⟨driver, rfl, le_rfl⟩
  | cons det dets ih =>
    rw [List.foldl_cons, List.map_singleton]
    split_ifs
    · obtain ⟨driver', heq, hle⟩ := ih (driver.resetDeviceState det.2.devID)
      exact ⟨driver', heq, (length_calls_resetDeviceState _).trans hle⟩
    · exact ih driver

end KeyboardDriver

/-- A reset of the started devices is seen at the driver, unless there is none. -/
lemma DevicesManager.Intact.resetDevicesStates_iff {m : DevicesManager δ} (h : m.Intact) :
    m.resetDevicesStates.drivers = m.drivers ↔ m.startedDevices = ∅ := by
  obtain ⟨driver, hdriver⟩ := h.oneDriver
  rw [← Std.ExtTreeMap.toList_eq_nil_iff]
  simp only [resetDevicesStates, hdriver.drivers]
  cases hdets : m.startedDevices.toList with
  | nil => simp
  | cons det dets =>
    have hdet : m.startedDevices[det.1]? = some det.2 :=
      Std.ExtTreeMap.mem_toList_iff_getElem?_eq_some.mp (hdets ▸ List.mem_cons_self)
    obtain ⟨hid, hdriverID⟩ := hdriver.started _ _ hdet
    have hstarted : (m.view det.1).started.isSome := Option.isSome_iff_exists.mpr ⟨_, hdet⟩
    obtain ⟨device, hdevice⟩ := Option.isSome_iff_exists.mp ((h.views det.1).held hstarted)
    rw [hdriver.view_held, ← hid] at hdevice
    obtain ⟨driver', heq, hle⟩ := KeyboardDriver.length_calls_foldl dets
      (driver.resetDeviceState det.2.devID)
    simp only [List.foldl_cons, List.map_singleton, hdriverID, if_true, heq, reduceCtorEq,
      iff_false, List.cons.injEq, and_true]
    rintro rfl
    have := KeyboardDriver.length_calls_resetDeviceState_of_held hdevice
    omega

/-! ### Departures -/

namespace ClientsManager

/-- The removals of a registration, each with the daemon before and after it. -/
def removals : ClientsManager κ π δ → List κ → List (ClientsManager κ π δ × ClientsManager κ π δ)
  | _, []        => []
  | m, id :: ids => (m, (m.unregisterClient id).1) :: removals (m.unregisterClient id).1 ids

/-- What may end the activity of a client, with the daemon before and after it. -/
def departures [DecidableEq π] (m : ClientsManager κ π δ) :
    DaemonEvent κ π δ → List (ClientsManager κ π δ × ClientsManager κ π δ)
  | .request (.unregisterClient clientID)  => [(m, (m.unregisterClient clientID).1)]
  | .request (.updateClientState clientID state) =>
    if state = "online" then [(m, (m.updateClientState clientID state).1)] else []
  | .request (.registerClient path _)      =>
    m.removals ((findLostClients path m.connectedClients.toList).getD [])
  | _                                      => []

/-- If a client is still active, the devices are left as they are. -/
def KeepsDevices (p : ClientsManager κ π δ × ClientsManager κ π δ) : Prop :=
  (activeClients p.2.connectedClients).Nonempty →
    p.2.devicesManager.drivers = p.1.devicesManager.drivers

/-- The clients that an event removes. -/
def removedClients [DecidableEq π] (m : ClientsManager κ π δ) : DaemonEvent κ π δ → List κ
  | .request (.unregisterClient clientID) => [clientID]
  | .request (.registerClient path _)     =>
    (findLostClients path m.connectedClients.toList).getD []
  | _                                     => []

/-- No client that is removed is active, or it is the only one, or no device is started. -/
def RemovesNone (m : ClientsManager κ π δ) (ids : List κ) : Prop :=
  ∀ id ∈ ids, id ∈ activeClients m.connectedClients →
    activeClients m.connectedClients = {id} ∨ m.devicesManager.startedDevices = ∅

variable {m : ClientsManager κ π δ}

lemma unregisterClient_startedDevices (clientID : κ) :
    (m.unregisterClient clientID).1.devicesManager.startedDevices =
      m.devicesManager.startedDevices := by
  rw [unregisterClient]
  cases m.connectedClients[clientID]? with
  | none => rfl
  | some client =>
    simp only
    split_ifs <;> rfl

lemma unregisterClient_drivers (clientID : κ) :
    (m.unregisterClient clientID).1.devicesManager.drivers =
      if clientID ∈ activeClients m.connectedClients then m.devicesManager.resetDevicesStates.drivers
      else m.devicesManager.drivers := by
  rw [unregisterClient]
  cases hclient : m.connectedClients[clientID]? with
  | none => rw [if_neg (not_mem_activeClients_of_none hclient)]
  | some client =>
    have hactive := mem_activeClients_iff_isActive hclient
    by_cases hcase : client.isActive
    · rw [if_pos (hactive.mpr hcase)]
      simp only [hcase, if_true]
      rfl
    · rw [if_neg (mt hactive.mp hcase)]
      simp only [hcase]
      rfl

/-- One removal. -/
lemma keepsDevices_unregisterClient_iff (h : m.devicesManager.Intact) (clientID : κ) :
    KeepsDevices (m, (m.unregisterClient clientID).1) ↔
      (clientID ∈ activeClients m.connectedClients →
        activeClients m.connectedClients = {clientID} ∨ m.devicesManager.startedDevices = ∅) := by
  rw [KeepsDevices]
  rw [unregisterClient_active, unregisterClient_drivers]
  by_cases hactive : clientID ∈ activeClients m.connectedClients
  · have hne : ((activeClients m.connectedClients).erase clientID).Nonempty ↔
        activeClients m.connectedClients ≠ {clientID} := by
      rw [Finset.nonempty_iff_ne_empty, Ne, Finset.erase_eq_empty_iff]
      simp only [not_or, and_iff_right_iff_imp]
      rintro - hempty
      simp [hempty] at hactive
    simp only [hactive, if_true, forall_true_left, hne, h.resetDevicesStates_iff]
    tauto
  · simp [hactive]

/-- The removals of a registration. -/
lemma removals_iff (h : m.devicesManager.Intact) (ids : List κ) :
    (∀ p ∈ m.removals ids, KeepsDevices p) ↔ m.RemovesNone ids := by
  induction ids generalizing m with
  | nil => simp [removals, RemovesNone]
  | cons id ids ih =>
    have hhead := keepsDevices_unregisterClient_iff h id
    have htail := ih (moves_unregisterClient h id).intact
    simp only [RemovesNone, unregisterClient_active, unregisterClient_startedDevices] at htail
    simp only [removals, List.forall_mem_cons, hhead, htail, RemovesNone]
    refine and_congr_right fun hid => forall₂_congr fun id' _ => ?_
    by_cases hstarted : m.devicesManager.startedDevices = ∅
    · simp [hstarted]
    · by_cases hactive : id ∈ activeClients m.connectedClients
      · -- `id` was the only active client
        have hsingle := (hid hactive).resolve_right hstarted
        simp [hsingle, hstarted, eq_comm]
      · rw [Finset.erase_eq_of_notMem hactive]

/-- A client that says it is no longer active changes nothing while another client is. -/
lemma updateClientState_online (h : CountsActive m) (clientID : κ)
    (hne : (activeClients (m.updateClientState clientID "online").1.connectedClients).Nonempty) :
    (m.updateClientState clientID "online").1.devicesManager = m.devicesManager := by
  have hcount := countsActive_updateClientState h clientID "online"
  cases hclient : m.connectedClients[clientID]? with
  | none => simp [updateClientState, hclient]
  | some client =>
    obtain ⟨_, hnum⟩ := updateClientState_clients (m := m) (Or.inr rfl) hclient
    have hnum' : countActive m.numActive client (client.updateSessionState "online") ≠ 0 := by
      rw [← hnum, hcount]
      exact_mod_cast hne.card_ne_zero
    have hactive : (client.updateSessionState "online").isActive = false := rfl
    simp [updateClientState, hclient, hnum', hactive, setClient]

/-- What an event does to the devices when a client ceases to be active. -/
lemma departures_iff [DecidableEq π] (h : m.devicesManager.Intact) (hcount : CountsActive m)
    (event : DaemonEvent κ π δ) :
    (∀ p ∈ m.departures event, KeepsDevices p) ↔ m.RemovesNone (m.removedClients event) := by
  cases event with
  | request r =>
    cases r with
    | unregisterClient clientID =>
      simp [departures, removedClients, RemovesNone, keepsDevices_unregisterClient_iff h]
    | registerClient path clientID => exact removals_iff h _
    | updateClientState clientID state =>
      by_cases hstate : state = "online"
      · subst hstate
        simp only [departures, if_true, List.forall_mem_singleton, removedClients]
        refine iff_of_true (fun hne => ?_) (List.forall_mem_nil _)
        rw [updateClientState_online hcount clientID hne]
      · simp [departures, hstate, removedClients, RemovesNone]
    | _ => simp [departures, removedClients, RemovesNone]
  | _ => simp [departures, removedClients, RemovesNone]

end ClientsManager

/-- From the start on, the devices are left alone whenever an active client remains, exactly when
no client is removed that is active beside another one, unless no device is started. -/
theorem keepsDevices_iff [DecidableEq π] (driverID : UInt16) (found : List (USBDeviceID δ))
    (opens : δ → OpenResult) (events : List (DaemonEvent κ π δ)) :
    Run.Steps ClientsManager.step
        (fun m event => ∀ p ∈ m.departures event, ClientsManager.KeepsDevices p)
        (startMonitoring driverID found opens) events ↔
      Run.Steps ClientsManager.step (fun m event => m.RemovesNone (m.removedClients event))
        (startMonitoring driverID found opens) events :=
  Run.steps_congr (reachableDaemon_startMonitoring driverID found opens)
    (fun _ event hm => hm.next event)
    (fun _ event hm => ClientsManager.departures_iff hm.intact hm.countsActive event) events

/-- Two clients are active, and one of them unregisters. -/
theorem not_keepsDevices_unregisterClient :
    ¬ Run.Steps ClientsManager.step
      (fun m event => ∀ p ∈ m.departures event, ClientsManager.KeepsDevices p)
      (startMonitoring (κ := ℕ) (π := ℕ) (δ := ℕ) 0
        [{ devID := 0, capabilities := 15, driverID := 0, GKeysTransferLength := 5 }] fun _ => .opened)
      [.request (.registerClient 0 0), .request (.updateClientState 0 "active"),
        .request (.registerClient 1 1), .request (.updateClientState 1 "active"),
        .request (.unregisterClient 0)] := by
  rintro ⟨-, -, -, -, hkeeps, -⟩
  have hdrivers := hkeeps _ List.mem_cons_self (by decide +kernel)
  have hcalls := congrArg (List.map (·.calls)) hdrivers
  revert hcalls
  decide +kernel

end GLogiK
