import GLogiK.Daemon.Invariant

/-!
# The signals that tell the status of a device

Except for suspend and resume, an event that changes the status of a device broadcasts a signal
that tells its new status, as long as the daemon counts a client.
-/

namespace GLogiK

variable {κ π δ : Type*} [LinearOrder κ] [LinearOrder δ]

/-! ### Statuses -/

@[simp] lemma DeviceView.configure_status (client : Client π δ) (devID : δ) (v : DeviceView δ) :
    (client.configure devID v).status = v.status := by
  simp only [Client.configure]
  split
  · rfl
  · exact DeviceView.onDevice_status _

lemma DevicesManager.getDeviceStatus_eq (m : DevicesManager δ) (devID : δ) :
    m.getDeviceStatus devID = (m.view devID).status := by
  have hcontains : ∀ map : StdMap δ (USBDeviceID δ), map.contains devID = map[devID]?.isSome :=
    fun _ => Std.ExtTreeMap.contains_eq_isSome_getElem?
  rw [getDeviceStatus, hcontains, hcontains, hcontains]
  rfl

/-! ### Signals -/

/-- The signal tells that the device has the status. -/
def BusSignal.Tells (devID : δ) (status : DevicesManager.DeviceStatus) : BusSignal δ → Prop
  | .devicesStarted devIDs   => status = .started ∧ devID ∈ devIDs
  | .devicesStopped devIDs   => status = .stopped ∧ devID ∈ devIDs
  | .devicesUnplugged devIDs => status = .unplugged ∧ devID ∈ devIDs
  | _                        => False

namespace DevicesManager

/-- The signals that were sent from `m` to `m'`. -/
def newSignals (m m' : DevicesManager δ) : List (BusSignal δ) := m'.sent.drop m.sent.length

/-- Every change of a status is told. -/
def TellsChanges (m m' : DevicesManager δ) : Prop :=
  ∀ devID, (m'.view devID).status ≠ (m.view devID).status →
    ∃ signal ∈ newSignals m m', signal.Tells devID (m'.view devID).status

variable {m m₁ m' : DevicesManager δ} {act : δ → DeviceView δ → DeviceView δ}

lemma mem_newSignals_send (hsent : m.sent <+: m₁.sent) {signals : List (BusSignal δ)}
    {signal : BusSignal δ} (hsignal : signal ∈ signals) :
    signal ∈ newSignals m (m₁.send signals) := by
  obtain ⟨new, hnew⟩ := hsent
  simp only [newSignals, send, ← hnew, List.append_assoc, List.drop_left]
  exact List.mem_append_right _ hsignal

lemma tellsChanges_of_status
    (hstatus : ∀ devID, (m'.view devID).status = (m.view devID).status) : TellsChanges m m' :=
  fun devID hne => absurd (hstatus devID) hne

/-- A status signal changes no view. -/
lemma view_sendStatus {numClients : UInt8} {signal : BusSignal δ}
    (hswitch : ∀ devID, signal.switchOf devID = none) (devID : δ) :
    (m.send (sendStatusSignalArrayToClients numClients signal)).view devID = m.view devID := by
  have hnil : (sendStatusSignalArrayToClients numClients signal).filterMap
      (BusSignal.switchOf devID) = [] := by
    apply List.filterMap_eq_nil_iff.mpr
    intro signal' hsignal'
    rw [eq_of_mem_sendStatus hsignal']
    exact hswitch devID
  rw [view_send, hnil, List.append_nil]

/-- An operation that ends with a signal about the devices whose status has changed. -/
lemma tellsChanges_send (hsent : m.sent <+: m₁.sent) {signal : BusSignal δ} {numClients : UInt8}
    (hnum : numClients ≠ 0) (hswitch : ∀ devID, signal.switchOf devID = none)
    (htells : ∀ devID, (m₁.view devID).status ≠ (m.view devID).status →
      signal.Tells devID (m₁.view devID).status) :
    TellsChanges m (m₁.send (sendStatusSignalArrayToClients numClients signal)) := by
  intro devID hne
  rw [view_sendStatus hswitch] at hne ⊢
  refine ⟨signal, mem_newSignals_send hsent ?_, htells devID hne⟩
  rw [sendStatusSignalArrayToClients, if_neg hnum]
  exact List.mem_singleton_self _

/-- An operation on one device that leaves its status alone. -/
lemma Moves.tellsChanges_of_status {id : δ} (h : Moves (actOn (· = id) act) m m₁)
    (hstatus : (act id (m.view id)).status = (m.view id).status) : TellsChanges m m₁ := by
  apply DevicesManager.tellsChanges_of_status
  intro devID
  rw [h.view, actOn]
  split_ifs with hid
  · rw [hid, hstatus]
  · rfl

/-- An operation on one device that tells its status. -/
lemma Moves.tellsChanges_send {id : δ} (h : Moves (actOn (· = id) act) m m₁) (signal : BusSignal δ)
    {numClients : UInt8} (hnum : numClients ≠ 0) (hswitch : ∀ devID, signal.switchOf devID = none)
    (htells : signal.Tells id (act id (m.view id)).status) :
    TellsChanges m (m₁.send (sendStatusSignalArrayToClients numClients signal)) := by
  apply DevicesManager.tellsChanges_send h.sent hnum hswitch
  intro devID hne
  rw [h.view, actOn] at hne ⊢
  split_ifs at hne ⊢ with hid
  · rw [hid]
    exact htells
  · exact absurd rfl hne

/-! ### Hotplug and hard stops -/

/-- The loops that end with a status signal, if it has to tell something. -/
lemma tellsChanges_loop (signal : BusSignal δ) (status : DeviceStatus) {toSend : List δ}
    {numClients : UInt8} (hnum : numClients ≠ 0) (hsent : m.sent <+: m₁.sent)
    (hswitch : ∀ devID, signal.switchOf devID = none)
    (hsignal : ∀ devID ∈ toSend, signal.Tells devID status)
    (hchange : ∀ devID, (m₁.view devID).status ≠ (m.view devID).status →
      devID ∈ toSend ∧ (m₁.view devID).status = status) :
    TellsChanges m (if toSend = [] then m₁
      else m₁.send (sendStatusSignalArrayToClients numClients signal)) := by
  split_ifs with hnil
  · apply tellsChanges_of_status
    intro devID
    by_contra hne
    simpa [hnil] using (hchange devID hne).1
  · apply tellsChanges_send hsent hnum hswitch
    intro devID hne
    obtain ⟨hmem, hstatus⟩ := hchange devID hne
    rw [hstatus]
    exact hsignal devID hmem

lemma TellsChanges.setDetected (h : TellsChanges m m') (detected : StdMap δ (USBDeviceID δ)) :
    TellsChanges m { m' with detectedDevices := detected } := h

lemma Intact.tellsChanges_checkThreads (h : m.Intact) (hnum : m.numClients ≠ 0) :
    TellsChanges m (m.checkInitializedDevicesThreadsStatus.getD m) := by
  obtain ⟨driver, hdriver⟩ := h.oneDriver
  obtain ⟨heq, hacts, hmem⟩ := hdriver.checkThreads_eq
  rw [heq, Option.getD_some]
  refine tellsChanges_loop (.devicesStopped _) .stopped (hacts.numClients ▸ hnum) hacts.sent
    (fun _ => rfl) (fun devID hdevID => ⟨rfl, hdevID⟩) fun devID hne => ?_
  rw [hacts.view] at hne ⊢
  simp only [DeviceView.checkThreads] at hne ⊢
  split_ifs at hne with hended
  · rw [if_pos hended]
    refine ⟨(hmem devID).mpr hended, DeviceView.stop_status ?_⟩
    simpa [DeviceView.threadsEnded] using (Bool.and_eq_true_iff.mp hended).1
  · exact absurd rfl hne

/-- Detected devices are initialized without being opened: they are stopped then. -/
lemma OneDriver.tellsChanges_initializeDevices {driver : KeyboardDriver δ} (h : m.OneDriver driver)
    (hsupported : m.Supported driver) (hnum : m.numClients ≠ 0) (opens : δ → OpenResult) :
    TellsChanges m (m.initializeDevices false opens) := by
  obtain ⟨hacts, hmem⟩ := h.initializeDevices_eq hsupported false opens
  refine TellsChanges.setDetected (tellsChanges_loop (.devicesStopped _) .stopped ?_ hacts.sent
    (fun _ => rfl) (fun devID hdevID => ⟨rfl, hdevID⟩) fun devID hne => ?_) ∅
  · rw [hacts.numClients]
    exact hnum
  · rw [hacts.view] at hne ⊢
    cases hdet : m.detectedDevices[devID]? with
    | none => simp [hdet] at hne
    | some det =>
      rw [hdet, Option.elim_some] at hne
      cases hfree : (m.view devID).isFree with
      | false =>
        rw [DeviceView.detect_of_not_free hfree] at hne
        exact absurd rfl hne
      | true =>
        rw [Option.elim_some]
        refine ⟨(hmem devID).mpr ⟨by simp [hdet], hfree, nofun⟩, ?_⟩
        exact DeviceView.detect_status hfree det _

/-- Devices that are not detected any more are unplugged. -/
lemma OneDriver.tellsChanges_checkForUnpluggedDevices {driver : KeyboardDriver δ}
    (h : m.OneDriver driver) (hnum : m.numClients ≠ 0) :
    TellsChanges m m.checkForUnpluggedDevices := by
  obtain ⟨hacts, hmem⟩ := h.unplug_eq
  refine tellsChanges_loop (.devicesUnplugged _) .unplugged ?_ (hacts.setDetected ∅).sent
    (fun _ => rfl) (fun devID hdevID => ⟨rfl, hdevID⟩) fun devID hne => ?_
  · rw [(hacts.setDetected ∅).numClients]
    exact hnum
  · rw [(hacts.setDetected ∅).view] at hne ⊢
    have hview : { m with detectedDevices := ∅ }.view devID = m.view devID := rfl
    rw [hview] at hne ⊢
    simp only [actOn] at hne ⊢
    split_ifs at hne with hdet
    · cases hfree : (m.view devID).isFree with
      | true =>
        rw [DeviceView.unplug_of_free hfree] at hne
        exact absurd rfl hne
      | false =>
        rw [if_pos hdet]
        refine ⟨(hmem devID).mpr ⟨hdet, ?_⟩, DeviceView.unplug_status hfree⟩
        rw [hfree]
        exact Bool.false_ne_true
    · exact absurd rfl hne

lemma Intact.tellsChanges_udevAdd (h : m.Intact) (hnum : m.numClients ≠ 0)
    (found : List (USBDeviceID δ)) (opens : δ → OpenResult) :
    TellsChanges m ((m.searchSupportedDevices found).initializeDevices false opens) := by
  obtain ⟨driver, hdriver⟩ := h.oneDriver
  exact (hdriver.searchSupportedDevices found).tellsChanges_initializeDevices
    (h.supported hdriver found) hnum opens

lemma Intact.tellsChanges_udevRemove (h : m.Intact) (hnum : m.numClients ≠ 0)
    (found : List (USBDeviceID δ)) :
    TellsChanges m (m.searchSupportedDevices found).checkForUnpluggedDevices := by
  obtain ⟨driver, hdriver⟩ := h.oneDriver
  exact (hdriver.searchSupportedDevices found).tellsChanges_checkForUnpluggedDevices hnum

end DevicesManager

/-! ### Requests -/

/-- An event that may change the status of a device and broadcasts a signal then. -/
def DaemonEvent.ChangesStatuses : DaemonEvent κ π δ → Prop
  | .request (.stopDevice _ _)      => True
  | .request (.startDevice _ _ _)   => True
  | .request (.restartDevice _ _ _) => True
  | .udevAdd _                      => True
  | .udevRemove _                   => True
  | .checkThreads                   => True
  | _                               => False

namespace ClientsManager

/-- Between two events signals are enabled, and the devices manager has the number of clients. -/
structure Steady (m : ClientsManager κ π δ) : Prop where
  enabled : m.enabledSignals = true
  numClients : m.devicesManager.numClients = m.numClients

variable {m : ClientsManager κ π δ}

/-- The requests that neither stop nor start a device keep every status. -/
lemma requestView_status [DecidableEq π] {r : Request κ π δ} (devID : δ) (v : DeviceView δ)
    (hstop : ∀ clientID id, r ≠ .stopDevice clientID id)
    (hstart : ∀ clientID id result, r ≠ .startDevice clientID id result ∧
      r ≠ .restartDevice clientID id result) : (m.requestView devID v r).status = v.status := by
  cases r with
  | stopDevice clientID id => exact absurd rfl (hstop clientID id)
  | startDevice clientID id result => exact absurd rfl (hstart clientID id result).1
  | restartDevice clientID id result => exact absurd rfl (hstart clientID id result).2
  | registerClient path clientID =>
    simp only [requestView]
    split
    · rfl
    · split_ifs <;> simp
  | unregisterClient clientID =>
    simp only [requestView]
    split_ifs <;> simp
  | updateClientState clientID state =>
    simp only [requestView]
    split_ifs
    · rfl
    · split
      · rfl
      · split_ifs <;> simp
  | toggleClientReadyPropertie clientID =>
    simp only [requestView]
    split
    · rfl
    · split_ifs <;> simp
  | _ => rfl

/-- A device is stopped by a request, or keeps its status. -/
lemma tellsChanges_stopDevice (h : m.devicesManager.Intact) (hsteady : m.Steady)
    (hnum : m.numClients ≠ 0) (clientID : κ) (id : δ) :
    DevicesManager.TellsChanges m.devicesManager (m.stopDevice clientID id).1.devicesManager := by
  have hkeep : DevicesManager.TellsChanges m.devicesManager m.devicesManager :=
    DevicesManager.tellsChanges_of_status fun _ => rfl
  cases hclient : m.connectedClients[clientID]? with
  | none =>
    simp only [stopDevice, hclient]
    exact hkeep
  | some client =>
    cases hmay : client.mayChangeDevices with
    | false =>
      simp only [stopDevice, hclient, hmay]
      exact hkeep
    | true =>
      have hmoves := h.moves_stopDevice id
      simp only [stopDevice, hclient, hmay, hsteady.enabled, Bool.and_true, stopDevice_snd h]
      cases hstarted : (m.devicesManager.view id).started.isSome with
      | true =>
        exact hmoves.tellsChanges_send (.devicesStopped [id]) hnum (fun _ => rfl)
          ⟨DeviceView.stop_status hstarted, List.mem_singleton_self _⟩
      | false =>
        apply hmoves.tellsChanges_of_status
        rw [DeviceView.stop_of_not_started (by simpa using hstarted)]

lemma startView_status (client : Client π δ) {v : DeviceView δ} (h : v.Inv) (devID : δ)
    (result : OpenResult) :
    (client.startView devID result v).status =
      if v.stopped.isSome && decide (result = .opened) then .started else v.status := by
  cases hstopped : v.stopped.isSome with
  | false =>
    simp only [Client.startView, hstopped, Bool.false_and, Bool.false_eq_true, if_false]
    rw [DeviceView.start_of_not_stopped (by simpa using hstopped)]
  | true =>
    have hstatus := h.start_status hstopped result
    by_cases hresult : result = .opened
    · simp only [Client.startView, hstopped, hresult, decide_true, Bool.and_self, if_true,
        DeviceView.configure_status] at hstatus ⊢
      exact hstatus
    · simp only [Client.startView, hresult, decide_false, Bool.and_false, Bool.false_eq_true,
        if_false] at hstatus ⊢
      exact hstatus

/-- A device is started by a request, or keeps its status. -/
lemma tellsChanges_startDevice (h : m.devicesManager.Intact) (hsteady : m.Steady)
    (hnum : m.numClients ≠ 0) (clientID : κ) (id : δ) (result : OpenResult) :
    DevicesManager.TellsChanges m.devicesManager
      (m.startDevice clientID id result).1.devicesManager := by
  have hkeep : DevicesManager.TellsChanges m.devicesManager m.devicesManager :=
    DevicesManager.tellsChanges_of_status fun _ => rfl
  cases hclient : m.connectedClients[clientID]? with
  | none =>
    simp only [startDevice, hclient]
    exact hkeep
  | some client =>
    cases hmay : client.mayChangeDevices with
    | false =>
      simp only [startDevice, hclient, hmay]
      exact hkeep
    | true =>
      have hmoves := moves_startDevice_set h client id result
      have hstatus := startView_status client (h.views id) id result
      have hsnd := startDevice_snd h id result
      simp only [startDevice, hclient, hmay, hsteady.enabled]
      rcases hr : m.devicesManager.startDevice id result with ⟨dm, _ | _⟩
      · rw [hr] at hmoves hsnd
        apply hmoves.tellsChanges_of_status
        rw [hstatus, ← hsnd]
        rfl
      · rw [hr] at hmoves hsnd
        rw [← hsnd] at hstatus
        exact hmoves.tellsChanges_send (.devicesStarted [id]) hnum (fun _ => rfl)
          ⟨hstatus, List.mem_singleton_self _⟩

/-- A stop without the signal. -/
lemma stopDevice_quiet {clientID : κ} {client : Client π δ}
    (hclient : m.connectedClients[clientID]? = some client) (hmay : client.mayChangeDevices)
    (hquiet : m.enabledSignals = false) (id : δ) :
    m.stopDevice clientID id =
      ({ m with devicesManager := (m.devicesManager.stopDevice id).1 },
        (m.devicesManager.stopDevice id).2) := by
  simp [stopDevice, hclient, hmay, hquiet]

/-- A start without the signal. -/
lemma startDevice_quiet {clientID : κ} {client : Client π δ}
    (hclient : m.connectedClients[clientID]? = some client) (hmay : client.mayChangeDevices)
    (hquiet : m.enabledSignals = false) (id : δ) (result : OpenResult) :
    m.startDevice clientID id result =
      ({ m with
          devicesManager := if (m.devicesManager.startDevice id result).2 then
            client.setDeviceActiveUser id (m.devicesManager.startDevice id result).1
            else (m.devicesManager.startDevice id result).1 },
        (m.devicesManager.startDevice id result).2) := by
  simp only [startDevice, hclient, hmay, hquiet]
  rcases m.devicesManager.startDevice id result with ⟨dm, _ | _⟩
  · rfl
  · rfl

/-- A restart tells whether the device could be started again. -/
lemma tellsChanges_restartDevice [DecidableEq π] (h : m.devicesManager.Intact)
    (hnum : m.numClients ≠ 0) (clientID : κ) (id : δ) (result : OpenResult) :
    DevicesManager.TellsChanges m.devicesManager
      (m.restartDevice clientID id result).1.devicesManager := by
  have hkeep : DevicesManager.TellsChanges m.devicesManager m.devicesManager :=
    DevicesManager.tellsChanges_of_status fun _ => rfl
  cases hclient : m.connectedClients[clientID]? with
  | none =>
    simp only [restartDevice, stopDevice, hclient]
    exact hkeep
  | some client =>
    cases hmay : client.mayChangeDevices with
    | false =>
      simp only [restartDevice, stopDevice, hclient, hmay]
      exact hkeep
    | true =>
      have hstop := h.moves_stopDevice id
      have hstart := moves_startDevice_set
        (m := { m with devicesManager := (m.devicesManager.stopDevice id).1 }) hstop.intact client id
        result
      -- the stop and the start together act on the one device
      have hboth : DevicesManager.Moves (DevicesManager.actOn (· = id)
          fun _ v => client.startView id result v.stop) m.devicesManager _ :=
        (hstop.trans hstart).congr fun devID => by
          simp only [DevicesManager.actOn]
          split_ifs <;> rfl
      have hstopView :
          (m.devicesManager.stopDevice id).1.view id = (m.devicesManager.view id).stop := by
        rw [hstop.view, DevicesManager.actOn, if_pos rfl]
      have hsnd := startDevice_snd hstop.intact id result
      have hstatus := startView_status client (hstop.intact.views id) id result
      rw [← hsnd, hstopView] at hstatus
      rw [restartDevice,
        stopDevice_quiet (m := { m with enabledSignals := false }) hclient hmay rfl, stopDevice_snd h]
      cases hstarted : (m.devicesManager.view id).started.isSome with
      | false =>
        apply hstop.tellsChanges_of_status
        rw [DeviceView.stop_of_not_started (by simpa using hstarted)]
      | true =>
        rw [DeviceView.stop_status hstarted] at hstatus
        simp only [startDevice_quiet (m := { m with
          devicesManager := (m.devicesManager.stopDevice id).1
          enabledSignals := false }) hclient hmay rfl]
        cases hopened : ((m.devicesManager.stopDevice id).1.startDevice id result).2 with
        | false =>
          rw [hopened] at hstatus hboth
          exact hboth.tellsChanges_send (.devicesStopped [id]) hnum (fun _ => rfl)
            ⟨hstatus, List.mem_singleton_self _⟩
        | true =>
          rw [hopened] at hstatus hboth
          exact hboth.tellsChanges_send (.devicesStarted [id]) hnum (fun _ => rfl)
            ⟨hstatus, List.mem_singleton_self _⟩

/-! ### Between two events -/

lemma Steady.congr {m' : ClientsManager κ π δ} (h : m.Steady)
    (henabled : m'.enabledSignals = m.enabledSignals)
    (hnum : m'.devicesManager.numClients = m.devicesManager.numClients)
    (hsize : m'.connectedClients.size = m.connectedClients.size) : m'.Steady := by
  refine ⟨henabled.trans h.enabled, ?_⟩
  rw [hnum, h.numClients]
  simp only [ClientsManager.numClients, hsize]

lemma Steady.send (h : m.Steady) (signals : List (BusSignal δ)) : (m.send signals).Steady :=
  h.congr rfl rfl rfl

lemma size_setClient {clientID : κ} {old : Client π δ}
    (hold : m.connectedClients[clientID]? = some old) (client : Client π δ) :
    (m.setClient clientID client).connectedClients.size = m.connectedClients.size := by
  have hmem : m.connectedClients.contains clientID := by
    rw [Std.ExtTreeMap.contains_eq_isSome_getElem?, hold]
    rfl
  rw [setClient, Std.ExtTreeMap.size_insert, if_pos hmem]

lemma Steady.unregisterClient (h : m.Steady) (clientID : κ) :
    (m.unregisterClient clientID).1.Steady := by
  cases hclient : m.connectedClients[clientID]? with
  | none =>
    simp only [ClientsManager.unregisterClient, hclient]
    exact h
  | some client =>
    simp only [ClientsManager.unregisterClient, hclient]
    split_ifs
    · exact ⟨h.enabled, rfl⟩
    · exact ⟨h.enabled, rfl⟩

lemma Steady.foldl_unregisterClient (h : m.Steady) (ids : List κ) :
    (ids.foldl (fun m clientID => (m.unregisterClient clientID).1) m).Steady := by
  induction ids generalizing m with
  | nil => exact h
  | cons id ids ih => exact ih (h.unregisterClient id)

lemma Steady.registerClient [DecidableEq π] (h : m.Steady) (path : π) (clientID : κ) :
    (m.registerClient path clientID).1.Steady := by
  simp only [ClientsManager.registerClient]
  split
  · exact h.congr rfl rfl Std.ExtTreeMap.size_map
  · split_ifs
    · exact h.foldl_unregisterClient _
    · exact ⟨(h.foldl_unregisterClient _).enabled, rfl⟩

lemma setDeviceActiveUser_numClients {dm : DevicesManager δ} (client : Client π δ) (devID : δ) :
    (client.setDeviceActiveUser devID dm).numClients = dm.numClients := by
  simp only [Client.setDeviceActiveUser, DevicesManager.setDeviceActiveConfiguration]
  split
  · rfl
  · split
    · rfl
    · split <;> rfl

lemma setActiveUser_numClients (client : Client π δ) :
    (m.setActiveUser client).devicesManager.numClients = m.devicesManager.numClients := by
  have hfold : ∀ (devIDs : List δ) (dm : DevicesManager δ),
      (devIDs.foldl (fun dm devID => client.setDeviceActiveUser devID dm) dm).numClients =
        dm.numClients := by
    intro devIDs
    induction devIDs with
    | nil => exact fun _ => rfl
    | cons devID devIDs ih =>
      intro dm
      rw [List.foldl_cons, ih, setDeviceActiveUser_numClients]
  exact hfold _ _

lemma Steady.updateClientState (h : m.Steady) (clientID : κ) (state : String) :
    (m.updateClientState clientID state).1.Steady := by
  cases hclient : m.connectedClients[clientID]? with
  | none =>
    simp only [ClientsManager.updateClientState, hclient]
    split_ifs <;> exact h
  | some client =>
    have hsize := size_setClient hclient (client.updateSessionState state)
    have hset := setActiveUser_numClients (m := { m.setClient clientID
      (client.updateSessionState state) with
      numActive := countActive m.numActive client (client.updateSessionState state) })
      (client.updateSessionState state)
    simp only [ClientsManager.updateClientState, hclient]
    split_ifs
    · exact h
    · exact h.congr rfl hset hsize
    · exact h.congr rfl hset hsize
    · exact h.congr rfl rfl hsize
    · exact h.congr rfl rfl hsize

lemma Steady.toggleClientReadyPropertie (h : m.Steady) (clientID : κ) :
    (m.toggleClientReadyPropertie clientID).1.Steady := by
  cases hclient : m.connectedClients[clientID]? with
  | none =>
    simp only [ClientsManager.toggleClientReadyPropertie, hclient]
    exact h
  | some client =>
    have hsize := size_setClient hclient client.toggleClientReadyPropertie
    simp only [ClientsManager.toggleClientReadyPropertie, hclient]
    split_ifs
    · exact h.congr rfl (setActiveUser_numClients _) hsize
    · exact h.congr rfl rfl hsize

lemma Steady.onClient (h : m.Steady) (clientID : κ) (op : Client π δ → Client π δ × Bool) :
    (m.onClient clientID op).1.Steady := by
  cases hclient : m.connectedClients[clientID]? with
  | none =>
    simp only [ClientsManager.onClient, hclient]
    exact h
  | some client =>
    simp only [ClientsManager.onClient, hclient]
    exact h.congr rfl rfl (size_setClient hclient _)

lemma Steady.getDeviceProperties (h : m.Steady) (clientID : κ) (devID : δ) :
    (m.getDeviceProperties clientID devID).1.Steady := by
  cases hclient : m.connectedClients[clientID]? with
  | none =>
    simp only [ClientsManager.getDeviceProperties, hclient]
    exact h
  | some client =>
    simp only [ClientsManager.getDeviceProperties, hclient]
    split_ifs
    · exact h.congr rfl rfl (size_setClient hclient _)
    · exact h

end ClientsManager

namespace DevicesManager.Intact

variable {m : DevicesManager δ}

lemma stopDevice_numClients (h : m.Intact) (devID : δ) :
    (m.stopDevice devID).1.numClients = m.numClients := by
  obtain ⟨driver, hdriver⟩ := h.oneDriver
  exact (hdriver.acts_stopDevice devID).numClients

lemma startDevice_numClients (h : m.Intact) (devID : δ) (result : OpenResult) :
    (m.startDevice devID result).1.numClients = m.numClients := by
  obtain ⟨driver, hdriver⟩ := h.oneDriver
  exact (hdriver.acts_startDevice devID result).numClients

omit [LinearOrder κ] in
lemma step_numClients (h : m.Intact) (event : DaemonEvent κ π δ) :
    (m.step event).numClients = m.numClients := by
  obtain ⟨driver, hdriver⟩ := h.oneDriver
  cases event with
  | request r => rfl
  | udevAdd found =>
    exact ((hdriver.searchSupportedDevices found).acts_initializeDevices
      (h.supported hdriver found) false _).numClients
  | udevRemove found =>
    exact (hdriver.searchSupportedDevices found).acts_checkForUnpluggedDevices.numClients
  | checkThreads =>
    obtain ⟨m', heq, hacts⟩ := hdriver.acts_checkInitializedDevicesThreadsStatus
    rw [step, heq]
    exact hacts.numClients
  | handleSleepEvent mode opens =>
    cases mode with
    | true => exact hdriver.acts_stopInitializedDevices.numClients
    | false => exact (hdriver.acts_startSleepingDevices h.sleeping opens).numClients
  | keysTurn devID turn =>
    exact (hdriver.acts_runThread devID fun device => announces_keysTurn turn).numClients
  | stopThreads devID =>
    have hop : ∀ device : USBDevice δ,
        Announces device ({ device with threadsStatus := false }, []) :=
      fun device => announces_of_mask rfl rfl
    exact (hdriver.acts_runThread devID hop).numClients

end DevicesManager.Intact

namespace ClientsManager

variable {m : ClientsManager κ π δ}

lemma Steady.stopDevice (h : m.Steady) (hm : m.devicesManager.Intact) (clientID : κ) (id : δ) :
    (m.stopDevice clientID id).1.Steady := by
  have hnum := hm.stopDevice_numClients id
  cases hclient : m.connectedClients[clientID]? with
  | none =>
    simp only [ClientsManager.stopDevice, hclient]
    exact h
  | some client =>
    simp only [ClientsManager.stopDevice, hclient]
    split_ifs
    · exact h
    · exact h.congr rfl hnum rfl
    · exact h.congr rfl hnum rfl

/-- The start of a device, with or without the signal. -/
lemma startDevice_devicesManager (hm : m.devicesManager.Intact) (clientID : κ) (id : δ)
    (result : OpenResult) :
    (m.startDevice clientID id result).1.enabledSignals = m.enabledSignals ∧
      (m.startDevice clientID id result).1.devicesManager.numClients =
        m.devicesManager.numClients := by
  have hnum := hm.startDevice_numClients id result
  cases hclient : m.connectedClients[clientID]? with
  | none => simp [ClientsManager.startDevice, hclient]
  | some client =>
    simp only [ClientsManager.startDevice, hclient]
    cases client.mayChangeDevices with
    | false => exact ⟨rfl, rfl⟩
    | true =>
      rcases hr : m.devicesManager.startDevice id result with ⟨dm, _ | _⟩
      · rw [hr] at hnum
        exact ⟨rfl, hnum⟩
      · rw [hr] at hnum
        have hset := (setDeviceActiveUser_numClients client id).trans hnum
        cases m.enabledSignals with
        | true => exact ⟨rfl, hset⟩
        | false => exact ⟨rfl, hset⟩

lemma Steady.startDevice (h : m.Steady) (hm : m.devicesManager.Intact) (clientID : κ) (id : δ)
    (result : OpenResult) : (m.startDevice clientID id result).1.Steady := by
  obtain ⟨henabled, hnum⟩ := startDevice_devicesManager hm clientID id result
  exact h.congr henabled hnum (congrArg _ (startDevice_clients clientID id result).1)

lemma Steady.restartDevice [DecidableEq π] (h : m.Steady) (hm : m.devicesManager.Intact)
    (clientID : κ) (id : δ) (result : OpenResult) :
    (m.restartDevice clientID id result).1.Steady := by
  -- signals are disabled during the restart, and enabled again at its end
  have hquiet : { m with enabledSignals := false }.devicesManager.Intact := hm
  have hstop := moves_stopDevice hquiet clientID id
  have hclients := (stopDevice_clients (m := { m with enabledSignals := false }) clientID id).1
  have hnum : ({ m with enabledSignals := false }.stopDevice clientID
      id).1.devicesManager.numClients = m.devicesManager.numClients := by
    have hnum := hm.stopDevice_numClients id
    simp only [ClientsManager.stopDevice]
    split
    · rfl
    · split_ifs
      · rfl
      · exact hnum
      · exact hnum
  rw [ClientsManager.restartDevice]
  generalize hr : { m with enabledSignals := false }.stopDevice clientID id = r at *
  rcases r with ⟨m₁, _ | _⟩
  · have hlast : { m₁ with enabledSignals := true }.Steady :=
      h.congr h.enabled.symm hnum (congrArg _ hclients)
    exact hlast
  · have hclients' := (startDevice_clients (m := m₁) clientID id result).1
    have hnum' := (startDevice_devicesManager hstop.intact clientID id result).2
    simp only
    rcases hr₂ : m₁.startDevice clientID id result with ⟨m₂, restarted⟩
    rw [hr₂] at hclients' hnum'
    have hlast : { m₂ with enabledSignals := true }.Steady :=
      h.congr h.enabled.symm (hnum'.trans hnum) (congrArg _ (hclients'.trans hclients))
    cases restarted with
    | true => exact hlast.send _
    | false => exact hlast.send _

theorem Steady.step [DecidableEq π] (h : m.Steady) (hm : m.devicesManager.Intact)
    (event : DaemonEvent κ π δ) : (m.step event).Steady := by
  cases event with
  | request r =>
    cases r with
    | registerClient path clientID => exact h.registerClient path clientID
    | unregisterClient clientID => exact h.unregisterClient clientID
    | updateClientState clientID state => exact h.updateClientState clientID state
    | toggleClientReadyPropertie clientID => exact h.toggleClientReadyPropertie clientID
    | stopDevice clientID devID => exact h.stopDevice hm clientID devID
    | startDevice clientID devID result => exact h.startDevice hm clientID devID result
    | restartDevice clientID devID result => exact h.restartDevice hm clientID devID result
    | getDeviceProperties clientID devID => exact h.getDeviceProperties clientID devID
    | deleteDeviceConfiguration clientID devID => exact h.onClient clientID _
    | setDeviceBacklightColor clientID devID color => exact h.onClient clientID _
    | setDeviceLCDPluginsMask clientID devID maskID mask => exact h.onClient clientID _
    | _ => exact h
  | _ => exact h.congr rfl (hm.step_numClients _) rfl

/-- Every event but a suspend or a resume tells the statuses that it changes. -/
theorem tellsChanges_step [DecidableEq π] (hm : m.devicesManager.Intact) (h : m.Steady)
    {event : DaemonEvent κ π δ} (hnum : event.ChangesStatuses → m.numClients ≠ 0)
    (hsleep : ∀ mode opens, event ≠ .handleSleepEvent mode opens) :
    DevicesManager.TellsChanges m.devicesManager (m.step event).devicesManager := by
  have hnum' : event.ChangesStatuses → m.devicesManager.numClients ≠ 0 :=
    fun hchanges => h.numClients.trans_ne (hnum hchanges)
  cases event with
  | request r =>
    by_cases hstop : ∃ clientID id, r = .stopDevice clientID id
    · obtain ⟨clientID, id, rfl⟩ := hstop
      exact tellsChanges_stopDevice hm h (hnum trivial) clientID id
    by_cases hstart : ∃ clientID id result, r = .startDevice clientID id result
    · obtain ⟨clientID, id, result, rfl⟩ := hstart
      exact tellsChanges_startDevice hm h (hnum trivial) clientID id result
    by_cases hrestart : ∃ clientID id result, r = .restartDevice clientID id result
    · obtain ⟨clientID, id, result, rfl⟩ := hrestart
      exact tellsChanges_restartDevice hm (hnum trivial) clientID id result
    · push Not at hstop hstart hrestart
      apply DevicesManager.tellsChanges_of_status
      intro devID
      rw [(moves_step hm (.request r)).view, viewStep]
      exact requestView_status devID _ hstop fun clientID id result =>
        ⟨hstart clientID id result, hrestart clientID id result⟩
  | udevAdd found => exact hm.tellsChanges_udevAdd (hnum' trivial) found _
  | udevRemove found => exact hm.tellsChanges_udevRemove (hnum' trivial) found
  | checkThreads => exact hm.tellsChanges_checkThreads (hnum' trivial)
  | handleSleepEvent mode opens => exact absurd rfl (hsleep mode opens)
  | keysTurn devID turn =>
    apply DevicesManager.tellsChanges_of_status
    intro id
    rw [(moves_step hm (.keysTurn devID turn)).view]
    simp only [viewStep]
    split_ifs <;> simp
  | stopThreads devID =>
    apply DevicesManager.tellsChanges_of_status
    intro id
    rw [(moves_step hm (.stopThreads devID)).view]
    simp only [viewStep]
    split_ifs <;> simp

end ClientsManager

/-- In every reachable state signals are enabled, and the devices manager has the number of
clients. -/
theorem ReachableDaemon.steady [DecidableEq π] {m : ClientsManager κ π δ} (h : ReachableDaemon m) :
    m.Steady := by
  obtain ⟨driverID, found, opens, hreach⟩ := h
  have hstep : ∀ (m : ClientsManager κ π δ) (event : DaemonEvent κ π δ),
      m.devicesManager.Intact ∧ m.Steady →
      (m.step event).devicesManager.Intact ∧ (m.step event).Steady :=
    fun m event hm => ⟨(ClientsManager.moves_step hm.1 event).intact, hm.2.step hm.1 event⟩
  have hloaded : ({ drivers := [{ driverID := driverID }] } : DevicesManager δ).Intact :=
    DevicesManager.intact_loaded driverID
  obtain ⟨driver, hdriver⟩ := hloaded.oneDriver
  refine (hreach.induction ⟨intact_startMonitoring driverID found opens, rfl, ?_⟩ hstep).2
  exact ((hdriver.searchSupportedDevices found).acts_initializeDevices
    (hloaded.supported hdriver found) true opens).numClients

end GLogiK
