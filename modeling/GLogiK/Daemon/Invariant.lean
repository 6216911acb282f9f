import GLogiK.Daemon.Active
import GLogiK.Daemon.Operations

/-!
# What an event does to each device

Between two events the devices manager is intact: it has the one driver that was loaded, no
detected device is left, and the invariant of views holds. Every event changes the view of each
device as `ClientsManager.viewStep` says.
-/

namespace GLogiK

variable {κ π δ : Type*} [LinearOrder κ] [LinearOrder δ]

namespace DevicesManager

/-! ### The invariant -/

structure Intact (m : DevicesManager δ) : Prop where
  oneDriver : ∃ driver, m.OneDriver driver
  detected : m.detectedDevices = ∅
  sleeping : m.sleepingDevices.Nodup
  views : ∀ devID, (m.view devID).Inv

/-- The views change as `act` says, and the signals that were sent stay sent. -/
structure Moves (act : δ → DeviceView δ → DeviceView δ) (m m' : DevicesManager δ) : Prop where
  intact : m'.Intact
  view : ∀ devID, m'.view devID = act devID (m.view devID)
  sent : m.sent <+: m'.sent

variable {m m' m'' : DevicesManager δ} {act act' : δ → DeviceView δ → DeviceView δ}

lemma Intact.moves_refl (h : m.Intact) : Moves (fun _ v => v) m m :=
  ⟨h, fun _ => rfl, List.prefix_refl _⟩

lemma Moves.trans (h : Moves act m m') (h' : Moves act' m' m'') :
    Moves (fun devID v => act' devID (act devID v)) m m'' :=
  ⟨h'.intact, fun devID => by rw [h'.view, h.view], h.sent.trans h'.sent⟩

lemma Moves.congr (h : Moves act m m')
    (hact : ∀ devID, act devID (m.view devID) = act' devID (m.view devID)) : Moves act' m m' :=
  ⟨h.intact, fun devID => by rw [h.view, hact], h.sent⟩

/-- An operation between two events that keeps the invariant of views. -/
lemma Acts.moves (h : Acts act m m') (hm : m.Intact) (hact : ∀ devID v, v.Inv → (act devID v).Inv) :
    Moves act m m' := by
  refine ⟨⟨h.oneDriver, h.detected.trans hm.detected, ?_, fun devID => ?_⟩, h.view, h.sent⟩
  · rw [h.sleeping]
    exact hm.sleeping
  · rw [h.view]
    exact hact devID _ (hm.views devID)

omit [LinearOrder δ] in
lemma inv_actOn {p : δ → Prop} [DecidablePred p] (hact : ∀ devID v, v.Inv → (act devID v).Inv) :
    ∀ devID v, v.Inv → (actOn p act devID v).Inv := by
  intro devID v hv
  rw [actOn]
  split_ifs
  · exact hact devID v hv
  · exact hv

/-! ### Changes that no view shows -/

lemma Intact.setNumClients (h : m.Intact) (num : UInt8) : (m.setNumClients num).Intact := by
  obtain ⟨⟨driver, hdriver⟩, hdetected, hsleeping, hviews⟩ := h
  exact ⟨⟨driver, hdriver.congr rfl rfl rfl⟩, hdetected, hsleeping, hviews⟩

lemma Moves.setNumClients (h : Moves act m m') (num : UInt8) : Moves act m (m'.setNumClients num) :=
  ⟨h.intact.setNumClients num, h.view, h.sent⟩

omit [LinearOrder δ] in
lemma eq_of_mem_sendSignal {numClients : UInt8} {signal signal' : BusSignal δ} {forceSend : Bool}
    (hmem : signal' ∈ sendSignalToClients numClients signal forceSend) : signal' = signal := by
  rw [sendSignalToClients] at hmem
  by_cases hnone : numClients = 0 ∧ ¬ forceSend
  · rw [if_pos hnone] at hmem
    cases hmem
  · rw [if_neg hnone] at hmem
    exact List.mem_singleton.mp hmem

omit [LinearOrder δ] in
lemma eq_of_mem_sendStatus {numClients : UInt8} {signal signal' : BusSignal δ}
    (hmem : signal' ∈ sendStatusSignalArrayToClients numClients signal) : signal' = signal := by
  rw [sendStatusSignalArrayToClients] at hmem
  by_cases hnone : numClients = 0
  · rw [if_pos hnone] at hmem
    cases hmem
  · rw [if_neg hnone] at hmem
    exact List.mem_singleton.mp hmem

lemma Moves.send (h : Moves act m m') {signals : List (BusSignal δ)}
    (hswitch : ∀ signal ∈ signals, ∀ devID, signal.switchOf devID = none) :
    Moves act m (m'.send signals) := by
  obtain ⟨⟨⟨driver, hdriver⟩, hdetected, hsleeping, hviews⟩, hview, hsent⟩ := h
  have hacts := hdriver.acts_refl.send hswitch
  refine ⟨⟨hacts.oneDriver, hdetected, hsleeping, fun devID => ?_⟩, fun devID => ?_,
    hsent.trans hacts.sent⟩
  · rw [hacts.view]
    exact hviews devID
  · rw [hacts.view]
    exact hview devID

/-- A status signal is no bank switch. -/
lemma Moves.sendStatus (h : Moves act m m') {numClients : UInt8} {signal : BusSignal δ}
    (hswitch : ∀ devID, signal.switchOf devID = none) :
    Moves act m (m'.send (sendStatusSignalArrayToClients numClients signal)) := by
  refine h.send fun signal' hsignal devID => ?_
  rw [eq_of_mem_sendStatus hsignal]
  exact hswitch devID

/-! ### Operations of the devices manager -/

lemma Intact.moves_resetDevicesStates (h : m.Intact) :
    Moves (fun _ v => v.reset) m m.resetDevicesStates := by
  obtain ⟨driver, hdriver⟩ := h.oneDriver
  exact hdriver.acts_resetDevicesStates.moves h fun _ _ hv => hv.onDevice _

lemma Intact.moves_stopDevice (h : m.Intact) (devID : δ) :
    Moves (actOn (· = devID) fun _ v => v.stop) m (m.stopDevice devID).1 := by
  obtain ⟨driver, hdriver⟩ := h.oneDriver
  exact (hdriver.acts_stopDevice devID).moves h (inv_actOn fun _ _ hv => hv.stop)

lemma Intact.moves_startDevice (h : m.Intact) (devID : δ) (result : OpenResult) :
    Moves (actOn (· = devID) fun _ v => v.start result) m (m.startDevice devID result).1 := by
  obtain ⟨driver, hdriver⟩ := h.oneDriver
  exact (hdriver.acts_startDevice devID result).moves h (inv_actOn fun _ _ hv => hv.start result)

lemma Intact.moves_setDeviceActiveConfiguration (h : m.Intact) (devID : δ) (c : RGBBytes)
    (LCDPluginsMask1 : UInt64) :
    Moves (actOn (· = devID) fun _ v => v.configure c LCDPluginsMask1) m
      (m.setDeviceActiveConfiguration devID c LCDPluginsMask1) := by
  obtain ⟨driver, hdriver⟩ := h.oneDriver
  exact (hdriver.acts_setDeviceActiveConfiguration devID c LCDPluginsMask1).moves h
    (inv_actOn fun _ _ hv => hv.onDevice _)

lemma Intact.moves_runThread (h : m.Intact) (devID : δ)
    {op : USBDevice δ → USBDevice δ × List (DeviceSignal δ)}
    (hop : ∀ device, Announces device (op device)) :
    Moves (actOn (· = devID) fun _ v => v.onDevice op) m (m.runThread devID op) := by
  obtain ⟨driver, hdriver⟩ := h.oneDriver
  exact (hdriver.acts_runThread devID hop).moves h (inv_actOn fun _ _ hv => hv.onDevice op)

/-- Suspend, resume and hotplug leave no detected or sleeping device of before. -/
lemma Acts.moves_of_base {base : DevicesManager δ} (h : Acts act base m') (hm : m.Intact)
    (hview : ∀ devID, base.view devID = m.view devID) (hsent : base.sent = m.sent)
    (hdetected : base.detectedDevices = ∅) (hsleeping : base.sleepingDevices.Nodup)
    (hact : ∀ devID v, v.Inv → (act devID v).Inv) : Moves act m m' := by
  refine ⟨⟨h.oneDriver, h.detected.trans hdetected, h.sleeping ▸ hsleeping, fun devID => ?_⟩,
    fun devID => ?_, hsent ▸ h.sent⟩
  · rw [h.view, hview]
    exact hact devID _ (hm.views devID)
  · rw [h.view, hview]

lemma Intact.moves_stopInitializedDevices (h : m.Intact) :
    Moves (fun _ v => v.stop) m m.stopInitializedDevices := by
  obtain ⟨driver, hdriver⟩ := h.oneDriver
  exact hdriver.acts_stopInitializedDevices.moves_of_base h (fun _ => rfl) rfl h.detected
    m.startedDevices.nodup_keys fun _ _ hv => hv.stop

lemma Intact.moves_startSleepingDevices (h : m.Intact) (opens : δ → OpenResult) :
    Moves (actOn (· ∈ m.sleepingDevices) fun devID v => v.start (opens devID)) m
      (m.startSleepingDevices opens) := by
  obtain ⟨driver, hdriver⟩ := h.oneDriver
  exact (hdriver.acts_startSleepingDevices h.sleeping opens).moves_of_base h (fun _ => rfl) rfl
    h.detected List.nodup_nil (inv_actOn fun devID _ hv => hv.start (opens devID))

lemma Intact.supported (h : m.Intact) {driver : KeyboardDriver δ} (hdriver : m.OneDriver driver)
    (found : List (USBDeviceID δ)) : (m.searchSupportedDevices found).Supported driver := by
  refine supported_searchSupportedDevices hdriver ?_ found
  intro devID det hdet
  rw [h.detected, Std.ExtTreeMap.getElem?_empty] at hdet
  cases hdet

lemma Intact.moves_initializeDevices (h : m.Intact) (found : List (USBDeviceID δ))
    (openDevices : Bool) (opens : δ → OpenResult) :
    Moves (fun devID v => (m.searchSupportedDevices found).detectedDevices[devID]?.elim v fun det =>
        v.detect openDevices det (opens devID)) m
      ((m.searchSupportedDevices found).initializeDevices openDevices opens) := by
  obtain ⟨driver, hdriver⟩ := h.oneDriver
  refine ((hdriver.searchSupportedDevices found).acts_initializeDevices (h.supported hdriver found)
    openDevices opens).moves_of_base h (fun _ => rfl) rfl rfl h.sleeping fun devID v hv => ?_
  cases (m.searchSupportedDevices found).detectedDevices[devID]? with
  | none => exact hv
  | some det => exact hv.detect openDevices det (opens devID)

lemma Intact.moves_checkForUnpluggedDevices (h : m.Intact) (found : List (USBDeviceID δ)) :
    Moves (actOn (fun devID => (m.searchSupportedDevices found).detectedDevices[devID]? = none)
        fun _ v => v.unplug) m
      (m.searchSupportedDevices found).checkForUnpluggedDevices := by
  obtain ⟨driver, hdriver⟩ := h.oneDriver
  exact (hdriver.searchSupportedDevices found).acts_checkForUnpluggedDevices.moves_of_base h
    (fun _ => rfl) rfl rfl h.sleeping (inv_actOn fun _ _ hv => hv.unplug)

lemma Intact.moves_checkInitializedDevicesThreadsStatus (h : m.Intact) :
    Moves (fun _ v => v.checkThreads) m (m.checkInitializedDevicesThreadsStatus.getD m) := by
  obtain ⟨driver, hdriver⟩ := h.oneDriver
  obtain ⟨m', heq, hacts⟩ := hdriver.acts_checkInitializedDevicesThreadsStatus
  rw [heq]
  exact hacts.moves h fun _ _ hv => hv.checkThreads

end DevicesManager

/-! ### What a client does to a device -/

namespace Client

variable (client : Client π δ)

/-- The client's parameters are set on the device. -/
def configure (devID : δ) (v : DeviceView δ) : DeviceView δ :=
  match client.devices[devID]? with
  | none        => v
  | some device => v.configure device.RGB device.LCDPluginsMask1

/-- The client starts the device. -/
def startView (devID : δ) (result : OpenResult) (v : DeviceView δ) : DeviceView δ :=
  if v.stopped.isSome && decide (result = .opened) then client.configure devID (v.start result)
  else v.start result

def restartView (devID : δ) (result : OpenResult) (v : DeviceView δ) : DeviceView δ :=
  if v.started.isSome then client.startView devID result v.stop else v

variable {client} {m : DevicesManager δ}

lemma inv_configure (devID : δ) (v : DeviceView δ) (h : v.Inv) : (client.configure devID v).Inv := by
  rw [configure]
  split
  · exact h
  · exact h.onDevice _

lemma acts_setDeviceActiveUser {driver : KeyboardDriver δ} (h : m.OneDriver driver) (devID : δ) :
    DevicesManager.Acts (DevicesManager.actOn (· = devID) fun _ => client.configure devID) m
      (client.setDeviceActiveUser devID m) := by
  rw [setDeviceActiveUser]
  cases hdevice : client.devices[devID]? with
  | none =>
    refine h.acts_refl.congr fun id => ?_
    by_cases hid : id = devID
    · simp [DevicesManager.actOn, configure, hid, hdevice]
    · simp [DevicesManager.actOn, hid]
  | some device =>
    refine (h.acts_setDeviceActiveConfiguration devID device.RGB device.LCDPluginsMask1).congr
      fun id => ?_
    by_cases hid : id = devID
    · simp [DevicesManager.actOn, configure, hid, hdevice]
    · simp [DevicesManager.actOn, hid]

end Client

lemma DevicesManager.Intact.moves_setDeviceActiveUser {m : DevicesManager δ} (h : m.Intact)
    (client : Client π δ) (devID : δ) :
    Moves (actOn (· = devID) fun _ => client.configure devID) m
      (client.setDeviceActiveUser devID m) := by
  obtain ⟨driver, hdriver⟩ := h.oneDriver
  exact (Client.acts_setDeviceActiveUser hdriver devID).moves h
    (inv_actOn fun _ => Client.inv_configure devID)

/-- The devices that are not started have no parameters. -/
lemma DeviceView.configure_of_not_started {v : DeviceView δ} (hstarted : v.started = none)
    (client : Client π δ) (devID : δ) : client.configure devID v = v := by
  rw [Client.configure]
  split
  · rfl
  · simp [configure, onDevice, device, hstarted]

omit [LinearOrder δ] in
lemma resetDeviceState_resetDeviceState (device : USBDevice δ) :
    resetDeviceState (resetDeviceState device) = resetDeviceState device := by
  simp only [resetDeviceState_eq, USBDevice.mk.injEq, ite_eq_right_iff, true_and]
  refine ⟨?_, ?_, ?_, ?_⟩ <;> split_ifs <;> simp_all

omit [LinearOrder δ] in
@[simp] lemma DeviceView.reset_reset (v : DeviceView δ) : v.reset.reset = v.reset := by
  cases hstarted : v.started with
  | none => simp [reset, onDevice, device, hstarted]
  | some det =>
    have hreset : v.reset = { v with held := v.held.map resetDeviceState } :=
      onDevice_map_of_started hstarted resetDeviceState
    have hagain : v.reset.reset = { v.reset with held := v.reset.held.map resetDeviceState } :=
      onDevice_map_of_started (v := v.reset) (by rw [hreset]; exact hstarted) resetDeviceState
    rw [hagain, hreset]
    simp [Function.comp_def, resetDeviceState_resetDeviceState]

/-! ### Requests -/

namespace ClientsManager

/-- What a request does to the view of a device. -/
def requestView [DecidableEq π] (m : ClientsManager κ π δ) (devID : δ) (v : DeviceView δ) :
    Request κ π δ → DeviceView δ
  | .registerClient path _ =>
    match findLostClients path m.connectedClients.toList with
    | none      => v
    | some lost => if ∃ id ∈ lost, id ∈ activeClients m.connectedClients then v.reset else v
  | .unregisterClient clientID => if clientID ∈ activeClients m.connectedClients then v.reset else v
  | .updateClientState clientID state =>
    if state ≠ "active" ∧ state ≠ "online" then v
    else
      match m.connectedClients[clientID]? with
      | none => v
      | some oldClient =>
        let client := oldClient.updateSessionState state
        let v := if client.isActive ∧ client.isReady then client.configure devID v else v
        if countActive m.numActive oldClient client = 0 then v.reset else v
  | .toggleClientReadyPropertie clientID =>
    match m.connectedClients[clientID]? with
    | none => v
    | some client =>
      if client.toggleClientReadyPropertie.isReady ∧ client.isActive then client.configure devID v
      else v
  | .stopDevice clientID id =>
    match m.connectedClients[clientID]? with
    | none        => v
    | some client => if client.mayChangeDevices ∧ devID = id then v.stop else v
  | .startDevice clientID id result =>
    match m.connectedClients[clientID]? with
    | none        => v
    | some client => if client.mayChangeDevices ∧ devID = id then client.startView id result v else v
  | .restartDevice clientID id result =>
    match m.connectedClients[clientID]? with
    | none        => v
    | some client => if client.mayChangeDevices ∧ devID = id then client.restartView id result v else v
  | _ => v

/-- What an event does to the view of a device. -/
def viewStep [DecidableEq π] (m : ClientsManager κ π δ) (devID : δ) (v : DeviceView δ) :
    DaemonEvent κ π δ → DeviceView δ
  | .request r                    => m.requestView devID v r
  | .udevAdd found                =>
    (m.devicesManager.searchSupportedDevices found).detectedDevices[devID]?.elim v fun det =>
      v.detect false det .opened
  | .udevRemove found             =>
    if (m.devicesManager.searchSupportedDevices found).detectedDevices[devID]? = none then v.unplug
    else v
  | .checkThreads                 => v.checkThreads
  | .handleSleepEvent true _      => v.stop
  | .handleSleepEvent false opens =>
    if devID ∈ m.devicesManager.sleepingDevices then v.start (opens devID) else v
  | .keysTurn id turn             => if devID = id then v.onDevice (keysTurn · turn) else v
  | .stopThreads id               =>
    if devID = id then v.onDevice fun d => ({ d with threadsStatus := false }, []) else v

variable {m : ClientsManager κ π δ}

lemma unregisterClient_active (clientID : κ) :
    activeClients (m.unregisterClient clientID).1.connectedClients =
      (activeClients m.connectedClients).erase clientID := by
  rw [unregisterClient]
  cases hclient : m.connectedClients[clientID]? with
  | none => rw [Finset.erase_eq_of_notMem (not_mem_activeClients_of_none hclient)]
  | some client =>
    simp only
    split_ifs <;> exact activeClients_erase

lemma moves_unregisterClient (h : m.devicesManager.Intact) (clientID : κ) :
    DevicesManager.Moves
      (fun _ v => if clientID ∈ activeClients m.connectedClients then v.reset else v)
      m.devicesManager (m.unregisterClient clientID).1.devicesManager := by
  rw [unregisterClient]
  cases hclient : m.connectedClients[clientID]? with
  | none =>
    refine h.moves_refl.congr fun devID => ?_
    rw [if_neg (not_mem_activeClients_of_none hclient)]
  | some client =>
    have hactive := mem_activeClients_iff_isActive hclient
    by_cases hcase : client.isActive
    · simp only [hactive, hcase, if_true]
      exact h.moves_resetDevicesStates.setNumClients _
    · simp only [hactive, hcase]
      exact h.moves_refl.setNumClients _

/-- The removals of a registration. -/
lemma moves_foldl_unregisterClient (h : m.devicesManager.Intact) (ids : List κ) :
    DevicesManager.Moves
      (fun _ v => if ∃ id ∈ ids, id ∈ activeClients m.connectedClients then v.reset else v)
      m.devicesManager
      (ids.foldl (fun m clientID => (m.unregisterClient clientID).1) m).devicesManager := by
  induction ids generalizing m with
  | nil => exact h.moves_refl.congr fun _ => by simp
  | cons id ids ih =>
    have hhead := moves_unregisterClient h id
    have htail := ih hhead.intact
    refine (hhead.trans htail).congr fun devID => ?_
    by_cases hid : id ∈ activeClients m.connectedClients
    · simp only [hid, if_true, List.exists_mem_cons_iff, true_or]
      split_ifs <;> simp
    · simp [hid, unregisterClient_active]

lemma moves_registerClient [DecidableEq π] (h : m.devicesManager.Intact) (path : π) (clientID : κ) :
    DevicesManager.Moves (fun devID v => m.requestView devID v (.registerClient path clientID))
      m.devicesManager (m.registerClient path clientID).1.devicesManager := by
  cases hlost : findLostClients path m.connectedClients.toList with
  | none =>
    simp only [registerClient, requestView, hlost]
    refine h.moves_refl.send fun signal hsignal devID => ?_
    rw [DevicesManager.eq_of_mem_sendSignal hsignal]
    rfl
  | some lost =>
    have hmoves := moves_foldl_unregisterClient h lost
    simp only [registerClient, requestView, hlost]
    cases (lost.foldl (fun m clientID => (m.unregisterClient clientID).1) m).connectedClients.contains
      clientID with
    | true => exact hmoves
    | false => exact hmoves.setNumClients _

/-- The devices manager after a client's parameters were set on all started devices. -/
lemma moves_setActiveUser (h : m.devicesManager.Intact) (client : Client π δ) :
    DevicesManager.Moves client.configure m.devicesManager
      (m.setActiveUser client).devicesManager := by
  obtain ⟨driver, hdriver⟩ := h.oneDriver
  have hloop := hdriver.foldl_acts client.configure
    (fun _ _ devID hm => Client.acts_setDeviceActiveUser hm devID)
    m.devicesManager.startedDevices.nodup_keys
  refine (hloop.moves h (DevicesManager.inv_actOn Client.inv_configure)).congr fun devID => ?_
  rw [DevicesManager.actOn]
  split_ifs with hmem
  · rfl
  · have hstarted : (m.devicesManager.view devID).started = none :=
      Option.not_isSome_iff_eq_none.mp fun h => hmem (DevicesManager.mem_startedDevices.mpr h)
    rw [DeviceView.configure_of_not_started hstarted]

lemma moves_updateClientState [DecidableEq π] (h : m.devicesManager.Intact) (clientID : κ)
    (state : String) :
    DevicesManager.Moves (fun devID v => m.requestView devID v (.updateClientState clientID state))
      m.devicesManager (m.updateClientState clientID state).1.devicesManager := by
  by_cases hstate : state ≠ "active" ∧ state ≠ "online"
  · simp only [updateClientState, requestView, if_pos hstate]
    exact h.moves_refl
  · cases hclient : m.connectedClients[clientID]? with
    | none =>
      simp only [updateClientState, requestView, if_neg hstate, hclient]
      exact h.moves_refl
    | some oldClient =>
      simp only [updateClientState, requestView, if_neg hstate, hclient]
      have hset := moves_setActiveUser h (oldClient.updateSessionState state)
      by_cases hready : (oldClient.updateSessionState state).isActive ∧
          (oldClient.updateSessionState state).isReady
      · simp only [if_pos hready, setActiveUser, setClient] at hset ⊢
        split_ifs
        · exact hset.trans hset.intact.moves_resetDevicesStates
        · exact hset
      · simp only [if_neg hready, setClient]
        split_ifs
        · exact h.moves_resetDevicesStates
        · exact h.moves_refl

lemma moves_toggleClientReadyPropertie [DecidableEq π] (h : m.devicesManager.Intact) (clientID : κ) :
    DevicesManager.Moves (fun devID v => m.requestView devID v (.toggleClientReadyPropertie clientID))
      m.devicesManager (m.toggleClientReadyPropertie clientID).1.devicesManager := by
  cases hclient : m.connectedClients[clientID]? with
  | none =>
    simp only [toggleClientReadyPropertie, requestView, hclient]
    exact h.moves_refl
  | some client =>
    simp only [toggleClientReadyPropertie, requestView, hclient]
    have hset := moves_setActiveUser h client
    by_cases hready : client.toggleClientReadyPropertie.isReady ∧ client.isActive
    · have hready' : client.toggleClientReadyPropertie.isReady ∧
          client.toggleClientReadyPropertie.isActive := hready
      simp only [if_pos hready, if_pos hready']
      exact hset
    · have hready' : ¬ (client.toggleClientReadyPropertie.isReady ∧
          client.toggleClientReadyPropertie.isActive) := hready
      simp only [if_neg hready, if_neg hready']
      exact h.moves_refl

/-! ### Requests that start and stop devices -/

/-- Whether `stopDevice` stops the device. -/
lemma stopDevice_snd {m : DevicesManager δ} (h : m.Intact) (devID : δ) :
    (m.stopDevice devID).2 = (m.view devID).started.isSome := by
  obtain ⟨driver, hdriver⟩ := h.oneDriver
  cases hdet : m.startedDevices[devID]? with
  | none =>
    have hstarted : (m.view devID).started = none := hdet
    rw [DevicesManager.stopDevice_of_not_started hdet, hstarted]
    rfl
  | some det =>
    have hstarted : (m.view devID).started = some det := hdet
    rw [hdriver.stopDevice_eq hdet, hstarted]
    rfl

/-- Whether `startDevice` starts the device. -/
lemma startDevice_snd {m : DevicesManager δ} (h : m.Intact) (devID : δ) (result : OpenResult) :
    (m.startDevice devID result).2 =
      ((m.view devID).stopped.isSome && decide (result = .opened)) := by
  obtain ⟨driver, hdriver⟩ := h.oneDriver
  cases hdet : m.stoppedDevices[devID]? with
  | none =>
    have hstopped : (m.view devID).stopped = none := hdet
    rw [DevicesManager.startDevice_of_not_stopped hdet, hstopped]
    rfl
  | some det =>
    have hstopped : (m.view devID).stopped = some det := hdet
    obtain ⟨hid, hdriverID⟩ := hdriver.stopped _ _ hdet
    obtain ⟨m', driver', heq, _⟩ := hdriver.acts_initAndOpen hdriverID result
    simp only [DevicesManager.startDevice, hdet, heq, hstopped, Option.isSome_some, Bool.true_and]
    cases decide (result = .opened) <;> rfl

lemma moves_stopDevice [DecidableEq π] (h : m.devicesManager.Intact) (clientID : κ) (id : δ) :
    DevicesManager.Moves (fun devID v => m.requestView devID v (.stopDevice clientID id))
      m.devicesManager (m.stopDevice clientID id).1.devicesManager := by
  cases hclient : m.connectedClients[clientID]? with
  | none =>
    simp only [stopDevice, requestView, hclient]
    exact h.moves_refl
  | some client =>
    cases hmay : client.mayChangeDevices with
    | false =>
      simp only [stopDevice, requestView, hclient, hmay]
      exact h.moves_refl.congr fun _ => by simp
    | true =>
      have hstop : DevicesManager.Moves
          (fun devID v => m.requestView devID v (.stopDevice clientID id)) m.devicesManager
          (m.devicesManager.stopDevice id).1 :=
        (h.moves_stopDevice id).congr fun devID => by
          simp [requestView, hclient, hmay, DevicesManager.actOn]
      simp only [stopDevice, hclient, hmay]
      cases (m.devicesManager.stopDevice id).2 && m.enabledSignals with
      | true => exact hstop.sendStatus fun _ => rfl
      | false => exact hstop

/-- The start of a device, without the signal. -/
lemma moves_startDevice_set (h : m.devicesManager.Intact) (client : Client π δ) (id : δ)
    (result : OpenResult) :
    DevicesManager.Moves (DevicesManager.actOn (· = id) fun _ => client.startView id result)
      m.devicesManager
      (if (m.devicesManager.startDevice id result).2 then
        client.setDeviceActiveUser id (m.devicesManager.startDevice id result).1
        else (m.devicesManager.startDevice id result).1) := by
  have hstart := h.moves_startDevice id result
  rw [startDevice_snd h]
  cases hopened : ((m.devicesManager.view id).stopped.isSome && decide (result = .opened)) with
  | true =>
    refine (hstart.trans (hstart.intact.moves_setDeviceActiveUser client id)).congr fun devID => ?_
    by_cases hid : devID = id
    · subst hid
      simp [DevicesManager.actOn, Client.startView, hopened]
    · simp [DevicesManager.actOn, hid]
  | false =>
    refine hstart.congr fun devID => ?_
    by_cases hid : devID = id
    · subst hid
      simp [DevicesManager.actOn, Client.startView, hopened]
    · simp [DevicesManager.actOn, hid]

lemma moves_startDevice [DecidableEq π] (h : m.devicesManager.Intact) (clientID : κ) (id : δ)
    (result : OpenResult) :
    DevicesManager.Moves (fun devID v => m.requestView devID v (.startDevice clientID id result))
      m.devicesManager (m.startDevice clientID id result).1.devicesManager := by
  cases hclient : m.connectedClients[clientID]? with
  | none =>
    simp only [startDevice, requestView, hclient]
    exact h.moves_refl
  | some client =>
    cases hmay : client.mayChangeDevices with
    | false =>
      simp only [startDevice, requestView, hclient, hmay]
      exact h.moves_refl.congr fun _ => by simp
    | true =>
      have hstart : DevicesManager.Moves
          (fun devID v => m.requestView devID v (.startDevice clientID id result)) m.devicesManager _ :=
        (moves_startDevice_set h client id result).congr fun devID => by
          simp [requestView, hclient, hmay, DevicesManager.actOn]
      simp only [startDevice, hclient, hmay]
      rcases hsnd : m.devicesManager.startDevice id result with ⟨dm, _ | _⟩
      · rw [hsnd] at hstart
        exact hstart
      · rw [hsnd] at hstart
        cases m.enabledSignals with
        | true => exact hstart.sendStatus fun _ => rfl
        | false => exact hstart

lemma moves_restartDevice [DecidableEq π] (h : m.devicesManager.Intact) (clientID : κ) (id : δ)
    (result : OpenResult) :
    DevicesManager.Moves (fun devID v => m.requestView devID v (.restartDevice clientID id result))
      m.devicesManager (m.restartDevice clientID id result).1.devicesManager := by
  have hquiet : { m with enabledSignals := false }.devicesManager.Intact := h
  have hstop := moves_stopDevice hquiet clientID id
  cases hclient : m.connectedClients[clientID]? with
  | none =>
    simp only [restartDevice, stopDevice, requestView, hclient]
    exact h.moves_refl
  | some client =>
    cases hmay : client.mayChangeDevices with
    | false =>
      simp only [restartDevice, stopDevice, requestView, hclient, hmay]
      exact h.moves_refl.congr fun _ => by simp
    | true =>
      have hview : ∀ devID v, m.requestView devID v (.restartDevice clientID id result) =
          if devID = id then client.restartView id result v else v := fun devID v => by
        simp [requestView, hclient, hmay]
      have hstopped := stopDevice_snd h id
      have hclients := (stopDevice_clients (m := { m with enabledSignals := false }) clientID id).1
      have hsnd : ({ m with enabledSignals := false }.stopDevice clientID id).2 =
          (m.devicesManager.stopDevice id).2 := by
        simp [stopDevice, hclient, hmay]
      have hstop' : DevicesManager.Moves (fun devID v => if devID = id then v.stop else v)
          m.devicesManager ({ m with enabledSignals := false }.stopDevice clientID id).1.devicesManager :=
        hstop.congr fun devID => by simp [requestView, hclient, hmay]
      rw [hstopped] at hsnd
      rw [restartDevice]
      generalize hr : { m with enabledSignals := false }.stopDevice clientID id = r
      rcases r with ⟨m₁, _ | _⟩
      · rw [hr] at hsnd hstop'
        refine hstop'.congr fun devID => ?_
        rw [hview]
        by_cases hid : devID = id
        · subst hid
          have hnone : (m.devicesManager.view devID).started = none := by simpa using hsnd.symm
          simp [Client.restartView, hnone, DeviceView.stop_of_not_started hnone]
        · simp [hid]
      · rw [hr] at hsnd hstop' hclients
        have hclient₁ : m₁.connectedClients[clientID]? = some client := by
          rw [show m₁.connectedClients = m.connectedClients from hclients]
          exact hclient
        have hstart := moves_startDevice hstop'.intact clientID id result
        have hboth : DevicesManager.Moves
            (fun devID v => m.requestView devID v (.restartDevice clientID id result))
            m.devicesManager (m₁.startDevice clientID id result).1.devicesManager :=
          (hstop'.trans hstart).congr fun devID => by
            rw [hview]
            by_cases hid : devID = id
            · subst hid
              simp [requestView, hclient₁, hmay, Client.restartView, ← hsnd]
            · simp [requestView, hclient₁, hid]
        simp only
        rcases hr₂ : m₁.startDevice clientID id result with ⟨m₂, restarted⟩
        rw [hr₂] at hboth
        cases restarted with
        | true => exact hboth.sendStatus fun _ => rfl
        | false => exact hboth.sendStatus fun _ => rfl

lemma onClient_devicesManager (clientID : κ) (op : Client π δ → Client π δ × Bool) :
    (m.onClient clientID op).1.devicesManager = m.devicesManager := by
  rw [onClient]
  split <;> rfl

lemma getDeviceProperties_devicesManager (clientID : κ) (devID : δ) :
    (m.getDeviceProperties clientID devID).1.devicesManager = m.devicesManager := by
  rw [getDeviceProperties]
  split
  · rfl
  · split_ifs <;> rfl

theorem moves_request [DecidableEq π] (h : m.devicesManager.Intact) (r : Request κ π δ) :
    DevicesManager.Moves (fun devID v => m.requestView devID v r) m.devicesManager
      (m.request r).devicesManager := by
  cases r with
  | registerClient path clientID => exact moves_registerClient h path clientID
  | unregisterClient clientID => exact moves_unregisterClient h clientID
  | updateClientState clientID state => exact moves_updateClientState h clientID state
  | toggleClientReadyPropertie clientID => exact moves_toggleClientReadyPropertie h clientID
  | stopDevice clientID devID => exact moves_stopDevice h clientID devID
  | startDevice clientID devID result => exact moves_startDevice h clientID devID result
  | restartDevice clientID devID result => exact moves_restartDevice h clientID devID result
  | getDeviceProperties clientID devID =>
    rw [request, getDeviceProperties_devicesManager]
    exact h.moves_refl
  | deleteDeviceConfiguration clientID devID =>
    rw [request, deleteDeviceConfiguration, onClient_devicesManager]
    exact h.moves_refl
  | setDeviceBacklightColor clientID devID color =>
    rw [request, setDeviceBacklightColor, onClient_devicesManager]
    exact h.moves_refl
  | setDeviceLCDPluginsMask clientID devID maskID mask =>
    rw [request, setDeviceLCDPluginsMask, onClient_devicesManager]
    exact h.moves_refl
  | _ => exact h.moves_refl

/-- Every event changes the views as `viewStep` says. -/
theorem moves_step [DecidableEq π] (h : m.devicesManager.Intact) (event : DaemonEvent κ π δ) :
    DevicesManager.Moves (fun devID v => m.viewStep devID v event) m.devicesManager
      (m.step event).devicesManager := by
  cases event with
  | request r => exact moves_request h r
  | udevAdd found => exact h.moves_initializeDevices found false _
  | udevRemove found => exact h.moves_checkForUnpluggedDevices found
  | checkThreads => exact h.moves_checkInitializedDevicesThreadsStatus
  | handleSleepEvent mode opens =>
    cases mode with
    | true => exact h.moves_stopInitializedDevices
    | false => exact h.moves_startSleepingDevices opens
  | keysTurn devID turn => exact h.moves_runThread devID fun device => announces_keysTurn turn
  | stopThreads devID => exact h.moves_runThread devID fun device => announces_of_mask rfl rfl

end ClientsManager

/-- A manager that has loaded its driver. -/
lemma DevicesManager.intact_loaded (driverID : UInt16) :
    ({ drivers := [{ driverID := driverID }] } : DevicesManager δ).Intact := by
  refine ⟨⟨_, rfl, ?_, ?_, ?_⟩, rfl, List.nodup_nil, fun devID => ?_⟩
  · simp
  · simp
  · simp
  · exact ⟨by simp [view], by simp [view], by simp [view]⟩

lemma intact_startMonitoring (driverID : UInt16) (found : List (USBDeviceID δ))
    (opens : δ → OpenResult) :
    (startMonitoring (κ := κ) (π := π) driverID found opens).devicesManager.Intact := by
  have hstart := (DevicesManager.intact_loaded driverID).moves_initializeDevices found true opens
  refine (hstart.send fun signal hsignal devID => ?_).intact
  rw [DevicesManager.eq_of_mem_sendSignal hsignal]
  rfl

lemma reachableDaemon_startMonitoring [DecidableEq π] (driverID : UInt16)
    (found : List (USBDeviceID δ)) (opens : δ → OpenResult) :
    ReachableDaemon (startMonitoring (κ := κ) (π := π) driverID found opens) :=
  ⟨driverID, found, opens, Run.Reachable.refl⟩

lemma ReachableDaemon.next [DecidableEq π] {m : ClientsManager κ π δ} (h : ReachableDaemon m)
    (event : DaemonEvent κ π δ) : ReachableDaemon (m.step event) := by
  obtain ⟨driverID, found, opens, hreach⟩ := h
  exact ⟨driverID, found, opens, hreach.next event⟩

/-- In every reachable state the devices manager is intact. -/
theorem ReachableDaemon.intact [DecidableEq π] {m : ClientsManager κ π δ} (h : ReachableDaemon m) :
    m.devicesManager.Intact := by
  obtain ⟨driverID, found, opens, hreach⟩ := h
  have hstep : ∀ (m : ClientsManager κ π δ) (event : DaemonEvent κ π δ),
      m.devicesManager.Intact → (m.step event).devicesManager.Intact :=
    fun m event hm => (ClientsManager.moves_step hm event).intact
  exact hreach.induction (intact_startMonitoring driverID found opens) hstep

end GLogiK
