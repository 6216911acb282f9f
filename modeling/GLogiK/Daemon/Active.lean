import GLogiK.Daemon.Daemon
import Mathlib.Data.Finset.CastCard

/-!
# The active clients

`_numActive` counts the clients whose session is active. While there is one, the requests of a
client that is not active leave the devices alone.
-/

namespace GLogiK

variable {κ π δ : Type*} [LinearOrder κ] [LinearOrder δ]

/-! ### The clients whose session is active -/

def activeClients (clients : StdMap κ (Client π δ)) : Finset κ :=
  clients.keys.toFinset.filter fun clientID => clients[clientID]?.any Client.isActive

section

variable {clients : StdMap κ (Client π δ)} {clientID : κ} {client : Client π δ}

lemma mem_activeClients :
    clientID ∈ activeClients clients ↔
      ∃ client, clients[clientID]? = some client ∧ client.isActive := by
  simp only [activeClients, Finset.mem_filter, List.mem_toFinset, Std.ExtTreeMap.mem_keys,
    Option.any_eq_true]
  refine ⟨And.right, fun h => ⟨?_, h⟩⟩
  obtain ⟨client, hclient, _⟩ := h
  exact Std.ExtTreeMap.mem_iff_isSome_getElem?.mpr (by simp [hclient])

lemma mem_activeClients_iff_isActive (hclient : clients[clientID]? = some client) :
    clientID ∈ activeClients clients ↔ client.isActive := by
  simp [mem_activeClients, hclient]

lemma not_mem_activeClients_of_none (hclient : clients[clientID]? = none) :
    clientID ∉ activeClients clients := by
  rw [mem_activeClients, hclient]
  rintro ⟨_, ⟨⟩, _⟩

lemma activeClients_insert_of_active (hactive : client.isActive) :
    activeClients (clients.insert clientID client) = insert clientID (activeClients clients) := by
  ext id
  by_cases hid : clientID = id
  · simp [mem_activeClients, hid, hactive]
  · simp [mem_activeClients, Std.ExtTreeMap.getElem?_insert, hid, Ne.symm hid]

lemma activeClients_insert_of_not_active (hactive : ¬ client.isActive) :
    activeClients (clients.insert clientID client) = (activeClients clients).erase clientID := by
  ext id
  by_cases hid : clientID = id
  · simp [mem_activeClients, hid, hactive]
  · simp [mem_activeClients, Std.ExtTreeMap.getElem?_insert, hid, Ne.symm hid]

lemma activeClients_erase :
    activeClients (clients.erase clientID) = (activeClients clients).erase clientID := by
  ext id
  by_cases hid : clientID = id
  · simp [mem_activeClients, hid]
  · simp [mem_activeClients, Std.ExtTreeMap.getElem?_erase, hid, Ne.symm hid]

/-- A change of a client that keeps its state. -/
lemma activeClients_insert_of_eq {old : Client π δ} (h : clients[clientID]? = some old)
    (hactive : client.isActive = old.isActive) :
    activeClients (clients.insert clientID client) = activeClients clients := by
  ext id
  by_cases hid : clientID = id
  · subst hid
    simp [mem_activeClients, h, hactive]
  · simp [mem_activeClients, Std.ExtTreeMap.getElem?_insert, hid]

lemma activeClients_map_uncheck :
    activeClients (clients.map fun _ => Client.uncheck) = activeClients clients := by
  ext id
  simp [mem_activeClients, Client.uncheck, Client.isActive]

end

@[simp] lemma Client.isActive_new (path : π) (m : DevicesManager δ) :
    (Client.new path m).isActive = false := by
  have hstate : ∀ (devIDs : List δ) (c : Client π δ),
      (devIDs.foldl (Client.initializeDevice · m) c).sessionState = c.sessionState := by
    intro devIDs
    induction devIDs with
    | nil => exact fun _ => rfl
    | cons devID devIDs ih =>
      intro c
      rw [List.foldl_cons, ih]
      rw [Client.initializeDevice]
      split_ifs <;> rfl
  simp [Client.new, Client.initializeDevices, Client.isActive, hstate]

/-! ### The counter -/

namespace ClientsManager

/-- `_numActive` is the number of active clients. -/
def CountsActive (m : ClientsManager κ π δ) : Prop :=
  m.numActive = (activeClients m.connectedClients).card

variable {m : ClientsManager κ π δ}

lemma CountsActive.congr {m' : ClientsManager κ π δ} (h : CountsActive m)
    (hnum : m'.numActive = m.numActive)
    (hclients : activeClients m'.connectedClients = activeClients m.connectedClients) :
    CountsActive m' := by
  rw [CountsActive, hnum, hclients]
  exact h

lemma countsActive_unregisterClient (h : CountsActive m) (clientID : κ) :
    CountsActive (m.unregisterClient clientID).1 := by
  rw [unregisterClient]
  cases hclient : m.connectedClients[clientID]? with
  | none => exact h
  | some client =>
    simp only [CountsActive, setNumClients, activeClients_erase]
    have hmem := mem_activeClients_iff_isActive hclient
    by_cases hactive : client.isActive
    · simp only [hactive, if_true]
      rw [h, Finset.cast_card_erase_of_mem (hmem.mpr hactive)]
    · simp only [hactive, Bool.false_eq_true, if_false]
      rw [Finset.erase_eq_of_notMem (mt hmem.mp hactive)]
      exact h

lemma countsActive_foldl_unregisterClient (h : CountsActive m) (clientIDs : List κ) :
    CountsActive (clientIDs.foldl (fun m clientID => (m.unregisterClient clientID).1) m) := by
  induction clientIDs generalizing m with
  | nil => exact h
  | cons clientID clientIDs ih => exact ih (countsActive_unregisterClient h clientID)

lemma countsActive_registerClient [DecidableEq π] (h : CountsActive m) (path : π) (clientID : κ) :
    CountsActive (m.registerClient path clientID).1 := by
  rw [registerClient]
  cases findLostClients path m.connectedClients.toList with
  | none => exact h.congr rfl activeClients_map_uncheck
  | some toUnregister =>
    have hlost := countsActive_foldl_unregisterClient h toUnregister
    simp only
    split_ifs with hused
    · exact hlost
    · refine hlost.congr rfl ?_
      have hnew : clientID ∉ activeClients (toUnregister.foldl
          (fun m clientID => (m.unregisterClient clientID).1) m).connectedClients := by
        rw [mem_activeClients]
        rintro ⟨client, hclient, _⟩
        exact hused (by simp [Std.ExtTreeMap.mem_iff_isSome_getElem?, hclient])
      simp [setNumClients, setClient, activeClients_insert_of_not_active,
        Finset.erase_eq_of_notMem hnew]

/-- The counter and the clients after an update of the state. -/
lemma updateClientState_clients {clientID : κ} {state : String} {client : Client π δ}
    (hstate : state = "active" ∨ state = "online")
    (hclient : m.connectedClients[clientID]? = some client) :
    (m.updateClientState clientID state).1.connectedClients =
        m.connectedClients.insert clientID (client.updateSessionState state) ∧
      (m.updateClientState clientID state).1.numActive =
        countActive m.numActive client (client.updateSessionState state) := by
  have hstate' : ¬ (state ≠ "active" ∧ state ≠ "online") := by tauto
  simp only [updateClientState, if_neg hstate', hclient]
  constructor
  · split_ifs <;> rfl
  · split_ifs <;> rfl

lemma countsActive_updateClientState (h : CountsActive m) (clientID : κ) (state : String) :
    CountsActive (m.updateClientState clientID state).1 := by
  by_cases hstate : state = "active" ∨ state = "online"
  · cases hclient : m.connectedClients[clientID]? with
    | none =>
      rw [updateClientState]
      rw [hclient]
      split_ifs <;> exact h
    | some client =>
      obtain ⟨hclients, hnum⟩ := updateClientState_clients hstate hclient
      rw [CountsActive, hclients, hnum, h]
      by_cases hold : client.isActive
      · have hmem := (mem_activeClients_iff_isActive hclient).mpr hold
        by_cases hnew : (client.updateSessionState state).isActive
        · simp [countActive, hold, hnew, activeClients_insert_of_active,
            Finset.insert_eq_of_mem hmem]
        · simp [countActive, hold, hnew, activeClients_insert_of_not_active,
            Finset.cast_card_erase_of_mem hmem]
      · have hmem := mt (mem_activeClients_iff_isActive hclient).mp hold
        by_cases hnew : (client.updateSessionState state).isActive
        · simp [countActive, hold, hnew, activeClients_insert_of_active,
            Finset.card_insert_of_notMem hmem]
        · simp [countActive, hold, hnew, activeClients_insert_of_not_active,
            Finset.erase_eq_of_notMem hmem]
  · rw [updateClientState]
    rw [if_pos (by tauto)]
    exact h

/-- An operation that keeps the state of the client. -/
lemma CountsActive.setClient {clientID : κ} {old client : Client π δ} (h : CountsActive m)
    (hold : m.connectedClients[clientID]? = some old) (hactive : client.isActive = old.isActive) :
    CountsActive (m.setClient clientID client) :=
  h.congr rfl (activeClients_insert_of_eq hold hactive)

lemma countsActive_toggleClientReadyPropertie (h : CountsActive m) (clientID : κ) :
    CountsActive (m.toggleClientReadyPropertie clientID).1 := by
  rw [toggleClientReadyPropertie]
  cases hclient : m.connectedClients[clientID]? with
  | none => exact h
  | some client =>
    have hset : CountsActive (m.setClient clientID client.toggleClientReadyPropertie) :=
      h.setClient hclient rfl
    simp only
    split_ifs
    · exact hset.congr rfl rfl
    · exact hset

lemma countsActive_onClient (h : CountsActive m) (clientID : κ)
    {op : Client π δ → Client π δ × Bool} (hop : ∀ client, (op client).1.isActive = client.isActive) :
    CountsActive (m.onClient clientID op).1 := by
  rw [onClient]
  cases hclient : m.connectedClients[clientID]? with
  | none => exact h
  | some client => exact h.setClient hclient (hop client)

lemma countsActive_getDeviceProperties (h : CountsActive m) (clientID : κ) (devID : δ) :
    CountsActive (m.getDeviceProperties clientID devID).1 := by
  rw [getDeviceProperties]
  cases hclient : m.connectedClients[clientID]? with
  | none => exact h
  | some client =>
    simp only
    split_ifs
    · refine h.setClient hclient ?_
      rw [Client.initializeDevice]
      split_ifs <;> rfl
    · exact h

/-- The requests that start and stop devices keep the clients and the counter. -/
lemma stopDevice_clients (clientID : κ) (devID : δ) :
    (m.stopDevice clientID devID).1.connectedClients = m.connectedClients ∧
      (m.stopDevice clientID devID).1.numActive = m.numActive := by
  rw [stopDevice]
  cases m.connectedClients[clientID]? with
  | none => exact ⟨rfl, rfl⟩
  | some client =>
    simp only
    split_ifs <;> exact ⟨rfl, rfl⟩

lemma startDevice_clients (clientID : κ) (devID : δ) (result : OpenResult) :
    (m.startDevice clientID devID result).1.connectedClients = m.connectedClients ∧
      (m.startDevice clientID devID result).1.numActive = m.numActive := by
  rw [startDevice]
  cases m.connectedClients[clientID]? with
  | none => exact ⟨rfl, rfl⟩
  | some client =>
    simp only
    cases client.mayChangeDevices with
    | false => exact ⟨rfl, rfl⟩
    | true =>
      match m.devicesManager.startDevice devID result with
      | (_, false) => exact ⟨rfl, rfl⟩
      | (_, true) => cases m.enabledSignals <;> exact ⟨rfl, rfl⟩

lemma restartDevice_clients (clientID : κ) (devID : δ) (result : OpenResult) :
    (m.restartDevice clientID devID result).1.connectedClients = m.connectedClients ∧
      (m.restartDevice clientID devID result).1.numActive = m.numActive := by
  obtain ⟨hclients, hnum⟩ := stopDevice_clients (m := { m with enabledSignals := false })
    clientID devID
  rw [restartDevice]
  match hstop : { m with enabledSignals := false }.stopDevice clientID devID with
  | (m₁, false) =>
    rw [hstop] at hclients hnum
    exact ⟨hclients, hnum⟩
  | (m₁, true) =>
    rw [hstop] at hclients hnum
    obtain ⟨hclients', hnum'⟩ := startDevice_clients (m := m₁) clientID devID result
    simp only
    match hstart : m₁.startDevice clientID devID result with
    | (m₂, true) | (m₂, false) =>
      rw [hstart] at hclients' hnum'
      exact ⟨hclients'.trans hclients, hnum'.trans hnum⟩

theorem countsActive_request [DecidableEq π] (h : CountsActive m) (r : Request κ π δ) :
    CountsActive (m.request r) := by
  cases r with
  | registerClient path clientID => exact countsActive_registerClient h path clientID
  | unregisterClient clientID => exact countsActive_unregisterClient h clientID
  | updateClientState clientID state => exact countsActive_updateClientState h clientID state
  | toggleClientReadyPropertie clientID => exact countsActive_toggleClientReadyPropertie h clientID
  | deleteDeviceConfiguration clientID devID =>
    refine countsActive_onClient h clientID fun client => ?_
    rw [Client.deleteDevice]
    split_ifs <;> rfl
  | stopDevice clientID devID =>
    obtain ⟨hclients, hnum⟩ := stopDevice_clients (m := m) clientID devID
    exact h.congr hnum (congrArg activeClients hclients)
  | startDevice clientID devID result =>
    obtain ⟨hclients, hnum⟩ := startDevice_clients (m := m) clientID devID result
    exact h.congr hnum (congrArg activeClients hclients)
  | restartDevice clientID devID result =>
    obtain ⟨hclients, hnum⟩ := restartDevice_clients (m := m) clientID devID result
    exact h.congr hnum (congrArg activeClients hclients)
  | getDeviceProperties clientID devID => exact countsActive_getDeviceProperties h clientID devID
  | setDeviceBacklightColor clientID devID color =>
    refine countsActive_onClient h clientID fun client => ?_
    rw [Client.setDeviceBacklightColor]
    split <;> rfl
  | setDeviceLCDPluginsMask clientID devID maskID mask =>
    refine countsActive_onClient h clientID fun client => ?_
    rw [Client.setDeviceLCDPluginsMask]
    split
    · rfl
    · split_ifs <;> rfl
  | _ => exact h

lemma CountsActive.step [DecidableEq π] (h : CountsActive m) (event : DaemonEvent κ π δ) :
    CountsActive (m.step event) := by
  cases event with
  | request r => exact countsActive_request h r
  | _ => exact h

end ClientsManager

/-- In every reachable state `_numActive` is the number of active clients. -/
theorem ReachableDaemon.countsActive [DecidableEq π] {m : ClientsManager κ π δ}
    (h : ReachableDaemon m) : m.CountsActive := by
  obtain ⟨driverID, found, opens, hreach⟩ := h
  refine hreach.induction ?_ fun m event hm => hm.step event
  simp [ClientsManager.CountsActive, startMonitoring, activeClients]

/-! ### Requests of clients that are not active -/

namespace ClientsManager

variable {m : ClientsManager κ π δ} {clientID : κ} {client : Client π δ}

/-- With an active client the counter is not zero. -/
lemma CountsActive.ne_zero {id : κ} (h : CountsActive m)
    (hactive : id ∈ activeClients m.connectedClients) :
    m.numActive ≠ 0 := by
  rw [h]
  exact_mod_cast Finset.card_ne_zero_of_mem hactive

lemma mayChangeDevices_of_not_active (hactive : ¬ client.isActive) :
    client.mayChangeDevices = false := by
  simp [Client.mayChangeDevices, hactive]

lemma stopDevice_of_not_active (hclient : m.connectedClients[clientID]? = some client)
    (hactive : ¬ client.isActive) (devID : δ) : m.stopDevice clientID devID = (m, false) := by
  simp [stopDevice, hclient, mayChangeDevices_of_not_active hactive]

lemma startDevice_of_not_active (hclient : m.connectedClients[clientID]? = some client)
    (hactive : ¬ client.isActive) (devID : δ) (result : OpenResult) :
    m.startDevice clientID devID result = (m, false) := by
  simp [startDevice, hclient, mayChangeDevices_of_not_active hactive]

lemma restartDevice_of_not_active (hclient : m.connectedClients[clientID]? = some client)
    (hactive : ¬ client.isActive) (devID : δ) (result : OpenResult) :
    m.restartDevice clientID devID result = ({ m with enabledSignals := true }, false) := by
  have hstop := stopDevice_of_not_active (m := { m with enabledSignals := false }) hclient hactive
    devID
  simp [restartDevice, hstop]

/-- An update that leaves the client inactive resets nothing while another client is active. -/
lemma updateClientState_of_not_active {id : κ} (h : CountsActive m)
    (hid : id ∈ activeClients m.connectedClients)
    (hclient : m.connectedClients[clientID]? = some client) (hactive : ¬ client.isActive)
    {state : String} (hstate : state ≠ "active") :
    (m.updateClientState clientID state).1.devicesManager = m.devicesManager := by
  have hnew : (client.updateSessionState state).isActive = false := by
    simp [Client.updateSessionState, Client.isActive, hstate]
  have hnum := h.ne_zero hid
  rw [updateClientState]
  split_ifs
  · rfl
  · simp [hclient, hnew, countActive, hactive, hnum, setClient]

end ClientsManager

/-- While a client is active, a request of another client that is not active, and does not become
active, changes nothing of the devices manager but the number of clients. -/
theorem request_of_not_active [DecidableEq π] {m : ClientsManager κ π δ} (hm : ReachableDaemon m)
    {activeID clientID : κ} (hactiveID : activeID ∈ activeClients m.connectedClients)
    (hclientID : clientID ∈ m.connectedClients)
    (hbefore : clientID ∉ activeClients m.connectedClients) {r : Request κ π δ}
    (hr : r.clientID = some clientID)
    (hafter : clientID ∉ activeClients (m.request r).connectedClients) :
    (m.request r).devicesManager =
      m.devicesManager.setNumClients (m.request r).devicesManager.numClients := by
  obtain ⟨client, hclient⟩ : ∃ client, m.connectedClients[clientID]? = some client :=
    Option.isSome_iff_exists.mp (Std.ExtTreeMap.mem_iff_isSome_getElem?.mp hclientID)
  have hactive := mt (mem_activeClients_iff_isActive hclient).mpr hbefore
  cases r <;> cases hr
  case unregisterClient =>
    simp only [ClientsManager.request, ClientsManager.unregisterClient, hclient, hactive,
      Bool.false_eq_true, if_false]
    rfl
  case updateClientState state =>
    -- by `hafter` the new state is not the active one
    have hstate : state ≠ "active" := by
      rintro rfl
      refine hafter (mem_activeClients.mpr ⟨client.updateSessionState "active", ?_, rfl⟩)
      simp [ClientsManager.request,
        (ClientsManager.updateClientState_clients (Or.inl rfl) hclient).1]
    simp only [ClientsManager.request,
      ClientsManager.updateClientState_of_not_active hm.countsActive hactiveID hclient hactive
        hstate]
    rfl
  case toggleClientReadyPropertie =>
    have hsame : client.toggleClientReadyPropertie.isActive = false :=
      Bool.eq_false_of_not_eq_true hactive
    simp only [ClientsManager.request, ClientsManager.toggleClientReadyPropertie, hclient, hsame,
      Bool.false_eq_true, and_false, if_false]
    rfl
  case stopDevice devID =>
    simp only [ClientsManager.request, ClientsManager.stopDevice_of_not_active hclient hactive]
    rfl
  case startDevice devID result =>
    simp only [ClientsManager.request, ClientsManager.startDevice_of_not_active hclient hactive]
    rfl
  case restartDevice devID result =>
    simp only [ClientsManager.request, ClientsManager.restartDevice_of_not_active hclient hactive]
    rfl
  case getDeviceProperties devID =>
    simp only [ClientsManager.request, ClientsManager.getDeviceProperties, hclient]
    split_ifs <;> rfl
  case deleteDeviceConfiguration devID =>
    simp only [ClientsManager.request, ClientsManager.deleteDeviceConfiguration,
      ClientsManager.onClient, hclient]
    rfl
  case setDeviceBacklightColor devID color =>
    simp only [ClientsManager.request, ClientsManager.setDeviceBacklightColor,
      ClientsManager.onClient, hclient]
    rfl
  case setDeviceLCDPluginsMask devID maskID mask =>
    simp only [ClientsManager.request, ClientsManager.setDeviceLCDPluginsMask,
      ClientsManager.onClient, hclient]
    rfl
  all_goals rfl

/-- A client that is online unregisters while another is active. -/
theorem request_of_not_active_unregisterClient :
    let m := Run.run ClientsManager.step (startMonitoring (κ := ℕ) (π := ℕ) (δ := ℕ) 0
      [{ devID := 0, capabilities := 15, driverID := 0, GKeysTransferLength := 5 }] fun _ => .opened)
      [.request (.registerClient 0 0), .request (.updateClientState 0 "active"),
        .request (.registerClient 1 1), .request (.updateClientState 1 "online")]
    (m.request (.unregisterClient 1)).devicesManager = m.devicesManager.setNumClients 1 :=
  @request_of_not_active ℕ ℕ ℕ _ _ _ _ ⟨0, _, _, _, rfl⟩ 0 1
    (by decide +kernel) (by decide +kernel) (by decide +kernel) _ rfl (by decide +kernel)

end GLogiK
