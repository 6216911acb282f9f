import GLogiK.Daemon.Registration
import GLogiK.Daemon.StatusSignals

/-!
# The connected clients

What the daemon knows about its clients as a whole: how many are active, that each session has one
client at most, and how many clients the signals are meant for.
-/

namespace GLogiK

variable {κ π δ : Type*} [LinearOrder κ] [LinearOrder δ]

/-! ### The number of active clients -/

lemma card_activeClients (clients : StdMap κ (Client π δ)) :
    (activeClients clients).card =
      clients.toList.countP fun entry => entry.2.sessionState = "active" := by
  have hnodup : ((clients.toList.filter (·.2.isActive)).map Prod.fst).Nodup := by
    refine List.Nodup.sublist (List.Sublist.map _ List.filter_sublist) ?_
    rw [Std.ExtTreeMap.map_fst_toList_eq_keys]
    exact Std.ExtTreeMap.nodup_keys
  have heq : activeClients clients =
      ((clients.toList.filter (·.2.isActive)).map Prod.fst).toFinset := by
    ext clientID
    simp [mem_activeClients, Std.ExtTreeMap.mem_toList_iff_getElem?_eq_some]
  rw [heq, List.toFinset_card_of_nodup hnodup, List.length_map, List.countP_eq_length_filter]
  rfl

/-- After any requests, and whatever else happens to the daemon, the counter is the number of the
connected clients whose session is active. -/
theorem numActive_eq_countP [DecidableEq π] (driverID : UInt16) (found : List (USBDeviceID δ))
    (opens : δ → OpenResult) (events : List (DaemonEvent κ π δ)) :
    let m : ClientsManager κ π δ :=
      Run.run ClientsManager.step (startMonitoring driverID found opens) events
    m.numActive = m.connectedClients.toList.countP fun entry => entry.2.sessionState = "active" := by
  intro m
  have hreach : ReachableDaemon m := ⟨driverID, found, opens, events, rfl⟩
  rw [← card_activeClients]
  exact hreach.countsActive

/-! ### The sessions of the clients -/

lemma Client.sessionObjectPath_new (path : π) (dm : DevicesManager δ) :
    (Client.new path dm).sessionObjectPath = path := by
  have hpath : ∀ (devIDs : List δ) (c : Client π δ),
      (devIDs.foldl (Client.initializeDevice · dm) c).sessionObjectPath = c.sessionObjectPath := by
    intro devIDs
    induction devIDs with
    | nil => exact fun _ => rfl
    | cons devID devIDs ih =>
      intro c
      rw [List.foldl_cons, ih, Client.initializeDevice]
      split_ifs <;> rfl
  rw [Client.new, Client.initializeDevices, hpath]

namespace ClientsManager

/-- The session of a connected client. -/
def pathOf (m : ClientsManager κ π δ) (clientID : κ) : Option π :=
  m.connectedClients[clientID]?.map (·.sessionObjectPath)

/-- No two connected clients have the same session. -/
def DistinctPaths (m : ClientsManager κ π δ) : Prop :=
  ∀ id id' path, m.pathOf id = some path → m.pathOf id' = some path → id = id'

/-- No client is new or changes its session. -/
def KeepsPaths (m m' : ClientsManager κ π δ) : Prop :=
  ∀ id path, m'.pathOf id = some path → m.pathOf id = some path

variable {m m' : ClientsManager κ π δ} {clientID : κ}

lemma DistinctPaths.of_keepsPaths (h : m.DistinctPaths) (hkeeps : KeepsPaths m m') :
    m'.DistinctPaths :=
  fun id id' path hid hid' => h id id' path (hkeeps id path hid) (hkeeps id' path hid')

lemma keepsPaths_of_clients (h : m'.connectedClients = m.connectedClients) : KeepsPaths m m' := by
  intro id path hpath
  rwa [pathOf, h] at hpath

lemma keepsPaths_setClient {old client : Client π δ}
    (hold : m.connectedClients[clientID]? = some old)
    (hpath : client.sessionObjectPath = old.sessionObjectPath) :
    KeepsPaths m (m.setClient clientID client) := by
  intro id path hid
  simp only [pathOf, setClient, getElem?_insert_eq] at hid ⊢
  split_ifs at hid with heq
  · rw [heq, hold, ← hid, Option.map_some, Option.map_some, hpath]
  · exact hid

lemma keepsPaths_unregisterClient (clientID : κ) : KeepsPaths m (m.unregisterClient clientID).1 := by
  intro id path hid
  simp only [pathOf, unregisterClient_connectedClients, getElem?_erase_eq] at hid
  split_ifs at hid
  · cases hid
  · exact hid

lemma keepsPaths_onClient (clientID : κ) {op : Client π δ → Client π δ × Bool}
    (hop : ∀ client, (op client).1.sessionObjectPath = client.sessionObjectPath) :
    KeepsPaths m (m.onClient clientID op).1 := by
  rw [onClient]
  cases hclient : m.connectedClients[clientID]? with
  | none => exact fun _ _ hpath => hpath
  | some client => exact keepsPaths_setClient hclient (hop client)

lemma keepsPaths_updateClientState (clientID : κ) (state : String) :
    KeepsPaths m (m.updateClientState clientID state).1 := by
  rw [ClientsManager.updateClientState]
  split_ifs
  · exact fun _ _ hpath => hpath
  · cases hclient : m.connectedClients[clientID]? with
    | none => exact fun _ _ hpath => hpath
    | some client =>
      have hset : KeepsPaths m (m.setClient clientID (client.updateSessionState state)) :=
        keepsPaths_setClient hclient rfl
      simp only
      split_ifs <;> exact hset

lemma keepsPaths_toggleClientReadyPropertie (clientID : κ) :
    KeepsPaths m (m.toggleClientReadyPropertie clientID).1 := by
  rw [ClientsManager.toggleClientReadyPropertie]
  cases hclient : m.connectedClients[clientID]? with
  | none => exact fun _ _ hpath => hpath
  | some client =>
    have hset : KeepsPaths m (m.setClient clientID client.toggleClientReadyPropertie) :=
      keepsPaths_setClient hclient rfl
    simp only
    split_ifs <;> exact hset

lemma keepsPaths_getDeviceProperties (clientID : κ) (devID : δ) :
    KeepsPaths m (m.getDeviceProperties clientID devID).1 := by
  rw [ClientsManager.getDeviceProperties]
  cases hclient : m.connectedClients[clientID]? with
  | none => exact fun _ _ hpath => hpath
  | some client =>
    simp only
    split_ifs
    · refine keepsPaths_setClient hclient ?_
      rw [Client.initializeDevice]
      split_ifs <;> rfl
    · exact fun _ _ hpath => hpath

/-- What a registration removes: the clients that are not alive. -/
lemma getElem?_foldl_unregisterClient (ids : List κ) (id : κ) :
    (ids.foldl (fun m clientID => (m.unregisterClient clientID).1) m).connectedClients[id]? =
      if id ∈ ids then none else m.connectedClients[id]? := by
  induction ids generalizing m with
  | nil => simp
  | cons clientID ids ih =>
    rw [List.foldl_cons, ih, unregisterClient_connectedClients, getElem?_erase_eq]
    by_cases hid : id = clientID
    · simp [hid]
    · simp [hid]

variable [DecidableEq π] {path : π} {lost : List κ}

lemma getElem?_removeLost (hlost : findLostClients path m.connectedClients.toList = some lost)
    (id : κ) :
    (lost.foldl (fun m clientID => (m.unregisterClient clientID).1) m).connectedClients[id]? =
      m.connectedClients[id]?.filter Client.isAlive := by
  rw [getElem?_foldl_unregisterClient]
  simp only [mem_findLostClients hlost, Std.ExtTreeMap.mem_toList_iff_getElem?_eq_some]
  cases m.connectedClients[id]? with
  | none => simp
  | some client =>
    rw [Option.filter_some]
    cases halive : client.isAlive <;> simp [halive]

omit [LinearOrder κ] in
/-- A client that is alive and has the path refuses the registration. -/
lemma ne_path_of_findLostClients {clients : List (κ × Client π δ)} {id : κ} {client : Client π δ}
    (hlost : findLostClients path clients = some lost) (hmem : (id, client) ∈ clients)
    (halive : client.isAlive) : client.sessionObjectPath ≠ path := by
  induction clients generalizing lost with
  | nil => cases hmem
  | cons c clients ih =>
    rw [findLostClients] at hlost
    rcases List.mem_cons.mp hmem with rfl | hmem
    · simp only [halive, Bool.not_true, Bool.false_eq_true, if_false] at hlost
      split_ifs at hlost with hpath
      exact hpath
    · split_ifs at hlost
      · obtain ⟨lost', hlost', -⟩ := Option.map_eq_some_iff.mp hlost
        exact ih hlost' hmem
      · exact ih hlost hmem

/-- A registration that is refused only unchecks the clients. -/
lemma registerClient_of_alreadyRegistered {clientID : κ}
    (hrefused : (m.registerClient path clientID).2 = .error .alreadyRegistered) (id : κ) :
    (m.registerClient path clientID).1.connectedClients[id]? =
      m.connectedClients[id]?.map Client.uncheck := by
  simp only [registerClient] at hrefused ⊢
  cases hlost : findLostClients path m.connectedClients.toList with
  | none => exact Std.ExtTreeMap.getElem?_map
  | some lost =>
    simp only [hlost] at hrefused
    split_ifs at hrefused
    cases hrefused

/-- A registration whose random ID is in use only removes the clients that are not alive. -/
lemma registerClient_of_internalError {clientID : κ}
    (hfailed : (m.registerClient path clientID).2 = .error .internalError) (id : κ) :
    (m.registerClient path clientID).1.connectedClients[id]? =
      m.connectedClients[id]?.filter Client.isAlive := by
  simp only [registerClient] at hfailed ⊢
  cases hlost : findLostClients path m.connectedClients.toList with
  | none =>
    simp only [hlost] at hfailed
    cases hfailed
  | some lost =>
    simp only [hlost] at hfailed ⊢
    split_ifs at hfailed ⊢
    exact getElem?_removeLost hlost id

lemma pathOf_removeLost (hlost : findLostClients path m.connectedClients.toList = some lost) :
    KeepsPaths m (lost.foldl (fun m clientID => (m.unregisterClient clientID).1) m) := by
  intro id path' hid
  rw [pathOf, getElem?_removeLost hlost] at hid
  obtain ⟨client, hclient, hpath⟩ := Option.map_eq_some_iff.mp hid
  rw [pathOf, (Option.filter_eq_some_iff.mp hclient).1, Option.map_some, hpath]

lemma DistinctPaths.registerClient (h : m.DistinctPaths) (path : π) (clientID : κ) :
    (m.registerClient path clientID).1.DistinctPaths := by
  cases hlost : findLostClients path m.connectedClients.toList with
  | none =>
    simp only [ClientsManager.registerClient, hlost]
    refine h.of_keepsPaths fun id path' hid => ?_
    have hid' : ((m.connectedClients[id]?.map Client.uncheck).map (·.sessionObjectPath)) =
        some path' := by
      rwa [pathOf, send, Std.ExtTreeMap.getElem?_map] at hid
    rwa [Option.map_map] at hid'
  | some lost =>
    have hremoved := h.of_keepsPaths (pathOf_removeLost hlost)
    -- the clients that are left are alive, and have other paths
    have hnew : ∀ id, (lost.foldl (fun m clientID => (m.unregisterClient clientID).1) m).pathOf id ≠
        some path := by
      intro id hid
      rw [pathOf, getElem?_removeLost hlost] at hid
      obtain ⟨client, hclient, hpath⟩ := Option.map_eq_some_iff.mp hid
      obtain ⟨hclient, halive⟩ := Option.filter_eq_some_iff.mp hclient
      exact ne_path_of_findLostClients hlost
        (Std.ExtTreeMap.mem_toList_iff_getElem?_eq_some.mpr hclient) halive hpath
    simp only [ClientsManager.registerClient, hlost]
    split_ifs
    · exact hremoved
    · have hpathOf : ∀ id, (((lost.foldl (fun m clientID => (m.unregisterClient clientID).1)
          m).setClient clientID (Client.new path (lost.foldl (fun m clientID =>
          (m.unregisterClient clientID).1) m).devicesManager)).setNumClients).pathOf id =
          if id = clientID then some path
          else (lost.foldl (fun m clientID => (m.unregisterClient clientID).1) m).pathOf id := by
        intro id
        simp only [pathOf, setNumClients, setClient, getElem?_insert_eq]
        split_ifs
        · rw [Option.map_some, Client.sessionObjectPath_new]
        · rfl
      intro id id' path' hid hid'
      rw [hpathOf] at hid hid'
      split_ifs at hid hid' with heq heq' heq'
      · rw [heq, heq']
      · cases hid
        exact absurd hid' (hnew id')
      · cases hid'
        exact absurd hid (hnew id)
      · exact hremoved id id' path' hid hid'

lemma DistinctPaths.step (h : m.DistinctPaths) (event : DaemonEvent κ π δ) :
    (m.step event).DistinctPaths := by
  cases event with
  | request r =>
    cases r with
    | registerClient path clientID => exact h.registerClient path clientID
    | unregisterClient clientID => exact h.of_keepsPaths (keepsPaths_unregisterClient clientID)
    | updateClientState clientID state =>
      exact h.of_keepsPaths (keepsPaths_updateClientState clientID state)
    | toggleClientReadyPropertie clientID =>
      exact h.of_keepsPaths (keepsPaths_toggleClientReadyPropertie clientID)
    | deleteDeviceConfiguration clientID devID =>
      refine h.of_keepsPaths (keepsPaths_onClient clientID fun client => ?_)
      rw [Client.deleteDevice]
      split_ifs <;> rfl
    | setDeviceBacklightColor clientID devID color =>
      refine h.of_keepsPaths (keepsPaths_onClient clientID fun client => ?_)
      rw [Client.setDeviceBacklightColor]
      split <;> rfl
    | setDeviceLCDPluginsMask clientID devID maskID mask =>
      refine h.of_keepsPaths (keepsPaths_onClient clientID fun client => ?_)
      rw [Client.setDeviceLCDPluginsMask]
      split
      · rfl
      · split_ifs <;> rfl
    | getDeviceProperties clientID devID =>
      exact h.of_keepsPaths (keepsPaths_getDeviceProperties clientID devID)
    | stopDevice clientID devID =>
      exact h.of_keepsPaths (keepsPaths_of_clients (stopDevice_clients clientID devID).1)
    | startDevice clientID devID result =>
      exact h.of_keepsPaths (keepsPaths_of_clients (startDevice_clients clientID devID result).1)
    | restartDevice clientID devID result =>
      exact h.of_keepsPaths (keepsPaths_of_clients (restartDevice_clients clientID devID result).1)
    | _ => exact h
  | _ => exact h

end ClientsManager

theorem ReachableDaemon.distinctPaths [DecidableEq π] {m : ClientsManager κ π δ}
    (h : ReachableDaemon m) : m.DistinctPaths := by
  obtain ⟨driverID, found, opens, hreach⟩ := h
  refine hreach.induction ?_ fun m event hm => hm.step event
  intro id id' path hid
  simp [ClientsManager.pathOf, startMonitoring] at hid

/-- After any requests no two connected clients have the same session. A registration that is
refused leaves the clients connected, and only unchecks them; one whose random ID is already in
use has removed those that are not alive. -/
theorem connectedClients_of_requests [DecidableEq π] (driverID : UInt16)
    (found : List (USBDeviceID δ)) (opens : δ → OpenResult) (events : List (DaemonEvent κ π δ)) :
    let m : ClientsManager κ π δ :=
      Run.run ClientsManager.step (startMonitoring driverID found opens) events
    (∀ (id id' : κ) (client client' : Client π δ), m.connectedClients[id]? = some client →
      m.connectedClients[id']? = some client' →
      client.sessionObjectPath = client'.sessionObjectPath → id = id') ∧
    ∀ (path : π) (clientID id : κ),
      ((m.registerClient path clientID).2 = .error .alreadyRegistered →
        (m.registerClient path clientID).1.connectedClients[id]? =
          m.connectedClients[id]?.map Client.uncheck) ∧
      ((m.registerClient path clientID).2 = .error .internalError →
        (m.registerClient path clientID).1.connectedClients[id]? =
          m.connectedClients[id]?.filter Client.isAlive) := by
  intro m
  have hreach : ReachableDaemon m := ⟨driverID, found, opens, events, rfl⟩
  refine ⟨fun id id' client client' hclient hclient' hpath => ?_, fun path clientID id => ⟨?_, ?_⟩⟩
  · apply hreach.distinctPaths id id' client.sessionObjectPath
    · rw [ClientsManager.pathOf, hclient, Option.map_some]
    · rw [ClientsManager.pathOf, hclient', Option.map_some, hpath]
  · exact fun hrefused => ClientsManager.registerClient_of_alreadyRegistered hrefused id
  · exact fun hfailed => ClientsManager.registerClient_of_internalError hfailed id

/-- Client 0 has answered the last refusal and client 1 has not; a third session registers, and its
random ID is the one of client 0. The call returns false, and client 1 is gone. -/
theorem not_registerClient_unchanged :
    ¬ ∀ m : ClientsManager ℕ ℕ ℕ, ReachableDaemon m → ∀ path clientID failure id,
      (m.registerClient path clientID).2 = .error failure →
      (m.registerClient path clientID).1.connectedClients.contains id =
        m.connectedClients.contains id := by
  intro h
  have hunchanged := h _ ⟨0, [], fun _ => .opened,
    [.request (.registerClient 0 0), .request (.registerClient 1 1), .request (.registerClient 0 2),
      .request (.updateClientState 0 "active")], rfl⟩ 2 0 .internalError 1 (by decide +kernel)
  revert hunchanged
  decide +kernel

/-! ### The number of clients -/

namespace ClientsManager

/-- No signal of a running daemon is suppressed for want of clients. -/
def SeesClients (m : ClientsManager κ π δ) : Prop := ∀ signal : BusSignal δ,
  sendSignalToClients m.numClients signal false = [signal] ∧
    sendStatusSignalArrayToClients m.numClients signal = [signal] ∧
    sendStatusSignalArrayToClients m.devicesManager.numClients signal = [signal]

variable {m : ClientsManager κ π δ}

lemma numClients_eq_zero_iff : m.numClients = 0 ↔ 256 ∣ m.connectedClients.size := by
  rw [numClients, ← UInt8.toNat_inj, UInt8.toNat_ofNat, Nat.dvd_iff_mod_eq_zero]
  rfl

lemma Steady.seesClients_iff_numClients (h : m.Steady) : m.SeesClients ↔ m.numClients ≠ 0 := by
  simp only [SeesClients, h.numClients, sendSignalToClients, sendStatusSignalArrayToClients]
  constructor
  · intro hsent hzero
    obtain ⟨hsignal, -⟩ := hsent .daemonIsStarting
    simp [hzero] at hsignal
  · intro hne signal
    simp [hne]

end ClientsManager

/-- However many clients are registered, they are seen just when their number is no multiple of
256. -/
theorem seesClients_iff [DecidableEq π] (driverID : UInt16) (found : List (USBDeviceID δ))
    (opens : δ → OpenResult) (events : List (DaemonEvent κ π δ)) :
    let m : ClientsManager κ π δ :=
      Run.run ClientsManager.step (startMonitoring driverID found opens) events
    m.SeesClients ↔ ¬ 256 ∣ m.connectedClients.size := by
  intro m
  have hreach : ReachableDaemon m := ⟨driverID, found, opens, events, rfl⟩
  rw [hreach.steady.seesClients_iff_numClients, ne_eq, ClientsManager.numClients_eq_zero_iff]

omit [LinearOrder κ] in
lemma findLostClients_eq_nil [DecidableEq π] {path : π} {clients : List (κ × Client π δ)}
    (h : ∀ entry ∈ clients, entry.2.isAlive ∧ entry.2.sessionObjectPath ≠ path) :
    ClientsManager.findLostClients path clients = some [] := by
  induction clients with
  | nil => rfl
  | cons entry clients ih =>
    obtain ⟨halive, hpath⟩ := h entry List.mem_cons_self
    rw [ClientsManager.findLostClients]
    simp only [halive, hpath, Bool.not_true, Bool.false_eq_true, if_false]
    exact ih fun entry' hmem => h entry' (List.mem_cons_of_mem _ hmem)

/-- The daemon after the first sessions have registered, each with its number as the ID of its
client. -/
def registerSessions (n : ℕ) : ClientsManager ℕ ℕ ℕ :=
  Run.run ClientsManager.step (startMonitoring 0 [] fun _ => .opened)
    ((List.range n).map fun i => .request (.registerClient i i))

lemma registerSessions_succ (n : ℕ) :
    registerSessions (n + 1) = ((registerSessions n).registerClient n n).1 := by
  rw [registerSessions, List.range_succ, List.map_append, Run.run_append]
  rfl

/-- Any number of sessions can register. -/
lemma size_registerSessions (n : ℕ) :
    (∀ id client, (registerSessions n).connectedClients[id]? = some client →
      client.isAlive ∧ client.sessionObjectPath = id ∧ id < n) ∧
    (registerSessions n).connectedClients.size = n := by
  induction n with
  | zero =>
    refine ⟨fun id client hclient => ?_, rfl⟩
    simp [registerSessions, startMonitoring] at hclient
  | succ n ih =>
    rw [registerSessions_succ]
    generalize registerSessions n = m at ih ⊢
    obtain ⟨hclients, hsize⟩ := ih
    have hlost : ClientsManager.findLostClients n m.connectedClients.toList = some [] := by
      apply findLostClients_eq_nil
      intro entry hentry
      obtain ⟨halive, hpath, hlt⟩ := hclients entry.1 entry.2
        (Std.ExtTreeMap.mem_toList_iff_getElem?_eq_some.mp hentry)
      exact ⟨halive, by omega⟩
    have hnone : m.connectedClients[n]? = none := by
      cases hclient : m.connectedClients[n]? with
      | none => rfl
      | some client => exact absurd (hclients n client hclient).2.2 (lt_irrefl n)
    have hcontains : m.connectedClients.contains n = false := by
      rw [Std.ExtTreeMap.contains_eq_isSome_getElem?, hnone]
      rfl
    simp only [ClientsManager.registerClient, hlost, List.foldl_nil, hcontains, Bool.false_eq_true,
      if_false, ClientsManager.setNumClients, ClientsManager.setClient, getElem?_insert_eq,
      Std.ExtTreeMap.size_insert]
    refine ⟨fun id client hclient => ?_, ?_⟩
    · split_ifs at hclient with hid
      · cases hclient
        rw [Client.isAlive, Client.check_new, Client.sessionObjectPath_new, hid]
        exact ⟨rfl, rfl, Nat.lt_succ_self n⟩
      · obtain ⟨halive, hpath, hlt⟩ := hclients id client hclient
        exact ⟨halive, hpath, hlt.trans (Nat.lt_succ_self n)⟩
    · rw [hsize]

/-- With 256 clients, no client is seen. -/
theorem not_seesClients_256 :
    ¬ ∀ m : ClientsManager ℕ ℕ ℕ, ReachableDaemon m → 1 ≤ m.connectedClients.size →
      m.SeesClients := by
  intro h
  have hreach : ReachableDaemon (registerSessions 256) := ⟨0, [], fun _ => .opened, _, rfl⟩
  obtain ⟨-, hsize⟩ := size_registerSessions 256
  have hsees := h _ hreach (by rw [hsize]; decide)
  rw [hreach.steady.seesClients_iff_numClients, ne_eq, ClientsManager.numClients_eq_zero_iff,
    hsize] at hsees
  exact hsees (dvd_refl 256)

end GLogiK
