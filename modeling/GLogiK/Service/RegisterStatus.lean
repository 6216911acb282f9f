import GLogiK.Daemon.ConnectedClients

/-!
# The register status of a service

A service registers with the daemon when it starts and when it is told that the daemon is starting,
and unregisters when the daemon is stopping and when it exits. Each is a remote call, whose reply may
be lost; the daemon and the service may end at any time. The status of the service and the clients
of the daemon should tell the same.
-/

namespace GLogiK

variable {κ π δ : Type*} [LinearOrder κ] [LinearOrder δ]

/-! ### Remote calls -/

/-- How a remote call goes: the daemon handles it and the service gets the reply, it handles it and
the service does not get the reply, or it does not handle it. -/
inductive CallOutcome
  | answered
  | lost
  | failed
  deriving DecidableEq, Repr

/-- The daemon after a call, and what the service gets from it. -/
def remoteCall {ρ : Type*} (daemon : Option (ClientsManager κ π δ)) (outcome : CallOutcome)
    (method : ClientsManager κ π δ → ClientsManager κ π δ × ρ) :
    Option (ClientsManager κ π δ) × Option ρ :=
  match daemon, outcome with
  | none, _           => (none, none)
  | some m, .answered => (some (method m).1, some (method m).2)
  | some m, .lost     => (some (method m).1, none)
  | some m, .failed   => (some m, none)

/-! ### The service -/

/-- `_registerStatus`, with the client ID and the version of the daemon, which are set and reset along
with it. -/
inductive RegisterStatus (κ : Type*)
  | unregistered
  | registered (clientID : κ) (daemonVersion : String)
  deriving DecidableEq, Repr

/-- A session with the path, its service and the daemon, if they are running. The two programs may
have different versions. -/
structure SessionDaemon (κ π δ : Type*) [LinearOrder κ] [LinearOrder δ] where
  path : π
  version : String
  daemonVersion : String
  daemon : Option (ClientsManager κ π δ) := none
  service : Option (RegisterStatus κ) := none

/-- A registration has the random ID that the daemon makes, and how the calls go: the one that
registers, and the one that unregisters when the versions differ. -/
structure Registering (κ : Type*) where
  clientID : κ
  register : CallOutcome
  unregister : CallOutcome

inductive SessionDaemonEvent (κ π δ : Type*)
  | startMonitoring (version : String) (driverID : UInt16) (found : List (USBDeviceID δ))
      (opens : δ → OpenResult)
  | endDaemon
  | daemon (event : DaemonEvent κ π δ)
  | startService (calls : Registering κ)
  | daemonIsStarting (calls : Registering κ)
  | daemonIsStopping (unregister : CallOutcome)
  | cleanDBusRequests (unregister : CallOutcome)
  | endService

namespace SessionDaemon

variable (s : SessionDaemon κ π δ)

/-- The status is only reset when the daemon says that it has unregistered the client. -/
def unregisterWithDaemon (status : RegisterStatus κ) (unregister : CallOutcome) :
    Option (ClientsManager κ π δ) × RegisterStatus κ :=
  match status with
  | .unregistered          => (s.daemon, status)
  | .registered clientID _ =>
    match remoteCall s.daemon unregister (·.unregisterClient clientID) with
    | (daemon, some true) => (daemon, .unregistered)
    | (daemon, _)         => (daemon, status)

/-- With a daemon of another version, the service unregisters again. -/
def registerWithDaemon [DecidableEq π] (status : RegisterStatus κ) (calls : Registering κ) :
    Option (ClientsManager κ π δ) × RegisterStatus κ :=
  match status with
  | .registered _ _ => (s.daemon, status)
  | .unregistered   =>
    match remoteCall s.daemon calls.register (·.registerClient s.path calls.clientID) with
    | (daemon, some (.ok clientID)) =>
      let status := .registered clientID s.daemonVersion
      if s.daemonVersion ≠ s.version then
        { s with daemon := daemon }.unregisterWithDaemon status calls.unregister
      else (daemon, status)
    | (daemon, _) => (daemon, status)

/-- The constructor throws when the service is not registered. -/
def startService [DecidableEq π] (calls : Registering κ) : SessionDaemon κ π δ :=
  match s.registerWithDaemon .unregistered calls with
  | (daemon, .unregistered) => { s with daemon := daemon, service := none }
  | (daemon, status)        => { s with daemon := daemon, service := some status }

def daemonIsStarting [DecidableEq π] (status : RegisterStatus κ) (calls : Registering κ) :
    SessionDaemon κ π δ :=
  let (daemon, status) := s.registerWithDaemon status calls
  { s with daemon := daemon, service := some status }

def daemonIsStopping (status : RegisterStatus κ) (unregister : CallOutcome) : SessionDaemon κ π δ :=
  let (daemon, status) := s.unregisterWithDaemon status unregister
  { s with daemon := daemon, service := some status }

/-- The constructor does the same when it fails after the registration. -/
def cleanDBusRequests (status : RegisterStatus κ) (unregister : CallOutcome) :
    SessionDaemon κ π δ :=
  { s with daemon := (s.unregisterWithDaemon status unregister).1, service := none }

def step [DecidableEq π] (s : SessionDaemon κ π δ) :
    SessionDaemonEvent κ π δ → SessionDaemon κ π δ
  | .startMonitoring version driverID found opens =>
    match s.daemon with
    | none   =>
      { s with
        daemonVersion := version
        daemon := some (GLogiK.startMonitoring driverID found opens) }
    | some _ => s
  | .endDaemon => { s with daemon := none }
  | .daemon event => { s with daemon := s.daemon.map (·.step event) }
  | .startService calls =>
    match s.service with
    | none   => s.startService calls
    | some _ => s
  | .daemonIsStarting calls => s.service.elim s (s.daemonIsStarting · calls)
  | .daemonIsStopping unregister => s.service.elim s (s.daemonIsStopping · unregister)
  | .cleanDBusRequests unregister => s.service.elim s (s.cleanDBusRequests · unregister)
  | .endService => { s with service := none }

/-! ### Agreement -/

/-- The ID under which the service takes itself to be registered. -/
def registeredAs : Option (κ × String) :=
  match s.service with
  | some (.registered clientID daemonVersion) => some (clientID, daemonVersion)
  | _                                         => none

/-- A service that takes itself to be registered is a client of a daemon of its version, under its
session and its ID. Otherwise the daemon has no client of the session. -/
def Agrees : Prop :=
  match s.registeredAs with
  | some (clientID, daemonVersion) =>
    daemonVersion = s.version ∧ ∃ m, s.daemon = some m ∧ m.pathOf clientID = some s.path
  | none => ∀ m, s.daemon = some m → ∀ id, m.pathOf id ≠ some s.path

/-- Nobody else unregisters the client, and a registration is refused, finds the client alive or
makes the same client again. -/
def Keeps [DecidableEq π] (m : ClientsManager κ π δ) (path : π) (clientID : κ) :
    DaemonEvent κ π δ → Prop
  | .request (.unregisterClient id)     => id ≠ clientID
  | .request (.registerClient path' id) =>
    (m.registerClient path' id).2 = .error .alreadyRegistered ∨
      m.checkOf clientID = some true ∨ id = clientID ∧ path' = path
  | _                                   => True

end SessionDaemon

/-! ### The clients of the daemon -/

namespace ClientsManager

variable {m : ClientsManager κ π δ} {clientID : κ}

lemma pathOf_congr {m' : ClientsManager κ π δ} (h : m'.connectedClients = m.connectedClients)
    (id : κ) : m'.pathOf id = m.pathOf id := by
  rw [pathOf, pathOf, h]

/-- A change of a client that keeps its session. -/
lemma pathOf_setClient_of_eq {old client : Client π δ}
    (hold : m.connectedClients[clientID]? = some old)
    (hpath : client.sessionObjectPath = old.sessionObjectPath) (id : κ) :
    (m.setClient clientID client).pathOf id = m.pathOf id := by
  simp only [pathOf, setClient, getElem?_insert_eq]
  split_ifs with hid
  · rw [hid, hold, Option.map_some, Option.map_some, hpath]
  · rfl

lemma pathOf_onClient (clientID : κ) {op : Client π δ → Client π δ × Bool}
    (hop : ∀ client, (op client).1.sessionObjectPath = client.sessionObjectPath) (id : κ) :
    (m.onClient clientID op).1.pathOf id = m.pathOf id := by
  rw [onClient]
  cases hclient : m.connectedClients[clientID]? with
  | none => rfl
  | some client => exact pathOf_setClient_of_eq hclient (hop client) id

lemma pathOf_updateClientState (clientID : κ) (state : String) (id : κ) :
    (m.updateClientState clientID state).1.pathOf id = m.pathOf id := by
  rw [updateClientState]
  split_ifs
  · rfl
  · cases hclient : m.connectedClients[clientID]? with
    | none => rfl
    | some client =>
      have hset : (m.setClient clientID (client.updateSessionState state)).pathOf id = m.pathOf id := by
        apply pathOf_setClient_of_eq hclient
        rfl
      simp only
      split_ifs <;> exact hset

lemma pathOf_toggleClientReadyPropertie (clientID id : κ) :
    (m.toggleClientReadyPropertie clientID).1.pathOf id = m.pathOf id := by
  rw [toggleClientReadyPropertie]
  cases hclient : m.connectedClients[clientID]? with
  | none => rfl
  | some client =>
    have hset : (m.setClient clientID client.toggleClientReadyPropertie).pathOf id = m.pathOf id := by
      apply pathOf_setClient_of_eq hclient
      rfl
    simp only
    split_ifs <;> exact hset

lemma pathOf_getDeviceProperties (clientID : κ) (devID : δ) (id : κ) :
    (m.getDeviceProperties clientID devID).1.pathOf id = m.pathOf id := by
  rw [getDeviceProperties]
  cases hclient : m.connectedClients[clientID]? with
  | none => rfl
  | some client =>
    simp only
    split_ifs
    · refine pathOf_setClient_of_eq hclient ?_ id
      rw [Client.initializeDevice]
      split_ifs <;> rfl
    · rfl

lemma pathOf_unregisterClient (clientID id : κ) :
    (m.unregisterClient clientID).1.pathOf id = if id = clientID then none else m.pathOf id := by
  simp only [pathOf, unregisterClient_connectedClients, getElem?_erase_eq]
  split_ifs <;> rfl

/-- All that is neither a registration nor the end of one leaves the sessions as they are. -/
lemma pathOf_step [DecidableEq π] {event : DaemonEvent κ π δ}
    (hregister : ∀ path id, event ≠ .request (.registerClient path id))
    (hunregister : ∀ id, event ≠ .request (.unregisterClient id)) (id : κ) :
    (m.step event).pathOf id = m.pathOf id := by
  cases event with
  | request r =>
    cases r with
    | registerClient path clientID => exact absurd rfl (hregister path clientID)
    | unregisterClient clientID => exact absurd rfl (hunregister clientID)
    | updateClientState clientID state => exact pathOf_updateClientState clientID state id
    | toggleClientReadyPropertie clientID => exact pathOf_toggleClientReadyPropertie clientID id
    | getDeviceProperties clientID devID => exact pathOf_getDeviceProperties clientID devID id
    | deleteDeviceConfiguration clientID devID =>
      refine pathOf_onClient clientID (fun client => ?_) id
      rw [Client.deleteDevice]
      split_ifs <;> rfl
    | setDeviceBacklightColor clientID devID color =>
      refine pathOf_onClient clientID (fun client => ?_) id
      rw [Client.setDeviceBacklightColor]
      split <;> rfl
    | setDeviceLCDPluginsMask clientID devID maskID mask =>
      refine pathOf_onClient clientID (fun client => ?_) id
      rw [Client.setDeviceLCDPluginsMask]
      split
      · rfl
      · split_ifs <;> rfl
    | stopDevice clientID devID => exact pathOf_congr (stopDevice_clients clientID devID).1 id
    | startDevice clientID devID result =>
      exact pathOf_congr (startDevice_clients clientID devID result).1 id
    | restartDevice clientID devID result =>
      exact pathOf_congr (restartDevice_clients clientID devID result).1 id
    | _ => rfl
  | _ => rfl

/-- The sessions of the clients that are alive. -/
def alivePathOf (m : ClientsManager κ π δ) (clientID : κ) : Option π :=
  (m.connectedClients[clientID]?.filter Client.isAlive).map (·.sessionObjectPath)

lemma alivePathOf_of_checkOf (h : m.checkOf clientID = some true) :
    m.alivePathOf clientID = m.pathOf clientID := by
  obtain ⟨client, hclient, halive⟩ := Option.map_eq_some_iff.mp h
  rw [alivePathOf, pathOf, hclient, Option.filter_some_pos (show client.isAlive from halive)]

lemma alivePathOf_of_checkOf_ne (h : m.checkOf clientID ≠ some true) :
    m.alivePathOf clientID = none := by
  rw [alivePathOf]
  cases hclient : m.connectedClients[clientID]? with
  | none => rfl
  | some client =>
    rw [checkOf_eq hclient] at h
    have hdead : client.isAlive = false := by
      cases halive : client.isAlive with
      | false => rfl
      | true => exact absurd (congrArg some halive) h
    rw [Option.filter_some_neg hdead, Option.map_none]

lemma pathOf_of_alivePathOf {path : π} (h : m.alivePathOf clientID = some path) :
    m.pathOf clientID = some path := by
  by_cases hcheck : m.checkOf clientID = some true
  · rwa [alivePathOf_of_checkOf hcheck] at h
  · rw [alivePathOf_of_checkOf_ne hcheck] at h
    cases h

variable [DecidableEq π]

omit [LinearOrder κ] in
/-- Only a client that is alive and has the path refuses the registration. -/
lemma exists_of_findLostClients {path : π} {clients : List (κ × Client π δ)}
    (hlost : findLostClients path clients = none) :
    ∃ c ∈ clients, c.2.isAlive ∧ c.2.sessionObjectPath = path := by
  induction clients with
  | nil => cases hlost
  | cons c clients ih =>
    rw [findLostClients] at hlost
    split_ifs at hlost with halive hpath
    · obtain ⟨c', hc', hfound⟩ := ih (Option.map_eq_none_iff.mp hlost)
      exact ⟨c', List.mem_cons_of_mem c hc', hfound⟩
    · exact ⟨c, List.mem_cons_self, by simpa using halive, hpath⟩
    · obtain ⟨c', hc', hfound⟩ := ih hlost
      exact ⟨c', List.mem_cons_of_mem c hc', hfound⟩

lemma pathOf_removeLost_eq {path : π} {lost : List κ}
    (hlost : findLostClients path m.connectedClients.toList = some lost) (id : κ) :
    (lost.foldl (fun m clientID => (m.unregisterClient clientID).1) m).pathOf id =
      m.alivePathOf id := by
  rw [pathOf, getElem?_removeLost hlost, alivePathOf]

/-- What a registration does to the sessions: nothing when it is refused, else the clients that are
not alive go, and if the random ID is free the new one comes. -/
lemma registerClient_cases (m : ClientsManager κ π δ) (path : π) (clientID : κ) :
    ((m.registerClient path clientID).2 = .error .alreadyRegistered ∧
      (∃ id, m.alivePathOf id = some path) ∧
      ∀ id, (m.registerClient path clientID).1.pathOf id = m.pathOf id) ∨
    ((∀ id, m.alivePathOf id ≠ some path) ∧
      ((m.registerClient path clientID).2 = .error .internalError ∧
          m.alivePathOf clientID ≠ none ∧
          (∀ id, (m.registerClient path clientID).1.pathOf id = m.alivePathOf id) ∨
        (m.registerClient path clientID).2 = .ok clientID ∧
          m.alivePathOf clientID = none ∧
          ∀ id, (m.registerClient path clientID).1.pathOf id =
            if id = clientID then some path else m.alivePathOf id)) := by
  cases hlost : findLostClients path m.connectedClients.toList with
  | none =>
    refine Or.inl ⟨by rw [registerClient, hlost], ?_, fun id => ?_⟩
    · obtain ⟨⟨id, client⟩, hmem, halive, hpath⟩ := exists_of_findLostClients hlost
      refine ⟨id, ?_⟩
      rw [alivePathOf, Std.ExtTreeMap.mem_toList_iff_getElem?_eq_some.mp hmem,
        Option.filter_some_pos halive, Option.map_some, hpath]
    · have hrefused : (m.registerClient path clientID).2 = .error .alreadyRegistered := by
        rw [registerClient, hlost]
      rw [pathOf, registerClient_of_alreadyRegistered hrefused, Option.map_map]
      rfl
  | some lost =>
    have hremoved := pathOf_removeLost_eq hlost
    have hfree : ∀ id, m.alivePathOf id ≠ some path := by
      intro id hid
      obtain ⟨client, hclient, hpath⟩ := Option.map_eq_some_iff.mp hid
      obtain ⟨hclient, halive⟩ := Option.filter_eq_some_iff.mp hclient
      exact ne_path_of_findLostClients hlost
        (Std.ExtTreeMap.mem_toList_iff_getElem?_eq_some.mpr hclient) halive hpath
    refine Or.inr ⟨hfree, ?_⟩
    simp only [registerClient, hlost]
    set removed := lost.foldl (fun m clientID => (m.unregisterClient clientID).1) m
    have hused : removed.connectedClients.contains clientID ↔ m.alivePathOf clientID ≠ none := by
      rw [← hremoved, pathOf, ne_eq, Option.map_eq_none_iff, Std.ExtTreeMap.contains_iff_mem,
        Std.ExtTreeMap.mem_iff_isSome_getElem?, Option.isSome_iff_ne_none]
    split_ifs with hcontains
    · exact Or.inl ⟨rfl, hused.mp hcontains, hremoved⟩
    · refine Or.inr ⟨rfl, not_not.mp (mt hused.mpr hcontains), fun id => ?_⟩
      rw [← hremoved]
      simp only [pathOf, setNumClients, setClient, getElem?_insert_eq]
      split_ifs
      · rw [Option.map_some, Client.sessionObjectPath_new]
      · rfl

end ClientsManager

/-! ### What a step does to the agreement -/

namespace SessionDaemon

variable [DecidableEq π] {s : SessionDaemon κ π δ} {m : ClientsManager κ π δ} {clientID : κ}
  {path : π} {event : DaemonEvent κ π δ}

/-- The daemon, while it runs, is reachable. -/
def ReachableIfRuns (daemon : Option (ClientsManager κ π δ)) : Prop :=
  ∀ m, daemon = some m → ReachableDaemon m

variable {daemon : Option (ClientsManager κ π δ)}

lemma ReachableIfRuns.remoteCall {ρ : Type*} (h : ReachableIfRuns daemon) (outcome : CallOutcome)
    {method : ClientsManager κ π δ → ClientsManager κ π δ × ρ}
    (hmethod : ∀ m, ReachableDaemon m → ReachableDaemon (method m).1) :
    ReachableIfRuns (remoteCall daemon outcome method).1 := by
  intro m hm
  cases daemon with
  | none => cases hm
  | some m' =>
    cases outcome with
    | answered | lost =>
      cases hm
      exact hmethod m' (h m' rfl)
    | failed => exact h m hm

lemma reachableIfRuns_unregisterWithDaemon (h : ReachableIfRuns s.daemon)
    (status : RegisterStatus κ) (unregister : CallOutcome) :
    ReachableIfRuns (s.unregisterWithDaemon status unregister).1 := by
  cases status with
  | unregistered => exact h
  | registered clientID version =>
    have hcall : ReachableIfRuns
        (remoteCall s.daemon unregister (·.unregisterClient clientID)).1 :=
      h.remoteCall unregister fun m hm => hm.next (.request (.unregisterClient clientID))
    simp only [unregisterWithDaemon]
    split
    · next heq => rwa [heq] at hcall
    · next heq => rwa [heq] at hcall

lemma reachableIfRuns_registerWithDaemon (h : ReachableIfRuns s.daemon)
    (status : RegisterStatus κ) (calls : Registering κ) :
    ReachableIfRuns (s.registerWithDaemon status calls).1 := by
  cases status with
  | registered clientID version => exact h
  | unregistered =>
    have hcall : ReachableIfRuns
        (remoteCall s.daemon calls.register (·.registerClient s.path calls.clientID)).1 :=
      h.remoteCall calls.register
        fun m hm => hm.next (.request (.registerClient s.path calls.clientID))
    simp only [registerWithDaemon]
    split
    · next heq =>
      rw [heq] at hcall
      split_ifs
      · exact reachableIfRuns_unregisterWithDaemon hcall _ calls.unregister
      · exact hcall
    · next heq => rwa [heq] at hcall

def Runs (s : SessionDaemon κ π δ) : Prop := ReachableIfRuns s.daemon

lemma Runs.step (h : s.Runs) (event : SessionDaemonEvent κ π δ) : (s.step event).Runs := by
  cases event with
  | startMonitoring version driverID found opens =>
    cases hdaemon : s.daemon with
    | some m => simpa only [SessionDaemon.step, hdaemon] using h
    | none =>
      simp only [SessionDaemon.step, hdaemon]
      rintro m ⟨⟩
      exact reachableDaemon_startMonitoring driverID found opens
  | endDaemon => nofun
  | daemon event =>
    intro m hm
    obtain ⟨m', hm', rfl⟩ := Option.map_eq_some_iff.mp hm
    exact (h m' hm').next event
  | startService calls =>
    cases hservice : s.service with
    | some status => simpa only [SessionDaemon.step, hservice] using h
    | none =>
      have hregister := reachableIfRuns_registerWithDaemon h .unregistered calls
      simp only [SessionDaemon.step, hservice, startService]
      split
      · next heq => rwa [heq] at hregister
      · next heq => rwa [heq] at hregister
  | daemonIsStarting calls =>
    cases hservice : s.service with
    | none => simpa only [SessionDaemon.step, hservice, Option.elim_none] using h
    | some status =>
      simp only [SessionDaemon.step, hservice]
      exact reachableIfRuns_registerWithDaemon h status calls
  | daemonIsStopping unregister | cleanDBusRequests unregister =>
    cases hservice : s.service with
    | none => simpa only [SessionDaemon.step, hservice, Option.elim_none] using h
    | some status =>
      simp only [SessionDaemon.step, hservice]
      exact reachableIfRuns_unregisterWithDaemon h status unregister
  | endService => exact h

end SessionDaemon

/-! ### A session whose service is lost -/

/-- Who is not among the new ones was heard before. -/
lemma HeardSince.of_append {heard new : List (Option κ)} {id : κ}
    (h : HeardSince (new ++ heard) id) (hnew : some id ∉ new) : HeardSince heard id := by
  induction new with
  | nil => exact h
  | cons new news ih =>
    cases new with
    | none => exact absurd h not_heardSince_none
    | some id' =>
      rcases heardSince_some.mp h with rfl | h
      · exact absurd List.mem_cons_self hnew
      · exact ih h fun hmem => hnew (List.mem_cons_of_mem _ hmem)

namespace ClientsManager

variable [DecidableEq π] {m : ClientsManager κ π δ} {path : π}

omit [DecidableEq π] in
/-- The clients that are alive, as if they had been heard since a refusal. -/
lemma exists_marksHeard (m : ClientsManager κ π δ) :
    ∃ heard, m.MarksHeard heard ∧ ∀ id, HeardSince heard id → m.checkOf id = some true := by
  let alive := m.connectedClients.keys.filter fun id => m.checkOf id = some true
  have hheard : ∀ id, HeardSince (alive.map some ++ [none]) id ↔ m.checkOf id = some true := by
    intro id
    have htake : (alive.map some ++ [none]).takeWhile Option.isSome = alive.map some := by
      rw [List.takeWhile_append_of_pos (by simp)]
      simp
    simp only [HeardSince, htake, List.mem_append, List.mem_singleton, or_true, forall_true_left,
      List.mem_map, Option.some.injEq, exists_eq_right, alive, List.mem_filter, decide_eq_true_eq,
      and_iff_right_iff_imp]
    intro hcheck
    obtain ⟨client, hclient, -⟩ := Option.map_eq_some_iff.mp hcheck
    exact Std.ExtTreeMap.mem_keys.mpr
      (Std.ExtTreeMap.mem_iff_isSome_getElem?.mpr (by rw [hclient]; rfl))
  refine ⟨alive.map some ++ [none], fun id b hb => ?_, fun id => (hheard id).mp⟩
  rw [hheard, hb]
  simp

/-- A client that is alive was, or has just been heard. -/
lemma checkOf_step {event : DaemonEvent κ π δ} {id : κ}
    (h : (m.step event).checkOf id = some true) :
    some id ∈ m.hears event ∨ m.checkOf id = some true := by
  obtain ⟨heard, hmarks, halive⟩ := m.exists_marksHeard
  have hheard : HeardSince (m.hears event ++ heard) id := (hmarks.step event id true h).mp rfl
  by_cases hmem : some id ∈ m.hears event
  · exact Or.inl hmem
  · exact Or.inr (halive id (hheard.of_append hmem))

/-- Only a registration or a state makes a client heard. -/
lemma eq_of_mem_hears {event : DaemonEvent κ π δ} {id : κ} (h : some id ∈ m.hears event) :
    (∃ path, event = .request (.registerClient path id)) ∨
      ∃ state, event = .request (.updateClientState id state) := by
  cases event with
  | request r =>
    cases r with
    | registerClient path clientID =>
      refine Or.inl ⟨path, ?_⟩
      rcases m.registerClient_cases path clientID with ⟨hrefused, -⟩ | ⟨-, ⟨hfailed, -⟩ | ⟨hok, -⟩⟩
      · simp [hears, hrefused] at h
      · simp [hears, hfailed] at h
      · simp only [hears, hok, List.mem_singleton, Option.some.injEq] at h
        rw [h]
    | updateClientState clientID state =>
      refine Or.inr ⟨state, ?_⟩
      simp only [hears] at h
      split_ifs at h
      · rw [Option.some.inj (List.mem_singleton.mp h)]
      · cases h
    | _ => cases h
  | _ => cases h

/-- The clients of the session are among those of an earlier state, and none is alive. -/
def SilentSince (m₀ : ClientsManager κ π δ) (path : π) (m : ClientsManager κ π δ) : Prop :=
  ∀ id, m.pathOf id = some path → m₀.pathOf id = some path ∧ m.checkOf id ≠ some true

/-- The event is no registration of the session, and no answer of its clients. -/
def LeavesSilent (m₀ : ClientsManager κ π δ) (path : π) : DaemonEvent κ π δ → Prop
  | .request (.registerClient path' _)     => path' ≠ path
  | .request (.updateClientState lost _) => m₀.pathOf lost ≠ some path
  | _                                      => True

lemma silentSince_refused {id₀ : κ}
    (hrefused : (m.registerClient path id₀).2 = .error .alreadyRegistered) :
    SilentSince m path (m.registerClient path id₀).1 := by
  intro id hid
  have hclient := registerClient_of_alreadyRegistered hrefused id
  constructor
  · rw [pathOf, hclient, Option.map_map] at hid
    exact hid
  · rw [checkOf, hclient, Option.map_map]
    cases m.connectedClients[id]? with
    | none => simp
    | some client => simp [Client.uncheck]

/-- An event brings no client of the session that another has not registered. -/
lemma pathOf_of_step {event : DaemonEvent κ π δ} {id : κ}
    (h : (m.step event).pathOf id = some path) :
    m.pathOf id = some path ∨ event = .request (.registerClient path id) := by
  by_cases hregister : ∃ path' id', event = .request (.registerClient path' id')
  · obtain ⟨path', id', rfl⟩ := hregister
    have hstep : m.step (.request (.registerClient path' id')) = (m.registerClient path' id').1 :=
      rfl
    rw [hstep] at h
    rcases m.registerClient_cases path' id' with ⟨-, -, hsame⟩ | ⟨-, ⟨-, -, hleft⟩ | ⟨-, -, hleft⟩⟩
    · exact Or.inl (hsame id ▸ h)
    · exact Or.inl (pathOf_of_alivePathOf (hleft id ▸ h))
    · rw [hleft] at h
      split_ifs at h with hid
      · cases h
        exact Or.inr (by rw [hid])
      · exact Or.inl (pathOf_of_alivePathOf h)
  · refine Or.inl ?_
    have hpathOf := pathOf_step (m := m) fun path' id h => hregister ⟨path', id, h⟩
    by_cases hunregister : ∃ id', event = .request (.unregisterClient id')
    · obtain ⟨id', rfl⟩ := hunregister
      have hstep : m.step (.request (.unregisterClient id')) = (m.unregisterClient id').1 := rfl
      rw [hstep, pathOf_unregisterClient] at h
      split_ifs at h
      exact h
    · rwa [hpathOf fun id' h => hunregister ⟨id', h⟩] at h

lemma SilentSince.step {m₀ : ClientsManager κ π δ} (h : SilentSince m₀ path m)
    {event : DaemonEvent κ π δ} (hevent : LeavesSilent m₀ path event) :
    SilentSince m₀ path (m.step event) := by
  intro id hid
  rcases pathOf_of_step hid with hpath | rfl
  · obtain ⟨hbefore, hdead⟩ := h id hpath
    refine ⟨hbefore, fun halive => ?_⟩
    rcases checkOf_step halive with hheard | halive
    · rcases eq_of_mem_hears hheard with ⟨path', rfl⟩ | ⟨state, rfl⟩
      · have hstep : m.step (.request (.registerClient path' id)) = (m.registerClient path' id).1 :=
          rfl
        rw [hstep] at hid
        rcases m.registerClient_cases path' id with ⟨hrefused, -⟩ |
          ⟨-, ⟨hfailed, -⟩ | ⟨-, -, hleft⟩⟩
        · simp [hears, hrefused] at hheard
        · simp [hears, hfailed] at hheard
        · rw [hleft, if_pos rfl] at hid
          exact hevent (Option.some.inj hid)
      · exact hevent hbefore
    · exact hdead halive
  · exact absurd rfl hevent

/-- A registration of a session is refused because of its lost service, which says nothing any
more. Whatever else happens, the next registration of the session is not refused: the lost client
goes and the new one takes its place, unless its random ID is the one of a client that is alive. -/
theorem registerClient_again {id₀ : κ}
    (hrefused : (m.registerClient path id₀).2 = .error .alreadyRegistered)
    {events : List (DaemonEvent κ π δ)} (hevents : ∀ event ∈ events, LeavesSilent m path event)
    (id : κ) :
    let m' := Run.run ClientsManager.step (m.registerClient path id₀).1 events
    (m'.registerClient path id).2 = .ok id ∧
        (∀ id', (m'.registerClient path id).1.pathOf id' = some path ↔ id' = id) ∨
      (m'.registerClient path id).2 = .error .internalError ∧ m'.checkOf id = some true := by
  intro m'
  have hsilent : SilentSince m path m' := by
    have hsteps : Run.Steps ClientsManager.step (fun _ event => LeavesSilent m path event)
        (m.registerClient path id₀).1 events := Run.steps_of_forall hevents
    exact hsteps.induction (silentSince_refused hrefused) fun _ _ h hevent => h.step hevent
  have hdead : ∀ id', m'.alivePathOf id' ≠ some path := by
    intro id' hid'
    have hpath := pathOf_of_alivePathOf hid'
    rw [alivePathOf_of_checkOf_ne (hsilent id' hpath).2] at hid'
    cases hid'
  rcases m'.registerClient_cases path id with ⟨-, ⟨id', hid'⟩, -⟩ |
    ⟨-, ⟨hfailed, hused, -⟩ | ⟨hok, -, hleft⟩⟩
  · exact absurd hid' (hdead id')
  · refine Or.inr ⟨hfailed, ?_⟩
    by_contra hcheck
    exact hused (alivePathOf_of_checkOf_ne hcheck)
  · refine Or.inl ⟨hok, fun id' => ?_⟩
    rw [hleft]
    split_ifs with hid'
    · exact iff_of_true rfl hid'
    · exact iff_of_false (hdead id') hid'

/-- The service of session 0 is lost; another session registers before the second try. -/
theorem registerClient_again_other :
    let m : ClientsManager ℕ ℕ ℕ :=
      ((startMonitoring 0 [] fun _ => .opened).registerClient 0 0).1
    let m' := Run.run step (m.registerClient 0 1).1 [.request (.registerClient 1 1), .checkThreads]
    (m'.registerClient 0 2).2 = .ok 2 ∧
        (∀ id, (m'.registerClient 0 2).1.pathOf id = some 0 ↔ id = 2) ∨
      (m'.registerClient 0 2).2 = .error .internalError ∧ m'.checkOf 2 = some true := by
  intro m m'
  refine registerClient_again (by decide +kernel) (List.forall_mem_cons.mpr ⟨?_, ?_⟩) 2
  · exact one_ne_zero
  · exact List.forall_mem_singleton.mpr trivial

end ClientsManager

end GLogiK
