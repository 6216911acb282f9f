import GLogiK.Daemon.Departures

/-!
# Registrations and the answers to ReportYourself

A registration that is refused unchecks all clients and asks them to report themselves; the next
one that is not refused removes those that are unchecked. Signals and answers are messages in
flight, which other messages may overtake.
-/

namespace GLogiK

variable {κ π δ : Type*} [LinearOrder κ] [LinearOrder δ]

/-! ### What the daemon has heard -/

namespace ClientsManager

/-- What the daemon learns about the clients: nothing when it refuses a registration, else the
client that registers or whose state is updated. -/
def hears [DecidableEq π] (m : ClientsManager κ π δ) : DaemonEvent κ π δ → List (Option κ)
  | .request (.registerClient path clientID) =>
    match (m.registerClient path clientID).2 with
    | .error .alreadyRegistered => [none]
    | .error .internalError     => []
    | .ok id                    => [some id]
  | .request (.updateClientState clientID state) =>
    if (m.updateClientState clientID state).2 then [some clientID] else []
  | _ => []

end ClientsManager

/-- The client was heard after the last refusal; the last that was heard comes first. -/
def HeardSince (heard : List (Option κ)) (clientID : κ) : Prop :=
  none ∈ heard → some clientID ∈ heard.takeWhile Option.isSome

section

variable {heard : List (Option κ)} {clientID id : κ}

omit [LinearOrder κ] in
lemma not_heardSince_none : ¬ HeardSince (none :: heard) clientID := by
  simp [HeardSince]

lemma heardSince_some : HeardSince (some id :: heard) clientID ↔
    clientID = id ∨ HeardSince heard clientID := by
  simp only [HeardSince, List.mem_cons, reduceCtorEq, false_or, List.takeWhile_cons,
    Option.isSome_some, if_true, Option.some.injEq]
  tauto

end

/-! ### Messages in flight -/

/-- `signals` are the ReportYourself signals on their way to a client, `answers` its answers on
their way to the daemon, `lost` the clients whose process has ended, and `heard` what the daemon
has learnt. -/
structure Sessions (κ π δ : Type*) [LinearOrder κ] [LinearOrder δ] where
  daemon : ClientsManager κ π δ
  signals : κ → ℕ := fun _ => 0
  answers : κ → List String := fun _ => []
  lost : κ → Bool := fun _ => false
  heard : List (Option κ) := []

/-- A living client answers the signal with the state of its session. -/
inductive SessionsEvent (κ π δ : Type*)
  | daemon (event : DaemonEvent κ π δ)
  | reportYourself (clientID : κ) (state : String)
  | answer (clientID : κ)
  | crash (clientID : κ)

namespace Sessions

/-- The daemon handles an event, and its broadcasts are on their way to the registered clients. -/
def handle [DecidableEq π] (s : Sessions κ π δ) (event : DaemonEvent κ π δ) : Sessions κ π δ :=
  let daemon := s.daemon.step event
  let sent := daemon.devicesManager.sent.drop s.daemon.devicesManager.sent.length
  { s with
    daemon := daemon
    heard := s.daemon.hears event ++ s.heard
    signals := fun clientID =>
      if clientID ∈ daemon.connectedClients then
        s.signals clientID + sent.countP fun | .reportYourself => true | _ => false
      else s.signals clientID }

def step [DecidableEq π] (s : Sessions κ π δ) : SessionsEvent κ π δ → Sessions κ π δ
  | .daemon event                    => s.handle event
  | .reportYourself clientID state   =>
    if s.lost clientID ∨ s.signals clientID = 0 ∨ state ≠ "active" ∧ state ≠ "online" then s
    else
      { s with
        signals := Function.update s.signals clientID (s.signals clientID - 1)
        answers := Function.update s.answers clientID (s.answers clientID ++ [state]) }
  | .answer clientID                 =>
    match s.answers clientID with
    | []              => s
    | state :: states =>
      { s with answers := Function.update s.answers clientID states }.handle
        (.request (.updateClientState clientID state))
  | .crash clientID                  => { s with lost := Function.update s.lost clientID true }

/-- A registration removes no living client of another session. -/
def KeepsLiving [DecidableEq π] (s : Sessions κ π δ) : SessionsEvent κ π δ → Prop
  | .daemon (.request (.registerClient path id)) =>
    ∀ clientID (client : Client π δ), s.daemon.connectedClients[clientID]? = some client →
      s.lost clientID = false → client.sessionObjectPath ≠ path →
        clientID ∉ s.daemon.removedClients (.request (.registerClient path id))
  | _ => True

/-- Unless it is refused, a registration is handled when every living client of another session
has been heard since the last refusal. -/
def AllHeard [DecidableEq π] (s : Sessions κ π δ) : SessionsEvent κ π δ → Prop
  | .daemon (.request (.registerClient path id)) =>
    s.daemon.hears (.request (.registerClient path id)) ≠ [none] →
      ∀ clientID (client : Client π δ), s.daemon.connectedClients[clientID]? = some client →
        s.lost clientID = false → client.sessionObjectPath ≠ path → HeardSince s.heard clientID
  | _ => True

end Sessions

/-! ### Whether a client is alive -/

lemma Client.check_new (path : π) (dm : DevicesManager δ) : (Client.new path dm).check = true := by
  have hcheck : ∀ (devIDs : List δ) (c : Client π δ),
      (devIDs.foldl (Client.initializeDevice · dm) c).check = c.check := by
    intro devIDs
    induction devIDs with
    | nil => exact fun _ => rfl
    | cons devID devIDs ih =>
      intro c
      rw [List.foldl_cons, ih]
      rw [Client.initializeDevice]
      split_ifs <;> rfl
  exact hcheck _ _

namespace ClientsManager

variable {m m' : ClientsManager κ π δ} {clientID id : κ}

/-- The mark of a registered client. -/
def checkOf (m : ClientsManager κ π δ) (clientID : κ) : Option Bool :=
  m.connectedClients[clientID]?.map (·.check)

lemma checkOf_eq {client : Client π δ} (hclient : m.connectedClients[clientID]? = some client) :
    m.checkOf clientID = some client.isAlive := by
  rw [checkOf, hclient]
  rfl

lemma checkOf_congr (h : m'.connectedClients = m.connectedClients) (id : κ) :
    m'.checkOf id = m.checkOf id := by
  rw [checkOf, checkOf, h]

lemma checkOf_setClient (client : Client π δ) (id : κ) :
    (m.setClient clientID client).checkOf id =
      if id = clientID then some client.check else m.checkOf id := by
  simp only [checkOf, setClient, getElem?_insert_eq]
  split_ifs <;> rfl

/-- A change of a client that keeps its mark. -/
lemma checkOf_setClient_of_eq {old client : Client π δ}
    (hold : m.connectedClients[clientID]? = some old) (hcheck : client.check = old.check) (id : κ) :
    (m.setClient clientID client).checkOf id = m.checkOf id := by
  rw [checkOf_setClient]
  split_ifs with hid
  · rw [hid, checkOf, hold, hcheck]
    rfl
  · rfl

lemma unregisterClient_connectedClients (clientID : κ) :
    (m.unregisterClient clientID).1.connectedClients = m.connectedClients.erase clientID := by
  rw [unregisterClient]
  cases hclient : m.connectedClients[clientID]? with
  | none =>
    refine Std.ExtTreeMap.ext_getElem? fun id => ?_
    rw [getElem?_erase_eq]
    split_ifs with hid
    · rw [hid, hclient]
    · rfl
  | some client =>
    simp only
    split_ifs <;> rfl

lemma checkOf_unregisterClient (clientID id : κ) :
    (m.unregisterClient clientID).1.checkOf id = if id = clientID then none else m.checkOf id := by
  simp only [checkOf, unregisterClient_connectedClients, getElem?_erase_eq]
  split_ifs <;> rfl

lemma checkOf_foldl_unregisterClient (ids : List κ) (id : κ) :
    (ids.foldl (fun m clientID => (m.unregisterClient clientID).1) m).checkOf id =
      if id ∈ ids then none else m.checkOf id := by
  induction ids generalizing m with
  | nil => simp
  | cons clientID ids ih =>
    rw [List.foldl_cons, ih, checkOf_unregisterClient]
    by_cases hid : id = clientID
    · simp [hid]
    · simp [hid]

omit [LinearOrder κ] in
/-- A registration that is not refused removes the clients that are not alive. -/
lemma mem_findLostClients [DecidableEq π] {path : π} {clients : List (κ × Client π δ)} {lost : List κ}
    (hlost : findLostClients path clients = some lost) :
    id ∈ lost ↔ ∃ client, (id, client) ∈ clients ∧ ¬ client.isAlive := by
  induction clients generalizing lost with
  | nil =>
    cases hlost
    simp
  | cons c clients ih =>
    obtain ⟨clientID, client⟩ := c
    rw [findLostClients] at hlost
    by_cases halive : client.isAlive
    · simp only [halive, Bool.not_true, Bool.false_eq_true, if_false] at hlost
      split_ifs at hlost with hpath
      rw [ih hlost]
      refine exists_congr fun client' => ?_
      simp only [List.mem_cons, Prod.mk.injEq]
      refine and_congr_left fun hdead => ⟨Or.inr, ?_⟩
      rintro (⟨-, rfl⟩ | hmem)
      · exact absurd halive hdead
      · exact hmem
    · simp only [halive, Bool.not_false, if_true, Option.map_eq_some_iff] at hlost
      obtain ⟨lost', hlost', rfl⟩ := hlost
      rw [List.mem_cons, ih hlost']
      simp only [List.mem_cons, Prod.mk.injEq]
      constructor
      · rintro (rfl | ⟨client', hmem, hdead⟩)
        · exact ⟨client, Or.inl ⟨rfl, rfl⟩, halive⟩
        · exact ⟨client', Or.inr hmem, hdead⟩
      · rintro ⟨client', ⟨rfl, -⟩ | hmem, hdead⟩
        · exact Or.inl rfl
        · exact Or.inr ⟨client', hmem, hdead⟩

/-- The mark of a client tells whether it was heard since the last refusal. -/
def MarksHeard (m : ClientsManager κ π δ) (heard : List (Option κ)) : Prop :=
  ∀ clientID b, m.checkOf clientID = some b → (b ↔ HeardSince heard clientID)

variable {heard : List (Option κ)}

lemma MarksHeard.congr (h : m.MarksHeard heard) (hcheck : ∀ id, m'.checkOf id = m.checkOf id) :
    m'.MarksHeard heard := by
  intro id b hb
  rw [hcheck] at hb
  exact h id b hb

/-- A client that is heard is marked. -/
lemma MarksHeard.mark (h : m.MarksHeard heard)
    (hcheck : ∀ id, m'.checkOf id = if id = clientID then some true else m.checkOf id) :
    m'.MarksHeard (some clientID :: heard) := by
  intro id b hb
  rw [hcheck] at hb
  rw [heardSince_some]
  split_ifs at hb with hid
  · cases hb
    simp [hid]
  · simp [hid, h id b hb]

lemma checkOf_map_uncheck (m : ClientsManager κ π δ) (id : κ) :
    { m with connectedClients := m.connectedClients.map fun _ => Client.uncheck }.checkOf id =
      (m.checkOf id).map fun _ => false := by
  simp only [checkOf, Std.ExtTreeMap.getElem?_map, Option.map_map]
  rfl

lemma MarksHeard.registerClient [DecidableEq π] (h : m.MarksHeard heard) (path : π) (clientID : κ) :
    (m.registerClient path clientID).1.MarksHeard
      (m.hears (.request (.registerClient path clientID)) ++ heard) := by
  cases hlost : findLostClients path m.connectedClients.toList with
  | none =>
    simp only [hears, ClientsManager.registerClient, hlost]
    intro id b hb
    have hb' : ((m.checkOf id).map fun _ => false) = some b := by
      rw [← checkOf_map_uncheck]
      exact hb
    obtain ⟨_, -, rfl⟩ := Option.map_eq_some_iff.mp hb'
    simp [not_heardSince_none]
  | some lost =>
    have hremoved : (lost.foldl (fun m clientID => (m.unregisterClient clientID).1) m).MarksHeard
        heard := by
      intro id b hb
      rw [checkOf_foldl_unregisterClient] at hb
      split_ifs at hb
      exact h id b hb
    simp only [hears, ClientsManager.registerClient, hlost]
    cases (lost.foldl (fun m clientID => (m.unregisterClient clientID).1) m).connectedClients.contains
      clientID with
    | true => exact hremoved
    | false =>
      refine hremoved.mark fun id => ?_
      refine (checkOf_setClient _ id).trans ?_
      rw [Client.check_new]

lemma MarksHeard.updateClientState [DecidableEq π] (h : m.MarksHeard heard) (clientID : κ)
    (state : String) :
    (m.updateClientState clientID state).1.MarksHeard
      (m.hears (.request (.updateClientState clientID state)) ++ heard) := by
  by_cases hstate : state ≠ "active" ∧ state ≠ "online"
  · simp only [hears, ClientsManager.updateClientState, if_pos hstate]
    exact h
  · cases hclient : m.connectedClients[clientID]? with
    | none =>
      simp only [hears, ClientsManager.updateClientState, if_neg hstate, hclient]
      exact h
    | some client =>
      have hsnd : (m.updateClientState clientID state).2 = true := by
        simp only [ClientsManager.updateClientState, if_neg hstate, hclient]
        split_ifs <;> rfl
      have hstate' : state = "active" ∨ state = "online" := by tauto
      simp only [hears, hsnd, if_true]
      refine h.mark fun id => ?_
      rw [checkOf, (updateClientState_clients hstate' hclient).1, getElem?_insert_eq]
      split_ifs <;> rfl

/-- The requests that the client's own table answers. -/
lemma MarksHeard.onClient (h : m.MarksHeard heard) (clientID : κ)
    {op : Client π δ → Client π δ × Bool} (hop : ∀ client, (op client).1.check = client.check) :
    (m.onClient clientID op).1.MarksHeard heard := by
  rw [ClientsManager.onClient]
  cases hclient : m.connectedClients[clientID]? with
  | none => exact h
  | some client => exact h.congr (checkOf_setClient_of_eq hclient (hop client))

lemma MarksHeard.toggleClientReadyPropertie (h : m.MarksHeard heard) (clientID : κ) :
    (m.toggleClientReadyPropertie clientID).1.MarksHeard heard := by
  rw [ClientsManager.toggleClientReadyPropertie]
  cases hclient : m.connectedClients[clientID]? with
  | none => exact h
  | some client =>
    have hset : (m.setClient clientID client.toggleClientReadyPropertie).MarksHeard heard :=
      h.congr (checkOf_setClient_of_eq hclient rfl)
    simp only
    split_ifs
    · exact hset
    · exact hset

lemma MarksHeard.getDeviceProperties (h : m.MarksHeard heard) (clientID : κ) (devID : δ) :
    (m.getDeviceProperties clientID devID).1.MarksHeard heard := by
  rw [ClientsManager.getDeviceProperties]
  cases hclient : m.connectedClients[clientID]? with
  | none => exact h
  | some client =>
    simp only
    split_ifs
    · refine h.congr (checkOf_setClient_of_eq hclient ?_)
      rw [Client.initializeDevice]
      split_ifs <;> rfl
    · exact h

lemma MarksHeard.step [DecidableEq π] (h : m.MarksHeard heard) (event : DaemonEvent κ π δ) :
    (m.step event).MarksHeard (m.hears event ++ heard) := by
  cases event with
  | request r =>
    cases r with
    | registerClient path clientID => exact h.registerClient path clientID
    | updateClientState clientID state => exact h.updateClientState clientID state
    | unregisterClient clientID =>
      intro id b hb
      rw [show (m.step (.request (.unregisterClient clientID))) = (m.unregisterClient clientID).1 from
        rfl, checkOf_unregisterClient] at hb
      split_ifs at hb
      exact h id b hb
    | toggleClientReadyPropertie clientID => exact h.toggleClientReadyPropertie clientID
    | deleteDeviceConfiguration clientID devID =>
      refine h.onClient clientID fun client => ?_
      rw [Client.deleteDevice]
      split_ifs <;> rfl
    | stopDevice clientID devID => exact h.congr (checkOf_congr (stopDevice_clients clientID devID).1)
    | startDevice clientID devID result =>
      exact h.congr (checkOf_congr (startDevice_clients clientID devID result).1)
    | restartDevice clientID devID result =>
      exact h.congr (checkOf_congr (restartDevice_clients clientID devID result).1)
    | getDeviceProperties clientID devID => exact h.getDeviceProperties clientID devID
    | setDeviceBacklightColor clientID devID color =>
      refine h.onClient clientID fun client => ?_
      rw [Client.setDeviceBacklightColor]
      split <;> rfl
    | setDeviceLCDPluginsMask clientID devID maskID mask =>
      refine h.onClient clientID fun client => ?_
      rw [Client.setDeviceLCDPluginsMask]
      split
      · rfl
      · split_ifs <;> rfl
    | _ => exact h
  | _ => exact h

end ClientsManager

/-! ### Registrations that remove no living client -/

namespace Sessions

variable {s : Sessions κ π δ}

def Marked (s : Sessions κ π δ) : Prop := s.daemon.MarksHeard s.heard

lemma Marked.step [DecidableEq π] (h : s.Marked) (event : SessionsEvent κ π δ) :
    (s.step event).Marked := by
  have hhandle : ∀ {s : Sessions κ π δ} (event : DaemonEvent κ π δ), s.Marked →
      (s.handle event).Marked := fun event hs => ClientsManager.MarksHeard.step hs event
  cases event with
  | daemon event => exact hhandle event h
  | reportYourself clientID state =>
    simp only [Sessions.step]
    split_ifs <;> exact h
  | answer clientID =>
    simp only [Sessions.step]
    split
    · exact h
    · exact hhandle _ h
  | crash clientID => exact h

/-- A registration that is not refused removes who was not heard since the last refusal. -/
lemma keepsLiving_iff [DecidableEq π] (h : s.Marked) (event : SessionsEvent κ π δ) :
    s.KeepsLiving event ↔ s.AllHeard event := by
  simp only [KeepsLiving, AllHeard]
  split
  · rename_i path id
    cases hlost : ClientsManager.findLostClients path s.daemon.connectedClients.toList with
    | none =>
      simp [ClientsManager.removedClients, hlost, ClientsManager.hears,
        ClientsManager.registerClient]
    | some lost =>
      have hnot : s.daemon.hears (.request (.registerClient path id)) ≠ [none] := by
        simp only [ClientsManager.hears, ClientsManager.registerClient, hlost]
        cases (lost.foldl (fun m clientID => (m.unregisterClient clientID).1)
          s.daemon).connectedClients.contains id <;> simp
      simp only [ne_eq, hnot, not_false_eq_true, forall_true_left, ClientsManager.removedClients,
        hlost, Option.getD_some]
      refine forall₂_congr fun clientID client => forall₃_congr fun hclient _ _ => ?_
      rw [← h clientID _ (ClientsManager.checkOf_eq hclient), ClientsManager.mem_findLostClients hlost]
      simp [Std.ExtTreeMap.mem_toList_iff_getElem?_eq_some, hclient]
  · exact Iff.rfl

lemma KeepsLiving.notMem_of_any [DecidableEq π] {path : π} {id : κ} (clientID : κ)
    (h : s.KeepsLiving (.daemon (.request (.registerClient path id))))
    (hclient : s.daemon.connectedClients[clientID]?.any fun client =>
      decide (client.sessionObjectPath ≠ path)) (hlost : s.lost clientID = false) :
    clientID ∉ s.daemon.removedClients (.request (.registerClient path id)) := by
  simp only [Option.any_eq_true, decide_eq_true_eq] at hclient
  obtain ⟨client, hclient, hpath⟩ := hclient
  exact h clientID client hclient hlost hpath

end Sessions

/-- From the start of the daemon on, no registration removes a living client of another session,
exactly when each registration that is not refused finds that all of them were heard since the last
refusal. -/
theorem keepsLiving_iff_allHeard [DecidableEq π] (driverID : UInt16) (found : List (USBDeviceID δ))
    (opens : δ → OpenResult) (events : List (SessionsEvent κ π δ)) :
    Run.Steps Sessions.step (fun s event => s.KeepsLiving event)
        { daemon := startMonitoring driverID found opens } events ↔
      Run.Steps Sessions.step (fun s event => s.AllHeard event)
        { daemon := startMonitoring driverID found opens } events := by
  have hstart : Sessions.Marked
      { daemon := startMonitoring (κ := κ) (π := π) driverID found opens } := by
    intro clientID b hb
    simp [ClientsManager.checkOf, startMonitoring] at hb
  exact Run.steps_congr hstart (fun _ event hs => hs.step event)
    (fun _ event hs => Sessions.keepsLiving_iff hs event) events

/-- Two clients have answered, and a third session registers before the answers arrive. -/
theorem not_keepsLiving_answers_in_flight :
    ¬ Run.Steps Sessions.step (fun s event => s.KeepsLiving event)
      { daemon := startMonitoring (κ := ℕ) (π := ℕ) (δ := ℕ) 0 [] fun _ => .opened }
      [.daemon (.request (.registerClient 0 0)), .daemon (.request (.registerClient 1 1)),
        .daemon (.request (.registerClient 0 2)),
        .reportYourself 0 "active", .reportYourself 1 "online",
        .daemon (.request (.registerClient 2 2)), .answer 0, .answer 1] := by
  rintro ⟨-, -, -, -, -, hkeeps, -⟩
  exact Sessions.KeepsLiving.notMem_of_any 1 hkeeps (by decide +kernel) rfl (by decide +kernel)

end GLogiK
