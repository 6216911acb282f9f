import GLogiK.Service.System

/-!
# The statuses that a service knows

When a service has handled every status signal, its containers should agree with the daemon's
statuses of the devices it knows. A signal follows every change of a status but those of a suspend
and of a resume.
-/

namespace GLogiK

variable {κ π δ : Type*} [LinearOrder κ] [LinearOrder δ]

/-- The task is about the device, and leads to a query of its status. -/
def ServiceTask.Tells (devID : δ) (status : DevicesManager.DeviceStatus) : ServiceTask δ → Prop
  | .signal s            => s.Tells devID status
  | .deviceStarted id    => status = .started ∧ id = devID
  | .deviceStopped id    => status = .stopped ∧ id = devID
  | .deviceUnplugged id  => status = .unplugged ∧ id = devID
  | _                    => False

namespace System

variable (s : System κ π δ)

/-- A task is waiting that tells the status of the device. -/
def Waits (devID : δ) (status : DevicesManager.DeviceStatus) : Prop :=
  ∃ task ∈ s.tasks, task.Tells devID status

/-- The status of the device in the daemon. -/
def status (devID : δ) : DevicesManager.DeviceStatus := (s.daemon.devicesManager.view devID).status

/-- The containers of the service agree with the status of the device. -/
def Agrees (devID : δ) : Prop :=
  (s.devices.startedDevices[devID]?.isSome → s.daemon.devicesManager.getDeviceStatus devID = .started) ∧
    (s.devices.stoppedDevices[devID]?.isSome →
      s.daemon.devicesManager.getDeviceStatus devID = .stopped)

/-- If no task that tells a status is waiting, the containers agree with all statuses. -/
def AgreesWhenHandled : Prop :=
  (∀ devID status, ¬ s.Waits devID status) → ∀ devID, s.Agrees devID

/-- The event tells the service what it changes. A suspend stops the started devices and a resume
opens sleeping devices without a signal: the service must not hold such a device as started, or as
stopped, unless a signal that tells the new status is still to be handled. The number of clients is
a byte, and no signal is sent when it is zero. -/
def ToldStatuses : SystemEvent κ π δ → Prop
  | .daemon (.handleSleepEvent true _) =>
    ∀ devID, (s.daemon.devicesManager.view devID).started.isSome →
      s.devices.startedDevices[devID]? = none ∨ s.Waits devID .stopped
  | .daemon (.handleSleepEvent false opens) =>
    ∀ devID ∈ s.daemon.devicesManager.sleepingDevices,
      (s.daemon.devicesManager.view devID).stopped.isSome → opens devID = .opened →
      s.devices.stoppedDevices[devID]? = none ∨ s.Waits devID .started
  | .daemon event => event.ChangesStatuses → s.daemon.numClients ≠ 0
  | _ => True

variable {s}

/-! ### The invariant -/

/-- The containers agree with the status of the device, or the service will be told. -/
def Settles (s : System κ π δ) (devID : δ) : Prop :=
  ((s.devices.startedDevices[devID]?.isSome → s.status devID = .started) ∧
    (s.devices.stoppedDevices[devID]?.isSome → s.status devID = .stopped)) ∨
  s.Waits devID (s.status devID)

lemma Settles.agrees {devID : δ} (h : s.Settles devID)
    (hwaits : ∀ devID status, ¬ s.Waits devID status) : s.Agrees devID := by
  have hagrees := h.resolve_right (hwaits devID _)
  simp only [Agrees, DevicesManager.getDeviceStatus_eq]
  exact hagrees

/-- The status and the containers stay, and what told the status still does. -/
lemma Settles.congr {s' : System κ π δ} {devID : δ} (h : s.Settles devID)
    (hstarted : s'.devices.startedDevices[devID]?.isSome = s.devices.startedDevices[devID]?.isSome)
    (hstopped : s'.devices.stoppedDevices[devID]?.isSome = s.devices.stoppedDevices[devID]?.isSome)
    (hstatus : s'.status devID = s.status devID)
    (hwaits : s.Waits devID (s.status devID) → s'.Waits devID (s.status devID)) :
    s'.Settles devID := by
  rcases h with hagrees | htold
  · refine Or.inl ?_
    rw [hstarted, hstopped, hstatus]
    exact hagrees
  · refine Or.inr ?_
    rw [hstatus]
    exact hwaits htold

/-! ### Events of the daemon -/

lemma Waits.daemonStep [DecidableEq π] {devID : δ} {status : DevicesManager.DeviceStatus}
    (h : s.Waits devID status) (event : DaemonEvent κ π δ) :
    (s.daemonStep event).Waits devID status := by
  obtain ⟨task, htask, htells⟩ := h
  exact ⟨task, List.mem_append_left _ htask, htells⟩

/-- Every status that changes is told. -/
lemma settles_daemonStep [DecidableEq π] {event : DaemonEvent κ π δ} (h : ∀ devID, s.Settles devID)
    (htells : DevicesManager.TellsChanges s.daemon.devicesManager
      (s.daemon.step event).devicesManager) (devID : δ) :
    (s.daemonStep event).Settles devID := by
  by_cases hstatus : (s.daemonStep event).status devID = s.status devID
  · exact (h devID).congr rfl rfl hstatus fun hwaits => hwaits.daemonStep event
  · obtain ⟨signal, hsignal, htold⟩ := htells devID hstatus
    refine Or.inr ⟨.signal signal, ?_, htold⟩
    exact List.mem_append_right _ (List.mem_map_of_mem hsignal)

/-- The requests of the handlers change no status. -/
lemma settles_request [DecidableEq π] (hm : ReachableDaemon s.daemon)
    (h : ∀ devID, s.Settles devID) {r : Request κ π δ}
    (hr : ¬ (DaemonEvent.request r).ChangesStatuses) (devID : δ) :
    (s.daemonStep (.request r)).Settles devID :=
  settles_daemonStep h (ClientsManager.tellsChanges_step hm.intact hm.steady (absurd · hr) nofun) devID

lemma status_daemonStep [DecidableEq π] (hm : s.daemon.devicesManager.Intact)
    (event : DaemonEvent κ π δ) (devID : δ) : (s.daemonStep event).status devID =
      (s.daemon.viewStep devID (s.daemon.devicesManager.view devID) event).status := by
  rw [← (ClientsManager.moves_step hm event).view]
  rfl

/-- A suspend stops devices that the service does not hold as started, or that it is told about. -/
lemma settles_suspend [DecidableEq π] (hm : s.daemon.devicesManager.Intact)
    (h : ∀ devID, s.Settles devID) {opens : δ → OpenResult}
    (htold : s.ToldStatuses (.daemon (.handleSleepEvent true opens))) (devID : δ) :
    (s.daemonStep (.handleSleepEvent true opens)).Settles devID := by
  have hstatus := status_daemonStep hm (.handleSleepEvent true opens) devID
  rw [ClientsManager.viewStep] at hstatus
  cases hstarted : (s.daemon.devicesManager.view devID).started with
  | none =>
    rw [DeviceView.stop_of_not_started hstarted] at hstatus
    exact (h devID).congr rfl rfl hstatus fun hwaits => hwaits.daemonStep _
  | some det =>
    have hsome : (s.daemon.devicesManager.view devID).started.isSome := by rw [hstarted]; rfl
    rw [DeviceView.stop_status hsome] at hstatus
    rcases htold devID hsome with hnone | hwaits
    · refine Or.inl ⟨fun hheld => ?_, fun _ => hstatus⟩
      rw [show (s.daemonStep (.handleSleepEvent true opens)).devices = s.devices from rfl,
        hnone] at hheld
      cases hheld
    · refine Or.inr ?_
      rw [hstatus]
      exact hwaits.daemonStep _

/-- A resume starts devices that the service does not hold as stopped, or that it is told about. -/
lemma settles_resume [DecidableEq π] (hm : s.daemon.devicesManager.Intact)
    (h : ∀ devID, s.Settles devID) {opens : δ → OpenResult}
    (htold : s.ToldStatuses (.daemon (.handleSleepEvent false opens))) (devID : δ) :
    (s.daemonStep (.handleSleepEvent false opens)).Settles devID := by
  have hstatus := status_daemonStep hm (.handleSleepEvent false opens) devID
  rw [ClientsManager.viewStep] at hstatus
  have hkeep : (s.daemonStep (.handleSleepEvent false opens)).status devID = s.status devID →
      (s.daemonStep (.handleSleepEvent false opens)).Settles devID :=
    fun hsame => (h devID).congr rfl rfl hsame fun hwaits => hwaits.daemonStep _
  split_ifs at hstatus with hsleeping
  · cases hstopped : (s.daemon.devicesManager.view devID).stopped.isSome with
    | false =>
      rw [DeviceView.start_of_not_stopped (by simpa using hstopped)] at hstatus
      exact hkeep hstatus
    | true =>
      rw [(hm.views devID).start_status hstopped] at hstatus
      split_ifs at hstatus with hopened
      · rcases htold devID hsleeping hstopped hopened with hnone | hwaits
        · refine Or.inl ⟨fun _ => hstatus, fun hheld => ?_⟩
          rw [show (s.daemonStep (.handleSleepEvent false opens)).devices = s.devices from rfl,
            hnone] at hheld
          cases hheld
        · refine Or.inr ?_
          rw [hstatus]
          exact hwaits.daemonStep _
      · exact hkeep hstatus
  · exact hkeep hstatus

/-- An event of the daemon that meets the condition. -/
lemma settles_daemon [DecidableEq π] (hm : ReachableDaemon s.daemon)
    (h : ∀ devID, s.Settles devID) {event : DaemonEvent κ π δ}
    (htold : s.ToldStatuses (.daemon event)) (devID : δ) : (s.daemonStep event).Settles devID := by
  by_cases hsleep : ∃ mode opens, event = .handleSleepEvent mode opens
  · obtain ⟨mode, opens, rfl⟩ := hsleep
    cases mode with
    | true => exact settles_suspend hm.intact h htold devID
    | false => exact settles_resume hm.intact h htold devID
  · push Not at hsleep
    refine settles_daemonStep h (ClientsManager.tellsChanges_step hm.intact hm.steady ?_ hsleep) devID
    cases event with
    | handleSleepEvent mode opens => exact absurd rfl (hsleep mode opens)
    | _ => exact htold

/-! ### Tasks of the service -/

lemma Registered.getDeviceStatus_eq (h : s.Registered) (devID : δ) :
    s.getDeviceStatus devID = s.status devID := by
  have hcontains : s.daemon.connectedClients.contains s.clientID = true := h
  simp only [getDeviceStatus, ClientsManager.getDeviceStatus, ClientsManager.answer, hcontains,
    if_true, DevicesManager.getDeviceStatus_eq, status]

lemma Settles.push {devID : δ} (h : s.Settles devID) (tasks : List (ServiceTask δ)) :
    (s.push tasks).Settles devID := by
  refine h.congr rfl rfl rfl ?_
  rintro ⟨task, htask, htells⟩
  exact ⟨task, List.mem_append_right _ htask, htells⟩

/-- The first task is done, and did not tell the status. -/
lemma Settles.tail {devID : δ} {task : ServiceTask δ} {tasks : List (ServiceTask δ)}
    (h : s.Settles devID) (htasks : s.tasks = task :: tasks)
    (htask : ¬ task.Tells devID (s.status devID)) : { s with tasks := tasks }.Settles devID := by
  refine h.congr rfl rfl rfl ?_
  rintro ⟨task', htask', htells⟩
  rw [htasks] at htask'
  rcases List.mem_cons.mp htask' with rfl | hmem
  · exact absurd htells htask
  · exact ⟨task', hmem, htells⟩

/-- A status signal is split into one task for each device. -/
lemma Settles.split {devID : δ} {task : ServiceTask δ} {tasks : List (ServiceTask δ)}
    (h : s.Settles devID) (htasks : s.tasks = task :: tasks) (tasks' : List (ServiceTask δ))
    (hsplit : task.Tells devID (s.status devID) →
      ∃ task' ∈ tasks', task'.Tells devID (s.status devID)) :
    ({ s with tasks := tasks }.push tasks').Settles devID := by
  by_cases htask : task.Tells devID (s.status devID)
  · obtain ⟨task', htask', htells⟩ := hsplit htask
    exact Or.inr ⟨task', List.mem_append_left _ htask', htells⟩
  · exact (h.tail htasks htask).push tasks'

/-- The status of one device is queried, and the device is filed under it. -/
lemma Settles.query {devID id : δ} {task : ServiceTask δ} {tasks : List (ServiceTask δ)}
    {status : DevicesManager.DeviceStatus} {devices : DevicesHandler δ} (h : s.Settles devID)
    (hregistered : s.Registered) (htasks : s.tasks = task :: tasks)
    (htask : ∀ status', task.Tells devID status' → status' = status ∧ id = devID)
    (hframe : devID ≠ id → devices.startedDevices[devID]? = s.devices.startedDevices[devID]? ∧
      devices.stoppedDevices[devID]? = s.devices.stoppedDevices[devID]?)
    (hfiled : (devices.startedDevices[id]?.isSome → status = .started) ∧
      (devices.stoppedDevices[id]?.isSome → status = .stopped)) :
    (if { s with tasks := tasks }.getDeviceStatus id = status then { s with tasks := tasks, devices }
      else { s with tasks := tasks }).Settles devID := by
  have hstatus : { s with tasks := tasks }.getDeviceStatus id = s.status id :=
    hregistered.getDeviceStatus_eq id
  rw [hstatus]
  by_cases hid : id = devID
  · subst hid
    split_ifs with hsame
    · rw [← hsame] at hfiled
      exact Or.inl hfiled
    · exact h.tail htasks fun htells => hsame (htask _ htells).1
  · have htail := h.tail htasks fun htells => hid (htask _ htells).2
    split_ifs
    · obtain ⟨hstarted, hstopped⟩ := hframe (Ne.symm hid)
      exact htail.congr (congrArg _ hstarted) (congrArg _ hstopped) rfl fun hwaits => hwaits
    · exact htail

lemma sameDevices_deviceSignal (signal : DeviceSignal δ) :
    s.devices.SameDevices (s.deviceSignal signal) := by
  simp only [deviceSignal]
  split_ifs
  · exact DevicesHandler.sameBanks_refl.1
  · cases signal with
    | deviceMBankSwitch devID bankID =>
      exact DevicesHandler.sameDevices_setDeviceCurrentBankID bankID
    | deviceMacroRecorded devID keyID events =>
      exact (DevicesHandler.sameBanks_setDeviceMacro keyID events).1
    | deviceMacroCleared devID keyID => exact (DevicesHandler.sameBanks_clearDeviceMacro keyID).1
    | deviceGKeyEvent devID keyID => exact DevicesHandler.sameBanks_refl.1

/-- A task that tells no status is taken from the queue. -/
lemma settles_tail {task : ServiceTask δ} {tasks : List (ServiceTask δ)}
    (h : ∀ devID, s.Settles devID) (htasks : s.tasks = task :: tasks)
    (htask : ∀ devID status, ¬ task.Tells devID status) (devID : δ) :
    { s with tasks := tasks }.Settles devID :=
  (h devID).tail htasks (htask devID _)

/-- The service handles its next task. -/
lemma settles_handle [DecidableEq π] (hm : ReachableDaemon s.daemon) (hregistered : s.Registered)
    (h : ∀ devID, s.Settles devID) (loaded : δ → DeviceConfiguration) (devID : δ) :
    (s.handle loaded).Settles devID := by
  cases htasks : s.tasks with
  | nil =>
    simp only [handle, htasks]
    exact h devID
  | cons task tasks =>
    simp only [handle, htasks]
    -- the requests that a handler sends change no status
    have hrequest : ∀ r : Request κ π δ, ¬ (DaemonEvent.request r).ChangesStatuses →
        (∀ devID status, ¬ task.Tells devID status) →
        ({ s with tasks := tasks }.daemonStep (.request r)).Settles devID :=
      fun r hr htask => settles_request (s := { s with tasks := tasks }) hm
        (settles_tail h htasks htask) hr devID
    cases task with
    | signal signal =>
      cases signal with
      | device signal =>
        have hsame := sameDevices_deviceSignal (s := { s with tasks := tasks }) signal devID
        have htail : { s with tasks := tasks }.Settles devID :=
          settles_tail h htasks (fun _ _ => id) devID
        exact htail.congr hsame.1 hsame.2 rfl fun hwaits => hwaits
      | devicesStarted devIDs =>
        refine (h devID).split htasks _ ?_
        rintro ⟨hstatus, hmem⟩
        exact ⟨.deviceStarted devID, List.mem_append_left _ (List.mem_map_of_mem hmem), hstatus, rfl⟩
      | devicesStopped devIDs =>
        refine (h devID).split htasks _ ?_
        rintro ⟨hstatus, hmem⟩
        exact ⟨.deviceStopped devID, List.mem_map_of_mem hmem, hstatus, rfl⟩
      | devicesUnplugged devIDs =>
        refine (h devID).split htasks _ ?_
        rintro ⟨hstatus, hmem⟩
        exact ⟨.deviceUnplugged devID, List.mem_map_of_mem hmem, hstatus, rfl⟩
      | daemonIsStarting => exact settles_tail h htasks (fun _ _ => id) devID
      | reportYourself => exact hrequest _ id fun _ _ => id
    | deviceStarted id =>
      refine (h devID).query hregistered htasks (fun _ htells => htells) (fun hid => ?_) ?_
      · rw [DevicesHandler.startDevice_started, DevicesHandler.startDevice_stopped, if_neg hid,
          if_neg hid]
        exact ⟨rfl, rfl⟩
      · simp [DevicesHandler.startDevice_stopped]
    | deviceStopped id =>
      refine (h devID).query hregistered htasks (fun _ htells => htells) (fun hid => ?_) ?_
      · rw [DevicesHandler.stopDevice_started, DevicesHandler.stopDevice_stopped, if_neg hid,
          if_neg hid]
        exact ⟨rfl, rfl⟩
      · simp [DevicesHandler.stopDevice_started]
    | deviceUnplugged id =>
      refine (h devID).query hregistered htasks (fun _ htells => htells) (fun hid => ?_) ?_
      · rw [DevicesHandler.unplugDevice_started, DevicesHandler.unplugDevice_stopped, if_neg hid,
          if_neg hid]
        exact ⟨rfl, rfl⟩
      · simp [DevicesHandler.unplugDevice_started, DevicesHandler.unplugDevice_stopped]
    | reportActive =>
      simp only [handleTask]
      split_ifs
      · exact hrequest _ id fun _ _ => id
      · exact settles_tail h htasks (fun _ _ => id) devID
    | reportChangedState => exact hrequest _ id fun _ _ => id
    | getStartedDevices =>
      exact (h devID).split htasks _ (absurd · id)
    | toggleClientReadyPropertie => exact hrequest _ id fun _ _ => id
    | getStoppedDevices =>
      exact (h devID).split htasks _ (absurd · id)

/-! ### Runs -/

/-- The daemon is reachable, and each device settles. -/
def Settled [DecidableEq π] (s : System κ π δ) : Prop :=
  ReachableDaemon s.daemon ∧ ∀ devID, s.Settles devID

lemma Settled.step [DecidableEq π] (h : s.Settled) {event : SystemEvent κ π δ}
    (hregistered : s.Registered) (htold : s.ToldStatuses event) : (s.step event).Settled := by
  obtain ⟨hm, hsettles⟩ := h
  refine ⟨reachableDaemon_step hm event, ?_⟩
  cases event with
  | daemon event => exact settles_daemon hm hsettles htold
  | handle loaded => exact settles_handle hm hregistered hsettles loaded
  | updateSessionState state => exact fun devID => (hsettles devID).push _

lemma settled_start [DecidableEq π] {daemon : ClientsManager κ π δ} (hm : ReachableDaemon daemon)
    (clientID : κ) (sessionState : String) :
    (System.start daemon clientID sessionState).Settled :=
  ⟨hm, fun devID => Or.inl ⟨by simp [System.start], by simp [System.start]⟩⟩

end System

/-- In a run in which the service stays registered and is told every status that changes, its
containers agree with the statuses whenever it has handled them all. -/
theorem agreesWhenHandled_of_toldStatuses [DecidableEq π] {daemon : ClientsManager κ π δ}
    (hm : ReachableDaemon daemon) (clientID : κ) (sessionState : String)
    {events : List (SystemEvent κ π δ)}
    (htold : Run.Steps System.step (fun s event => s.Registered ∧ s.ToldStatuses event)
      (System.start daemon clientID sessionState) events) :
    (Run.run System.step (System.start daemon clientID sessionState) events).AgreesWhenHandled := by
  have hstep : ∀ (s : System κ π δ) (event : SystemEvent κ π δ), s.Settled →
      s.Registered ∧ s.ToldStatuses event → (s.step event).Settled :=
    fun s event hs htold => hs.step htold.1 htold.2
  have hsettled := htold.induction (System.settled_start hm clientID sessionState) hstep
  exact fun hwaits devID => (hsettled.2 devID).agrees hwaits

/-- A daemon with one device and one client. -/
def daemonOfOne : ClientsManager ℕ ℕ ℕ :=
  Run.run ClientsManager.step (startMonitoring 0
    [{ devID := 0, capabilities := 15, driverID := 0, GKeysTransferLength := 5 }] fun _ => .opened)
    [.request (.registerClient 0 0), .request (.updateClientState 0 "active")]

lemma reachable_daemonOfOne : ReachableDaemon daemonOfOne := ⟨0, _, _, _, rfl⟩

/-- The service starts, and the client stops the device. -/
theorem agreesWhenHandled_stopDevice :
    (Run.run System.step (System.start daemonOfOne 0 "active")
      [.handle fun _ => {}, .handle fun _ => {}, .handle fun _ => {}, .handle fun _ => {},
        .daemon (.request (.stopDevice 0 0)), .handle fun _ => {}]).AgreesWhenHandled :=
  agreesWhenHandled_of_toldStatuses reachable_daemonOfOne 0 "active"
    ⟨⟨by decide +kernel, trivial⟩, ⟨by decide +kernel, trivial⟩, ⟨by decide +kernel, trivial⟩,
      ⟨by decide +kernel, trivial⟩, ⟨by decide +kernel, fun _ => by decide +kernel⟩,
      ⟨by decide +kernel, trivial⟩, trivial⟩

/-- The service starts, the computer sleeps and wakes up, and the device can't be opened again: the
service goes on holding it as started. -/
theorem not_agreesWhenHandled_resume :
    let events : List (SystemEvent ℕ ℕ ℕ) :=
      List.replicate 5 (.handle fun _ => {}) ++
        [.daemon (.handleSleepEvent true fun _ => .opened),
          .daemon (.handleSleepEvent false fun _ => .openFails)]
    let s := System.start daemonOfOne 0 "active"
    Run.Steps System.step (fun s _ => s.Registered) s events ∧
      ¬ (Run.run System.step s events).AgreesWhenHandled := by
  intro events s
  refine ⟨by decide +kernel, fun h => ?_⟩
  have htasks : (Run.run System.step s events).tasks = [] := by decide +kernel
  have hagrees := h (fun devID status ⟨task, htask, _⟩ => by rw [htasks] at htask; cases htask) 0
  have hstopped := hagrees.1 (by decide +kernel)
  revert hstopped
  decide +kernel

end GLogiK
