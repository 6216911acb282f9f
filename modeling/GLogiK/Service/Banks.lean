import GLogiK.Daemon.BankSwitches
import GLogiK.Service.Statuses

/-!
# The current banks of a service

The daemon shows the bank of a started device on its leds, and the service keeps the current bank
of the device for itself: `DeviceMBankSwitch` is all that it hears of the other.
-/

namespace GLogiK

variable {κ π δ : Type*} [LinearOrder κ] [LinearOrder δ]

/-- The bank that the task switches the device to. -/
def ServiceTask.switchOf (devID : δ) : ServiceTask δ → Option MKeysID
  | .signal s => s.switchOf devID
  | _         => none

namespace System

variable (s : System κ π δ)

/-- The switches of the device that the service has still to handle. -/
def switches (devID : δ) : List MKeysID := s.tasks.filterMap (ServiceTask.switchOf devID)

/-- The bank the service will come to if it applies all switches. -/
def lastBank (devID : δ) : MKeysID := (s.switches devID).getLastD (s.devices.bank devID)

/-- When all signals are handled, the current banks that the service has are the ones that the
started devices show. -/
def BanksAgree : Prop :=
  s.tasks = [] → ∀ devID device, (s.daemon.devicesManager.view devID).device = some device →
    ∀ properties, s.devices.properties devID = some properties →
      properties.currentBankID = shownBank device.MxKeysLedsMask

/-- The event of the daemon that an event of the system leads to. -/
def daemonEvent : SystemEvent κ π δ → Option (DaemonEvent κ π δ)
  | .daemon event         => some event
  | .handle _             =>
    match s.tasks with
    | .reportChangedState :: _ | .signal .reportYourself :: _ =>
      some (.request (.updateClientState s.clientID s.sessionState))
    | .reportActive :: _               =>
      if s.sessionState = "active" then
        some (.request (.updateClientState s.clientID s.sessionState))
      else none
    | .toggleClientReadyPropertie :: _ => some (.request (.toggleClientReadyPropertie s.clientID))
    | _                                => none
  | .updateSessionState _ => none

/-- The event of the daemon turns no leds off behind the back of the service: it resets devices only
when their leds are off, and opens a device only when the service will be in bank M0 after the
switches that were sent and the ones that closing the device sends. -/
def KeepsLeds [DecidableEq π] (event : DaemonEvent κ π δ) : Prop :=
  (s.daemon.resets event → ∀ devID device,
    (s.daemon.devicesManager.view devID).device = some device →
      shownBank device.MxKeysLedsMask = .m0) ∧
  ∀ devID, (s.daemon.opens devID event).isSome →
    (s.daemon.devicesManager.view devID).closingSwitches.getLastD (s.lastBank devID) = .m0

/-- The switch that is handled next is applied, or another one follows, or it changes nothing. -/
def AppliesSwitch : Prop :=
  ∀ devID bankID tasks, s.tasks = .signal (.device (.deviceMBankSwitch devID bankID)) :: tasks →
    (s.daemon.devicesManager.view devID).started.isSome →
      (s.sessionState = "active" ∧ s.devices.startedDevices[devID]?.isSome) ∨
      tasks.filterMap (ServiceTask.switchOf devID) ≠ [] ∨ s.devices.bank devID = bankID

def KeepsBanks [DecidableEq π] (event : SystemEvent κ π δ) : Prop :=
  (∀ daemonEvent ∈ s.daemonEvent event, s.KeepsLeds daemonEvent) ∧
    ∀ loaded, event = .handle loaded → s.AppliesSwitch

variable {s}

/-! ### The invariant -/

/-- The bank the service will come to is the one that the device shows. -/
def Tracks (s : System κ π δ) (devID : δ) : Prop :=
  (s.daemon.devicesManager.view devID).started.isSome →
    s.lastBank devID = (s.daemon.devicesManager.view devID).shown

lemma banksAgree_of_tracks (h : ∀ devID, s.Tracks devID) : s.BanksAgree := by
  intro htasks devID device hdevice properties hproperties
  have hlast := h devID (DeviceView.started_of_device hdevice)
  rw [DeviceView.shown_of_device hdevice] at hlast
  simpa [lastBank, switches, htasks, DevicesHandler.bank, hproperties] using hlast

/-- The daemon and the bank stay as they are. -/
lemma Tracks.congr {s' : System κ π δ} {devID : δ} (h : s.Tracks devID)
    (hdaemon : s'.daemon = s.daemon) (hlast : s'.lastBank devID = s.lastBank devID) :
    s'.Tracks devID := by
  rw [Tracks, hdaemon, hlast]
  exact h

/-! ### Events of the daemon -/

/-- The signals of an event add their switches to the ones that wait. -/
lemma switches_daemonStep [DecidableEq π] {event : DaemonEvent κ π δ} {devID : δ}
    (hm : s.daemon.devicesManager.Intact) :
    ∃ new, (s.daemonStep event).switches devID = s.switches devID ++ new ∧
      ((s.daemon.step event).devicesManager.view devID).switches =
        (s.daemon.devicesManager.view devID).switches ++ new := by
  obtain ⟨new, hnew⟩ := (ClientsManager.moves_step hm event).sent
  refine ⟨new.filterMap (BusSignal.switchOf devID), ?_, ?_⟩
  · simp only [switches, daemonStep, DevicesManager.newSignals, ← hnew, List.drop_left,
      List.filterMap_append, List.filterMap_map]
    rfl
  · simp only [DevicesManager.view, ← hnew, List.filterMap_append]

lemma tracks_daemonStep [DecidableEq π] (hm : s.daemon.devicesManager.Intact)
    (h : ∀ devID, s.Tracks devID) {event : DaemonEvent κ π δ} (hleds : s.KeepsLeds event)
    (devID : δ) : (s.daemonStep event).Tracks devID := by
  intro hstarted
  obtain ⟨new, hswitches, hview⟩ :
      ∃ new, (s.daemonStep event).switches devID = s.switches devID ++ new ∧
        ((s.daemon.step event).devicesManager.view devID).switches =
          (s.daemon.devicesManager.view devID).switches ++ new := switches_daemonStep hm
  have hresets : s.daemon.resets event → (s.daemon.devicesManager.view devID).started.isSome →
      (s.daemon.devicesManager.view devID).shown = .m0 :=
    fun hresets => DeviceView.shown_eq_m0 (hleds.1 hresets devID)
  have hfollows := ClientsManager.follows_viewStep (hm.views devID) rfl (h devID) hresets
    (hleds.2 devID)
  rw [← (ClientsManager.moves_step hm event).view] at hfollows
  rw [lastBank, hswitches, getLastD_append]
  exact hfollows.switches hview hstarted

/-- An event that neither resets nor opens a device. -/
lemma keepsLeds_of_quiet [DecidableEq π] {event : DaemonEvent κ π δ}
    (hresets : ¬ s.daemon.resets event) (hopens : ∀ devID, s.daemon.opens devID event = none) :
    s.KeepsLeds event := by
  refine ⟨fun hreset => absurd hreset hresets, fun devID hopen => ?_⟩
  rw [hopens devID] at hopen
  cases hopen

/-! ### Tasks of the service -/

lemma KeepsLeds.congr [DecidableEq π] {s' : System κ π δ} {event : DaemonEvent κ π δ}
    (h : s.KeepsLeds event) (hdaemon : s'.daemon = s.daemon)
    (hlast : ∀ devID, s'.lastBank devID = s.lastBank devID) : s'.KeepsLeds event := by
  simp only [KeepsLeds, hdaemon, hlast]
  exact h

/-- A task that is no bank switch is taken from the queue. -/
lemma lastBank_tail {task : ServiceTask δ} {tasks : List (ServiceTask δ)}
    (htasks : s.tasks = task :: tasks) {devID : δ} (htask : task.switchOf devID = none) :
    { s with tasks := tasks }.lastBank devID = s.lastBank devID := by
  simp [lastBank, switches, htasks, htask]

/-- Tasks that are no bank switches are put in the queue. -/
lemma lastBank_push {tasks : List (ServiceTask δ)} {devID : δ}
    (htasks : ∀ task ∈ tasks, task.switchOf devID = none) :
    (s.push tasks).lastBank devID = s.lastBank devID := by
  have hnil : tasks.filterMap (ServiceTask.switchOf devID) = [] :=
    List.filterMap_eq_nil_iff.mpr htasks
  simp [lastBank, switches, push, hnil]

lemma switchOf_startTasks (devIDs : List δ) {devID : δ} :
    ∀ task ∈ devIDs.map ServiceTask.deviceStarted ++ [.reportActive], task.switchOf devID = none := by
  intro task htask
  rcases List.mem_append.mp htask with hmap | hlast
  · obtain ⟨id, -, rfl⟩ := List.mem_map.mp hmap
    rfl
  · rw [List.mem_singleton.mp hlast]
    rfl

/-- The switches that wait stay, and so does the current bank. -/
lemma lastBank_devices {devices : DevicesHandler δ} {devID : δ}
    (hbank : devices.bank devID = s.devices.bank devID) :
    { s with devices }.lastBank devID = s.lastBank devID := by
  simp only [lastBank, hbank]
  rfl

/-- A bank switch is applied, or skipped without harm. -/
lemma lastBank_switch {devID : δ} {bankID : MKeysID} {tasks : List (ServiceTask δ)}
    (htasks : s.tasks = .signal (.device (.deviceMBankSwitch devID bankID)) :: tasks)
    (happlies : s.AppliesSwitch) {id : δ} (hstarted : (s.daemon.devicesManager.view id).started.isSome) :
    { s with tasks := tasks, devices := s.deviceSignal (.deviceMBankSwitch devID bankID) }.lastBank id =
      s.lastBank id := by
  have hbank : (s.deviceSignal (.deviceMBankSwitch devID bankID)).bank id =
      if s.sessionState = "active" ∧ id = devID ∧ s.devices.startedDevices[devID]?.isSome then bankID
      else s.devices.bank id := by
    simp only [deviceSignal]
    by_cases hactive : s.sessionState = "active"
    · simp [hactive, DevicesHandler.bank_setDeviceCurrentBankID]
    · simp [hactive]
  simp only [lastBank, hbank, switches, htasks]
  by_cases hid : devID = id
  · subst hid
    have hcons : (ServiceTask.signal (.device (.deviceMBankSwitch devID bankID)) :: tasks).filterMap
        (ServiceTask.switchOf devID) = bankID :: tasks.filterMap (ServiceTask.switchOf devID) := by
      simp [ServiceTask.switchOf, BusSignal.switchOf]
    rw [hcons, List.getLastD_cons]
    rcases happlies devID bankID tasks htasks hstarted with ⟨hactive, hheld⟩ | hmore | hsame
    · rw [if_pos ⟨hactive, rfl, hheld⟩]
    · -- the last of the switches that follow decides
      obtain ⟨switch, switches, hswitches⟩ := List.exists_cons_of_ne_nil hmore
      rw [hswitches]
      rfl
    · rw [hsame, ite_self]
  · simp [ServiceTask.switchOf, BusSignal.switchOf, hid, Ne.symm hid]

/-- The task that is handled next is no bank switch. -/
lemma keepsBanks_of_head [DecidableEq π] {loaded : δ → DeviceConfiguration} (task : ServiceTask δ)
    (htasks : s.tasks.head? = some task) (htask : ∀ devID, task.switchOf devID = none)
    (hleds : ∀ event ∈ s.daemonEvent (.handle loaded), s.KeepsLeds event) :
    s.KeepsBanks (.handle loaded) := by
  refine ⟨hleds, fun _ _ devID bankID tasks hswitch => ?_⟩
  rw [hswitch, List.head?_cons, Option.some_inj] at htasks
  have hnone := htask devID
  rw [← htasks] at hnone
  simp [ServiceTask.switchOf, BusSignal.switchOf] at hnone

/-- The switch that is handled next is applied. -/
lemma keepsBanks_of_switch [DecidableEq π] {loaded : δ → DeviceConfiguration} (devID : δ)
    (bankID : MKeysID)
    (htasks : s.tasks.head? = some (.signal (.device (.deviceMBankSwitch devID bankID))))
    (hactive : s.sessionState = "active") (hheld : s.devices.startedDevices[devID]?.isSome) :
    s.KeepsBanks (.handle loaded) := by
  obtain ⟨tasks, htasks⟩ := List.head?_eq_some_iff.mp htasks
  refine ⟨?_, fun _ _ devID' bankID' tasks' hswitch _ => Or.inl ?_⟩
  · simp only [daemonEvent, htasks]
    exact nofun
  · rw [htasks] at hswitch
    cases hswitch
    exact ⟨hactive, hheld⟩

lemma not_started_of_unplugged {devID : δ} (h : s.getDeviceStatus devID = .unplugged) :
    (s.daemon.devicesManager.view devID).started = none := by
  simp only [getDeviceStatus, ClientsManager.getDeviceStatus, ClientsManager.answer,
    DevicesManager.getDeviceStatus_eq] at h
  split_ifs at h
  cases hstarted : (s.daemon.devicesManager.view devID).started with
  | none => rfl
  | some det => simp [DeviceView.status, hstarted] at h

/-- Only a bank switch changes the current banks. -/
lemma bank_deviceSignal {signal : DeviceSignal δ}
    (hsignal : ∀ id bankID, signal ≠ .deviceMBankSwitch id bankID) (devID : δ) :
    (s.deviceSignal signal).bank devID = s.devices.bank devID := by
  cases signal with
  | deviceMBankSwitch id bankID => exact absurd rfl (hsignal id bankID)
  | deviceMacroRecorded id keyID events =>
    simp only [deviceSignal]
    split_ifs
    · rfl
    · exact (DevicesHandler.sameBanks_setDeviceMacro keyID events).2 devID
  | deviceMacroCleared id keyID =>
    simp only [deviceSignal]
    split_ifs
    · rfl
    · exact (DevicesHandler.sameBanks_clearDeviceMacro keyID).2 devID
  | deviceGKeyEvent id keyID => simp only [deviceSignal, ite_self]

/-- The service handles its next task. -/
lemma tracks_handle [DecidableEq π] (hm : ReachableDaemon s.daemon) (h : ∀ devID, s.Tracks devID)
    {loaded : δ → DeviceConfiguration} (hkeeps : s.KeepsBanks (.handle loaded)) (devID : δ) :
    (s.handle loaded).Tracks devID := by
  cases htasks : s.tasks with
  | nil =>
    simp only [handle, htasks]
    exact h devID
  | cons task tasks =>
    simp only [handle, htasks]
    have htail : (∀ id, task.switchOf id = none) → ∀ id, { s with tasks := tasks }.Tracks id :=
      fun htask id => (h id).congr rfl (lastBank_tail htasks (htask id))
    -- the requests that a handler sends keep the leds
    have hrequest : ∀ event, s.daemonEvent (.handle loaded) = some event →
        (∀ id, task.switchOf id = none) → ({ s with tasks := tasks }.daemonStep event).Tracks devID := by
      intro event hevent htask
      refine tracks_daemonStep (s := { s with tasks := tasks }) hm.intact (htail htask) ?_ devID
      exact (hkeeps.1 event hevent).congr rfl fun id => lastBank_tail htasks (htask id)
    -- a handler is split into tasks, or changes the devices without their current banks
    have hpush : ∀ tasks', (∀ id, task.switchOf id = none) →
        (∀ task' ∈ tasks', task'.switchOf devID = none) →
        ({ s with tasks := tasks }.push tasks').Tracks devID :=
      fun tasks' htask htasks' => (htail htask devID).congr rfl (lastBank_push htasks')
    have hdevices : ∀ devices : DevicesHandler δ, (∀ id, task.switchOf id = none) →
        devices.bank devID = s.devices.bank devID →
        { s with tasks := tasks, devices }.Tracks devID :=
      fun devices htask hbank => (htail htask devID).congr rfl
        (lastBank_devices (s := { s with tasks := tasks }) hbank)
    cases task with
    | signal signal =>
      cases signal with
      | device signal =>
        cases signal with
        | deviceMBankSwitch id bankID =>
          intro hstarted
          have hlast := lastBank_switch htasks (hkeeps.2 loaded rfl) hstarted
          exact hlast.trans (h devID hstarted)
        | deviceMacroRecorded | deviceMacroCleared | deviceGKeyEvent =>
          refine hdevices _ (fun _ => rfl) (bank_deviceSignal ?_ devID)
          intro id bankID hswitch
          cases hswitch
      | devicesStarted devIDs => exact hpush _ (fun _ => rfl) (switchOf_startTasks devIDs)
      | devicesStopped devIDs | devicesUnplugged devIDs =>
        refine hpush _ (fun _ => rfl) ?_
        simp [ServiceTask.switchOf]
      | daemonIsStarting => exact htail (fun _ => rfl) devID
      | reportYourself => exact hrequest _ (by simp only [daemonEvent, htasks]) fun _ => rfl
    | deviceStarted id =>
      simp only [handleTask]
      split_ifs
      · exact hdevices _ (fun _ => rfl) (DevicesHandler.bank_startDevice _ devID)
      · exact htail (fun _ => rfl) devID
    | deviceStopped id =>
      simp only [handleTask]
      split_ifs
      · exact hdevices _ (fun _ => rfl) (DevicesHandler.bank_stopDevice _ devID)
      · exact htail (fun _ => rfl) devID
    | deviceUnplugged id =>
      simp only [handleTask]
      split_ifs with hunplugged
      · by_cases hid : devID = id
        · subst hid
          intro hstarted
          rw [not_started_of_unplugged hunplugged] at hstarted
          cases hstarted
        · exact hdevices _ (fun _ => rfl) (DevicesHandler.bank_unplugDevice _ hid)
      · exact htail (fun _ => rfl) devID
    | reportActive =>
      simp only [handleTask]
      split_ifs with hactive
      · exact hrequest _ (by simp only [daemonEvent, htasks]; exact if_pos hactive) fun _ => rfl
      · exact htail (fun _ => rfl) devID
    | reportChangedState => exact hrequest _ (by simp only [daemonEvent, htasks]) fun _ => rfl
    | getStartedDevices => exact hpush _ (fun _ => rfl) (switchOf_startTasks _)
    | toggleClientReadyPropertie => exact hrequest _ (by simp only [daemonEvent, htasks]) fun _ => rfl
    | getStoppedDevices =>
      refine hpush _ (fun _ => rfl) ?_
      simp [ServiceTask.switchOf]

/-! ### Runs -/

lemma tracks_step [DecidableEq π] (hm : ReachableDaemon s.daemon) (h : ∀ devID, s.Tracks devID)
    {event : SystemEvent κ π δ} (hkeeps : s.KeepsBanks event) (devID : δ) :
    (s.step event).Tracks devID := by
  cases event with
  | daemon event => exact tracks_daemonStep hm.intact h (hkeeps.1 event rfl) devID
  | handle loaded => exact tracks_handle hm h hkeeps devID
  | updateSessionState state =>
    refine (h devID).congr rfl ?_
    simp [lastBank, switches, step, push, ServiceTask.switchOf]

end System

/-- In a run that starts with the leds of all started devices off, and in which no leds are turned
off behind the back of the service and all switches are applied, the current banks of the service
are the ones that the leds show whenever all signals have been handled. -/
theorem banksAgree_of_keepsBanks [DecidableEq π] {daemon : ClientsManager κ π δ}
    (hm : ReachableDaemon daemon) (clientID : κ) (sessionState : String)
    (hoff : ∀ devID device, (daemon.devicesManager.view devID).device = some device →
      shownBank device.MxKeysLedsMask = .m0)
    {events : List (SystemEvent κ π δ)}
    (hkeeps : Run.Steps System.step (fun s event => s.KeepsBanks event)
      (System.start daemon clientID sessionState) events) :
    (Run.run System.step (System.start daemon clientID sessionState) events).BanksAgree := by
  have hstep : ∀ (s : System κ π δ) (event : SystemEvent κ π δ),
      (ReachableDaemon s.daemon ∧ ∀ devID, s.Tracks devID) → s.KeepsBanks event →
      ReachableDaemon (s.step event).daemon ∧ ∀ devID, (s.step event).Tracks devID :=
    fun s event hs hkeeps =>
      ⟨System.reachableDaemon_step hs.1 event, System.tracks_step hs.1 hs.2 hkeeps⟩
  have hstart : ∀ devID, (System.start daemon clientID sessionState).Tracks devID :=
    fun devID hstarted => (DeviceView.shown_eq_m0 (hoff devID) hstarted).symm
  exact System.banksAgree_of_tracks (hkeeps.induction ⟨hm, hstart⟩ hstep).2

/-- The key M1 of the device is pressed. -/
def pressM1 : DaemonEvent ℕ ℕ ℕ :=
  .keysTurn 0 (.transfer { length := 5, bytes := ![3, 0, 0, 16, 0, 0, 0, 0], now := 0 })

/-- Its device shows bank M0. -/
lemma off_daemonOfOne (devID : ℕ) (device : USBDevice ℕ)
    (hdevice : (daemonOfOne.devicesManager.view devID).device = some device) :
    shownBank device.MxKeysLedsMask = .m0 := by
  have hkeys : daemonOfOne.devicesManager.startedDevices.keys = [0] := by decide +kernel
  have hstarted : devID ∈ daemonOfOne.devicesManager.startedDevices :=
    Std.ExtTreeMap.mem_iff_isSome_getElem?.mpr (DeviceView.started_of_device hdevice)
  have hmem : devID ∈ ([0] : List ℕ) := by
    rw [← hkeys]
    exact Std.ExtTreeMap.mem_keys.mpr hstarted
  obtain rfl := List.mem_singleton.mp hmem
  have hoff : ∀ device ∈ (daemonOfOne.devicesManager.view 0).device,
      shownBank device.MxKeysLedsMask = .m0 := by decide +kernel
  exact hoff device hdevice

/-- The service starts, and the key M1 is pressed. -/
theorem banksAgree_pressM1 :
    (Run.run System.step (System.start daemonOfOne 0 "active")
      [.handle fun _ => {}, .handle fun _ => {}, .handle fun _ => {}, .handle fun _ => {},
        .handle fun _ => {}, .daemon pressM1, .handle fun _ => {}]).BanksAgree := by
  have hnone : ∀ {s : System ℕ ℕ ℕ} {event}, (s.daemonEvent event).isNone →
      ∀ event' ∈ s.daemonEvent event, s.KeepsLeds event' := by
    intro s event hnone event' hevent
    rw [Option.isNone_iff_eq_none.mp hnone] at hevent
    cases hevent
  refine banksAgree_of_keepsBanks reachable_daemonOfOne 0 "active" off_daemonOfOne
    ⟨?getStarted, ?deviceStarted, ?report, ?toggle, ?getStopped, ?press, ?switch, trivial⟩
  case getStarted =>
    exact System.keepsBanks_of_head .getStartedDevices rfl (fun _ => rfl) (hnone rfl)
  case deviceStarted =>
    exact System.keepsBanks_of_head (.deviceStarted 0) (by decide +kernel) (fun _ => rfl)
      (hnone (by decide +kernel))
  case report =>
    refine System.keepsBanks_of_head .reportActive (by decide +kernel) (fun _ => rfl) ?_
    intro event hevent
    cases hevent
    refine System.keepsLeds_of_quiet ?_ fun _ => rfl
    rintro ⟨-, client, hclient, hcount⟩
    have hactive : ∀ client ∈ (Run.run System.step (System.start daemonOfOne 0 "active")
        [.handle fun _ => {}, .handle fun _ => {}]).daemon.connectedClients[0]?,
        ClientsManager.countActive 1 client (client.updateSessionState "active") ≠ 0 := by decide +kernel
    exact hactive client hclient hcount
  case toggle =>
    refine System.keepsBanks_of_head .toggleClientReadyPropertie (by decide +kernel)
      (fun _ => rfl) ?_
    intro event hevent
    cases hevent
    exact System.keepsLeds_of_quiet id fun _ => rfl
  case getStopped =>
    exact System.keepsBanks_of_head .getStoppedDevices (by decide +kernel) (fun _ => rfl)
      (hnone (by decide +kernel))
  case press =>
    refine ⟨fun event hevent => ?_, nofun⟩
    cases hevent
    exact System.keepsLeds_of_quiet id fun _ => rfl
  case switch =>
    exact System.keepsBanks_of_switch 0 .m1 (by decide +kernel) rfl (by decide +kernel)

/-- The key M1 is pressed, the client stops the device and starts it again: the leds are off, and
the service stays in the bank of M1. -/
theorem not_banksAgree_startDevice :
    let events : List (SystemEvent ℕ ℕ ℕ) :=
      List.replicate 5 (.handle fun _ => {}) ++
        [.daemon pressM1, .handle fun _ => {}, .daemon (.request (.stopDevice 0 0)),
          .handle fun _ => {}, .handle fun _ => {},
          .daemon (.request (.startDevice 0 0 .opened)), .handle fun _ => {}, .handle fun _ => {},
          .handle fun _ => {}]
    let s := System.start daemonOfOne 0 "active"
    Run.Steps System.step (fun s _ => s.Registered ∧ s.sessionState = "active") s events ∧
      ¬ (Run.run System.step s events).BanksAgree := by
  intro events s
  refine ⟨by decide +kernel, fun h => ?_⟩
  have htasks : (Run.run System.step s events).tasks = [] := by decide +kernel
  have hdevice : ∃ device ∈ ((Run.run System.step s events).daemon.devicesManager.view 0).device,
      shownBank device.MxKeysLedsMask = .m0 := by decide +kernel
  have hproperties : ∃ properties ∈ (Run.run System.step s events).devices.properties 0,
      properties.currentBankID = .m1 := by decide +kernel
  obtain ⟨device, hdevice, hshown⟩ := hdevice
  obtain ⟨properties, hproperties, hbank⟩ := hproperties
  have hagree := h htasks 0 device hdevice properties hproperties
  rw [hbank, hshown] at hagree
  cases hagree

end GLogiK
