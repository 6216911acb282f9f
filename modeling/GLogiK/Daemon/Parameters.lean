import GLogiK.Daemon.Invariant

/-!
# The parameters of a device that is started

Opening a device resets it to the defaults. A client that starts or restarts a device then sets
its own parameters on it; a resume sets none.
-/

namespace GLogiK

variable {κ π δ : Type*}

/-! ### Parameters on a device -/

/-- The plugins that the mask shows. -/
def ClientDevice.plugins (params : ClientDevice) : UInt64 :=
  if params.LCDPluginsMask1 = 0 then GK_LCD_SPLASHSCREEN ||| GK_LCD_SYSTEM_MONITOR
  else params.LCDPluginsMask1

/-- The colour and the plugins mask on the device are the client's, where it has them. -/
def USBDevice.Shows (device : USBDevice δ) (params : ClientDevice) : Prop :=
  (device.checkDeviceCapability .backlightColor → device.RGB = params.RGB) ∧
    (device.checkDeviceCapability .lcdScreen → device.LCDPluginsMask1 = params.plugins)

/-- On the device both parameters are the same. -/
def USBDevice.SameOn (device : USBDevice δ) (params params' : ClientDevice) : Prop :=
  (device.checkDeviceCapability .backlightColor → params.RGB = params'.RGB) ∧
    (device.checkDeviceCapability .lcdScreen → params.plugins = params'.plugins)

/-- An opened device on which parameters were set. -/
lemma shows_setDeviceActiveConfiguration (device : USBDevice δ) (params params' : ClientDevice) :
    (setDeviceActiveConfiguration (resetDeviceState device) params.RGB
        params.LCDPluginsMask1).Shows params' ↔ device.SameOn params params' := by
  simp only [USBDevice.Shows, USBDevice.SameOn, setDeviceActiveConfiguration_eq, resetDeviceState_eq]
  refine and_congr (forall_congr' fun hcap => ?_) (forall_congr' fun hcap => ?_)
  · rw [if_pos hcap]
  · rw [if_pos hcap]
    rfl

/-- An opened device on which no parameters were set. -/
lemma shows_resetDeviceState (device : USBDevice δ) (params : ClientDevice) :
    (resetDeviceState device).Shows params ↔ device.SameOn {} params := by
  simp only [USBDevice.Shows, USBDevice.SameOn, resetDeviceState_eq]
  refine and_congr (forall_congr' fun hcap => ?_) (forall_congr' fun hcap => ?_)
  · rw [if_pos hcap]
  · rw [if_pos hcap]
    rfl

/-! ### Devices that are started -/

namespace DeviceView

/-- The device that a successful start of a stopped device opens. -/
def toOpen (v : DeviceView δ) : OpenResult → Option (USBDevice δ)
  | .opened => v.stopped.map fun det => v.held.getD (newUSBDevice det)
  | _       => none

variable {v : DeviceView δ}

lemma stopped_of_toOpen {result : OpenResult} {device : USBDevice δ}
    (hopen : v.toOpen result = some device) : v.stopped.isSome := by
  cases result with
  | opened => simpa [toOpen] using congrArg Option.isSome hopen
  | _ => cases hopen

lemma stopped_of_started (hstarted : v.started.isSome) : v.stop.stopped.isSome := by
  obtain ⟨det, hdet⟩ := Option.isSome_iff_exists.mp hstarted
  simp [DeviceView.stop, hdet]

lemma started_of_device {device : USBDevice δ} (hdevice : v.device = some device) :
    v.started.isSome := by
  rw [DeviceView.device] at hdevice
  split_ifs at hdevice with hstarted
  exact hstarted

lemma Inv.start_of_toOpen (h : v.Inv) {result : OpenResult} {device : USBDevice δ}
    (hopen : v.toOpen result = some device) :
    (v.start result).device = some (resetDeviceState device) := by
  cases result with
  | opened =>
    obtain ⟨det, hstopped, rfl⟩ := Option.map_eq_some_iff.mp hopen
    rcases h.start_eq hstopped .opened with ⟨-, heq⟩ | ⟨hne, -⟩
    · rw [heq]
      rfl
    · exact absurd rfl hne
  | _ => cases hopen

lemma Inv.start_of_toOpen_none (h : v.Inv) {result : OpenResult}
    (hopen : v.toOpen result = none) (hstopped : v.stopped.isSome) :
    (v.start result).started = none := by
  obtain ⟨det, hstopped⟩ := Option.isSome_iff_exists.mp hstopped
  rcases h.start_eq hstopped result with ⟨rfl, -⟩ | ⟨-, held, heq, -⟩
  · simp [toOpen, hstopped] at hopen
  · rw [heq]
    exact h.not_started_of_stopped hstopped

end DeviceView

variable [LinearOrder κ] [LinearOrder δ]

/-- A client that starts a stopped device. -/
lemma Client.startView_of_toOpen (client : Client π δ) (devID : δ) {v : DeviceView δ} (h : v.Inv)
    {result : OpenResult} {device : USBDevice δ} (hopen : v.toOpen result = some device) :
    ∃ device', (client.startView devID result v).device = some device' ∧
      ∀ params, device'.Shows params ↔ device.SameOn (client.devices[devID]?.getD {}) params := by
  have hstart := h.start_of_toOpen hopen
  cases result with
  | opened =>
    obtain ⟨det, hstopped, -⟩ := Option.map_eq_some_iff.mp hopen
    simp only [startView, hstopped, Option.isSome_some, decide_true, Bool.and_self, if_true,
      configure]
    cases hdevice : client.devices[devID]? with
    | none => exact ⟨_, hstart, shows_resetDeviceState device⟩
    | some params =>
      refine ⟨_, ?_, shows_setDeviceActiveConfiguration device params⟩
      exact (DeviceView.onDevice_device _).trans (congrArg _ hstart)
  | _ => cases hopen

lemma Client.startView_of_toOpen_none (client : Client π δ) (devID : δ) {v : DeviceView δ}
    (h : v.Inv) {result : OpenResult} (hopen : v.toOpen result = none) (hstopped : v.stopped.isSome) :
    (client.startView devID result v).started = none := by
  have hresult : result ≠ .opened := by
    rintro rfl
    simp [DeviceView.toOpen, Option.isSome_iff_ne_none.mp hstopped] at hopen
  simp only [startView, hresult, decide_false, Bool.and_false, Bool.false_eq_true, if_false]
  exact h.start_of_toOpen_none hopen hstopped

namespace ClientsManager

/-- The device goes from stopped to started; a restart stops it first. -/
def StartsDevice [DecidableEq π] (m : ClientsManager κ π δ) (devID : δ) (event : DaemonEvent κ π δ) :
    Prop :=
  match event with
  | .request (.restartDevice clientID id _) =>
    devID = id ∧ (m.stopDevice clientID id).2 ∧
      ((m.step event).devicesManager.view devID).started.isSome
  | _ => (m.devicesManager.view devID).stopped.isSome ∧
      ((m.step event).devicesManager.view devID).started.isSome

/-- The parameters that the client has set for the device. -/
def Holds (m : ClientsManager κ π δ) (devID : δ) (params : ClientDevice) : Prop :=
  ∃ (clientID : κ) (client : Client π δ), m.connectedClients[clientID]? = some client ∧
    client.isActive ∧ client.isReady ∧ client.devices[devID]? = some params

lemma holds_of_any {m : ClientsManager κ π δ} {clientID : κ} {devID : δ} {params : ClientDevice}
    (hany : m.connectedClients[clientID]?.any fun client =>
      client.isActive && client.isReady && decide (client.devices[devID]? = some params)) :
    m.Holds devID params := by
  simp only [Option.any_eq_true, Bool.and_eq_true, decide_eq_true_eq] at hany
  obtain ⟨client, hclient, ⟨hactive, hready⟩, hdevice⟩ := hany
  exact ⟨clientID, client, hclient, hactive, hready, hdevice⟩

/-- A device that is started shows the parameters of every client that is active and ready and
holds some for the device. -/
def StartsWithParameters [DecidableEq π] (m : ClientsManager κ π δ) (event : DaemonEvent κ π δ) :
    Prop :=
  ∀ devID, m.StartsDevice devID event → ∀ params, m.Holds devID params →
    ∀ device, ((m.step event).devicesManager.view devID).device = some device → device.Shows params

/-- The device that an event opens, with the parameters that are set on it then. -/
def opens (m : ClientsManager κ π δ) (devID : δ) :
    DaemonEvent κ π δ → Option (USBDevice δ × ClientDevice)
  | .request (.startDevice clientID id result) =>
    match m.connectedClients[clientID]? with
    | none => none
    | some client =>
      if client.mayChangeDevices ∧ devID = id then
        ((m.devicesManager.view devID).toOpen result).map (·, client.devices[devID]?.getD {})
      else none
  | .request (.restartDevice clientID id result) =>
    match m.connectedClients[clientID]? with
    | none => none
    | some client =>
      if client.mayChangeDevices ∧ devID = id ∧ (m.devicesManager.view devID).started.isSome then
        ((m.devicesManager.view devID).stop.toOpen result).map (·, client.devices[devID]?.getD {})
      else none
  | .handleSleepEvent false opens =>
    if devID ∈ m.devicesManager.sleepingDevices then
      ((m.devicesManager.view devID).toOpen (opens devID)).map (·, {})
    else none
  | _ => none

/-- The clients that are active and ready agree with the parameters that are set. -/
def ParametersAgree (m : ClientsManager κ π δ) (event : DaemonEvent κ π δ) : Prop :=
  ∀ devID device params, m.opens devID event = some (device, params) →
    ∀ params', m.Holds devID params' → device.SameOn params params'

variable {m : ClientsManager κ π δ} {devID : δ}

/-- A request that opens no device starts none. -/
lemma requestView_started [DecidableEq π] {r : Request κ π δ} {v : DeviceView δ}
    (hstarted : v.started = none)
    (hr : ∀ clientID id result, r ≠ .startDevice clientID id result ∧
      r ≠ .restartDevice clientID id result) : (m.requestView devID v r).started = none := by
  have hreset : v.reset.started = none := by simp [DeviceView.reset, hstarted]
  have hconfigure : ∀ client : Client π δ, client.configure devID v = v :=
    fun client => DeviceView.configure_of_not_started hstarted client devID
  cases r with
  | startDevice clientID id result => exact absurd rfl (hr clientID id result).1
  | restartDevice clientID id result => exact absurd rfl (hr clientID id result).2
  | registerClient path clientID =>
    simp only [requestView]
    split
    · exact hstarted
    · split_ifs <;> assumption
  | unregisterClient clientID =>
    simp only [requestView]
    split_ifs <;> assumption
  | updateClientState clientID state =>
    simp only [requestView, hconfigure, ite_self]
    split_ifs
    · exact hstarted
    · split
      · exact hstarted
      · split_ifs <;> assumption
  | toggleClientReadyPropertie clientID =>
    simp only [requestView, hconfigure, ite_self]
    split <;> exact hstarted
  | stopDevice clientID id =>
    simp only [requestView]
    split
    · exact hstarted
    · split_ifs
      · exact DeviceView.stop_started v
      · exact hstarted
  | _ => exact hstarted

/-- Whether the client's request stops the device. -/
lemma stopDevice_snd_iff (h : m.devicesManager.Intact) (clientID : κ) (id : δ) :
    (m.stopDevice clientID id).2 ↔ ∃ client, m.connectedClients[clientID]? = some client ∧
      client.mayChangeDevices ∧ (m.devicesManager.view id).started.isSome := by
  rw [stopDevice]
  cases m.connectedClients[clientID]? with
  | none => simp
  | some client =>
    cases hmay : client.mayChangeDevices with
    | false => simp [hmay]
    | true =>
      simp only [Bool.not_true, Bool.false_eq_true, if_false, Option.some.injEq, exists_eq_left',
        hmay, true_and, ← stopDevice_snd h]
      split_ifs <;> exact Iff.rfl

/-- A device that is not opened stays stopped, or is not restarted. -/
lemma not_startsDevice [DecidableEq π] (h : m.devicesManager.Intact) {event : DaemonEvent κ π δ}
    (hne : ∀ clientID id result, event ≠ .request (.restartDevice clientID id result))
    (hstays : (m.devicesManager.view devID).stopped.isSome →
      (m.viewStep devID (m.devicesManager.view devID) event).started = none) :
    ¬ m.StartsDevice devID event := by
  unfold StartsDevice
  split
  · exact absurd rfl (hne _ _ _)
  · rintro ⟨hstopped, hstarted⟩
    rw [(moves_step h event).view devID, hstays hstopped] at hstarted
    cases hstarted

lemma startsDevice_of_device [DecidableEq π] {event : DaemonEvent κ π δ} {device : USBDevice δ}
    (hne : ∀ clientID id result, event ≠ .request (.restartDevice clientID id result))
    (hstopped : (m.devicesManager.view devID).stopped.isSome)
    (hdevice : ((m.step event).devicesManager.view devID).device = some device) :
    m.StartsDevice devID event := by
  have hstarted := DeviceView.started_of_device hdevice
  unfold StartsDevice
  split
  · exact absurd rfl (hne _ _ _)
  · exact ⟨hstopped, hstarted⟩

/-- The event opens the device, starts it and leaves its parameters on it, or does none of this. -/
def StartsAsOpened [DecidableEq π] (m : ClientsManager κ π δ) (devID : δ)
    (event : DaemonEvent κ π δ) : Prop :=
  (m.opens devID event = none ∧ ¬ m.StartsDevice devID event) ∨
    ∃ device params device', m.opens devID event = some (device, params) ∧
      m.StartsDevice devID event ∧
      ((m.step event).devicesManager.view devID).device = some device' ∧
      ∀ params', device'.Shows params' ↔ device.SameOn params params'

lemma not_started_of_stopped (h : m.devicesManager.Intact)
    (hstopped : (m.devicesManager.view devID).stopped.isSome) :
    (m.devicesManager.view devID).started = none := by
  obtain ⟨det, hdet⟩ := Option.isSome_iff_exists.mp hstopped
  exact (h.views devID).not_started_of_stopped hdet

/-- A client starts the device. -/
lemma startsAsOpened_startDevice [DecidableEq π] (h : m.devicesManager.Intact) (devID : δ)
    (clientID : κ) (id : δ) (result : OpenResult) :
    m.StartsAsOpened devID (.request (.startDevice clientID id result)) := by
  have hview := (moves_step h (.request (.startDevice clientID id result))).view devID
  cases hclient : m.connectedClients[clientID]? with
  | none =>
    refine Or.inl ⟨by simp [opens, hclient], not_startsDevice h (by simp) fun hstopped => ?_⟩
    simp [viewStep, requestView, hclient, not_started_of_stopped h hstopped]
  | some client =>
    by_cases hcase : client.mayChangeDevices ∧ devID = id
    · obtain ⟨hmay, rfl⟩ := hcase
      cases hopen : (m.devicesManager.view devID).toOpen result with
      | none =>
        refine Or.inl ⟨by simp [opens, hclient, hopen],
          not_startsDevice h (by simp) fun hstopped => ?_⟩
        simp only [viewStep, requestView, hclient, hmay, and_self, if_true]
        exact client.startView_of_toOpen_none devID (h.views devID) hopen hstopped
      | some device =>
        obtain ⟨device', hdevice', hshows⟩ :=
          client.startView_of_toOpen devID (h.views devID) hopen
        have hview' : ((m.step (.request (.startDevice clientID devID
            result))).devicesManager.view devID).device = some device' := by
          simp only [hview, viewStep, requestView, hclient, hmay, and_self, if_true, hdevice']
        refine Or.inr ⟨device, client.devices[devID]?.getD {}, device', ?_, ?_, hview', hshows⟩
        · simp [opens, hclient, hmay, hopen]
        · exact startsDevice_of_device (by simp) (DeviceView.stopped_of_toOpen hopen) hview'
    · refine Or.inl ⟨by simp [opens, hclient, hcase],
        not_startsDevice h (by simp) fun hstopped => ?_⟩
      simp [viewStep, requestView, hclient, hcase, not_started_of_stopped h hstopped]

/-- A client stops the device, and starts it again. -/
lemma startsAsOpened_restartDevice [DecidableEq π] (h : m.devicesManager.Intact) (devID : δ)
    (clientID : κ) (id : δ) (result : OpenResult) :
    m.StartsAsOpened devID (.request (.restartDevice clientID id result)) := by
  have hview := (moves_step h (.request (.restartDevice clientID id result))).view devID
  by_cases hcase : devID = id ∧ (m.stopDevice clientID id).2
  · obtain ⟨rfl, hstop⟩ := hcase
    obtain ⟨client, hclient, hmay, hstarted⟩ := (stopDevice_snd_iff h clientID devID).mp hstop
    have hview' : (m.step (.request (.restartDevice clientID devID
        result))).devicesManager.view devID =
        client.startView devID result (m.devicesManager.view devID).stop := by
      simp [hview, viewStep, requestView, hclient, hmay, Client.restartView, hstarted]
    cases hopen : (m.devicesManager.view devID).stop.toOpen result with
    | none =>
      refine Or.inl ⟨by simp [opens, hclient, hopen], ?_⟩
      rintro ⟨-, -, hsome⟩
      rw [hview', client.startView_of_toOpen_none devID (h.views devID).stop hopen
        (DeviceView.stopped_of_started hstarted)] at hsome
      cases hsome
    | some device =>
      obtain ⟨device', hdevice', hshows⟩ :=
        client.startView_of_toOpen devID (h.views devID).stop hopen
      rw [← hview'] at hdevice'
      refine Or.inr ⟨device, client.devices[devID]?.getD {}, device', ?_,
        ⟨rfl, hstop, DeviceView.started_of_device hdevice'⟩, hdevice', hshows⟩
      simp [opens, hclient, hmay, hstarted, hopen]
  · refine Or.inl ⟨?_, fun hstarts => hcase ⟨hstarts.1, hstarts.2.1⟩⟩
    simp only [opens]
    split
    · rfl
    · rename_i client hclient
      rw [if_neg]
      rintro ⟨hmay, rfl, hstarted⟩
      apply hcase
      exact ⟨rfl, (stopDevice_snd_iff h clientID devID).mpr ⟨client, hclient, hmay, hstarted⟩⟩

/-- The daemon wakes up, and starts the devices that it put to sleep. -/
lemma startsAsOpened_resume [DecidableEq π] (h : m.devicesManager.Intact) (devID : δ)
    (opens : δ → OpenResult) : m.StartsAsOpened devID (.handleSleepEvent false opens) := by
  have hview := (moves_step h (.handleSleepEvent false opens)).view devID
  by_cases hmem : devID ∈ m.devicesManager.sleepingDevices
  · have hview' : (m.step (.handleSleepEvent false opens)).devicesManager.view devID =
        (m.devicesManager.view devID).start (opens devID) := by
      simp [hview, viewStep, hmem]
    cases hopen : (m.devicesManager.view devID).toOpen (opens devID) with
    | none =>
      refine Or.inl ⟨by simp [ClientsManager.opens, hopen],
        not_startsDevice h (by simp) fun hstopped => ?_⟩
      rw [← hview, hview']
      exact (h.views devID).start_of_toOpen_none hopen hstopped
    | some device =>
      have hdevice := (h.views devID).start_of_toOpen hopen
      rw [← hview'] at hdevice
      refine Or.inr ⟨device, {}, _, by simp [ClientsManager.opens, hmem, hopen],
        startsDevice_of_device (by simp) (DeviceView.stopped_of_toOpen hopen) hdevice, hdevice,
        shows_resetDeviceState device⟩
  · refine Or.inl ⟨by simp [ClientsManager.opens, hmem],
      not_startsDevice h (by simp) fun hstopped => ?_⟩
    simp [viewStep, hmem, not_started_of_stopped h hstopped]

/-- The devices that an event starts are the ones it opens, and it leaves its parameters on them. -/
lemma startsDevice_cases [DecidableEq π] (h : m.devicesManager.Intact) (devID : δ)
    (event : DaemonEvent κ π δ) : m.StartsAsOpened devID event := by
  have hnone : (m.devicesManager.view devID).stopped.isSome →
      (m.devicesManager.view devID).started = none := not_started_of_stopped h
  -- a turn of a thread changes the device in its driver only
  have hthread : ∀ (id : δ) (op : USBDevice δ → USBDevice δ × List (DeviceSignal δ)),
      (m.devicesManager.view devID).stopped.isSome →
      (if devID = id then (m.devicesManager.view devID).onDevice op
        else m.devicesManager.view devID).started = none := by
    intro id op hstopped
    split_ifs
    · rw [DeviceView.onDevice_started]
      exact hnone hstopped
    · exact hnone hstopped
  cases event with
  | udevAdd found =>
    refine Or.inl ⟨rfl, not_startsDevice h (by simp) fun hstopped => ?_⟩
    have hfree : (m.devicesManager.view devID).isFree = false := by
      simp [DeviceView.isFree, hnone hstopped, hstopped]
    simp only [viewStep, DeviceView.detect_of_not_free hfree]
    cases (m.devicesManager.searchSupportedDevices found).detectedDevices[devID]? <;>
      exact hnone hstopped
  | request r =>
    cases r with
    | startDevice clientID id result => exact startsAsOpened_startDevice h devID clientID id result
    | restartDevice clientID id result =>
      exact startsAsOpened_restartDevice h devID clientID id result
    | _ =>
      refine Or.inl ⟨rfl, not_startsDevice h (by simp) fun hstopped => ?_⟩
      exact requestView_started (hnone hstopped) (by simp)
  | udevRemove found =>
    refine Or.inl ⟨rfl, not_startsDevice h (by simp) fun hstopped => ?_⟩
    simp only [viewStep]
    split_ifs
    · exact DeviceView.unplug_started _
    · exact hnone hstopped
  | checkThreads =>
    exact Or.inl ⟨rfl, not_startsDevice h (by simp) fun hstopped =>
      DeviceView.checkThreads_started (hnone hstopped)⟩
  | handleSleepEvent mode opens =>
    cases mode with
    | true => exact Or.inl ⟨rfl, not_startsDevice h (by simp) fun _ => DeviceView.stop_started _⟩
    | false => exact startsAsOpened_resume h devID opens
  | keysTurn id turn => exact Or.inl ⟨rfl, not_startsDevice h (by simp) (hthread id _)⟩
  | stopThreads id => exact Or.inl ⟨rfl, not_startsDevice h (by simp) (hthread id _)⟩

/-- A device that is started shows the parameters of the clients that agree with the one that
starts it. -/
lemma startsWithParameters_iff [DecidableEq π] (h : m.devicesManager.Intact)
    (event : DaemonEvent κ π δ) : m.StartsWithParameters event ↔ m.ParametersAgree event := by
  constructor
  · intro hstarts devID device params hopens params' hholds
    rcases startsDevice_cases h devID event with ⟨hnone, -⟩ | ⟨device₀, params₀, device', hopens', hs,
      hdevice', hshows⟩
    · rw [hopens] at hnone
      cases hnone
    · rw [hopens] at hopens'
      cases hopens'
      exact (hshows params').mp (hstarts devID hs params' hholds device' hdevice')
  · intro hagree devID hs params' hholds device hdevice
    rcases startsDevice_cases h devID event with ⟨-, hnot⟩ | ⟨device₀, params₀, device', hopens', -,
      hdevice', hshows⟩
    · exact absurd hs hnot
    · rw [hdevice] at hdevice'
      cases hdevice'
      exact (hshows params').mpr (hagree devID device₀ params₀ hopens' params' hholds)

end ClientsManager

/-- From the start on, started devices show the parameters of the active and ready clients, exactly
when these agree with the parameters that the event sets: the ones of the client that asks for the
start, and the defaults on a resume. -/
theorem startsWithParameters_iff_agree [DecidableEq π] (driverID : UInt16)
    (found : List (USBDeviceID δ)) (opens : δ → OpenResult) (events : List (DaemonEvent κ π δ)) :
    Run.Steps ClientsManager.step (fun m event => m.StartsWithParameters event)
        (startMonitoring driverID found opens) events ↔
      Run.Steps ClientsManager.step (fun m event => m.ParametersAgree event)
        (startMonitoring driverID found opens) events :=
  Run.steps_congr (reachableDaemon_startMonitoring driverID found opens)
    (fun _ event hm => hm.next event)
    (fun _ event hm => ClientsManager.startsWithParameters_iff hm.intact event) events

/-- A client has set red, and the computer sleeps and wakes up: the device is white. -/
theorem not_startsWithParameters_resume :
    ¬ Run.Steps ClientsManager.step (fun m event => m.StartsWithParameters event)
      (startMonitoring (κ := ℕ) (π := ℕ) (δ := ℕ) 0
        [{ devID := 0, capabilities := 15, driverID := 0, GKeysTransferLength := 5 }] fun _ => .opened)
      [.request (.registerClient 0 0), .request (.updateClientState 0 "active"),
        .request (.toggleClientReadyPropertie 0),
        .request (.setDeviceBacklightColor 0 0 ⟨255, 0, 0⟩),
        .handleSleepEvent true fun _ => .opened, .handleSleepEvent false fun _ => .opened] := by
  rintro ⟨-, -, -, -, -, hshows, -⟩
  have hred := hshows 0 ⟨by decide +kernel, by decide +kernel⟩
    { vendor := "", product := "", name := "", capabilities := 15, RGB := ⟨255, 0, 0⟩ }
    (ClientsManager.holds_of_any (show Option.any _ _[(0 : ℕ)]? = true by decide +kernel))
  have hall := (Option.all_eq_true _ _).mpr fun device hdevice =>
    decide_eq_true ((hred device hdevice).1)
  revert hall
  decide +kernel

end GLogiK
