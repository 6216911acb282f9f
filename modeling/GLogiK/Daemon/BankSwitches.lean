import GLogiK.Daemon.Parameters
import GLogiK.Daemon.StatusSignals

/-!
# The bank switches of a device

Who knows the last bank that was broadcast for a started device knows the bank that its leds show.
It stays so with every event that neither resets the device nor opens it: these turn the leds off
without a signal.
-/

namespace GLogiK

/-! ### Views -/

namespace DeviceView

variable {δ : Type*} {v v' : DeviceView δ} {last : MKeysID}

/-- The bank that the leds show. -/
def shown (v : DeviceView δ) : MKeysID := v.held.elim .m0 fun device => shownBank device.MxKeysLedsMask

/-- The switches that are broadcast when the device is stopped. -/
def closingSwitches (v : DeviceView δ) : List MKeysID := v.stop.switches.drop v.switches.length

/-- Who knows `last` before the switches from `v` to `v'` knows the shown bank after them. -/
def Follows (last : MKeysID) (v v' : DeviceView δ) : Prop :=
  ∃ new, v'.switches = v.switches ++ new ∧ (v'.started.isSome → new.getLastD last = v'.shown)

lemma follows_of_eq (hswitches : v'.switches = v.switches)
    (hshown : v'.started.isSome → last = v'.shown) : Follows last v v' :=
  ⟨[], by rw [hswitches, List.append_nil], hshown⟩

lemma follows_refl (h : v.started.isSome → last = v.shown) : Follows last v v := follows_of_eq rfl h

lemma Follows.switches {new : List MKeysID} (h : Follows last v v')
    (hnew : v'.switches = v.switches ++ new) (hstarted : v'.started.isSome) :
    new.getLastD last = v'.shown := by
  obtain ⟨new', hnew', hlast⟩ := h
  rw [hnew] at hnew'
  rw [List.append_cancel_left hnew']
  exact hlast hstarted

/-- A device that is not started afterwards. -/
lemma follows_of_not_started (hswitches : v.switches <+: v'.switches) (hstarted : v'.started = none) :
    Follows last v v' := by
  obtain ⟨new, hnew⟩ := hswitches
  refine ⟨new, hnew.symm, fun hsome => ?_⟩
  rw [hstarted] at hsome
  cases hsome

/-- The device tells what it does. -/
lemma follows_onDevice {op : USBDevice δ → USBDevice δ × List (DeviceSignal δ)}
    (hop : ∀ device, Announces device (op device)) (h : v.started.isSome → last = v.shown) :
    Follows last v (v.onDevice op) := by
  cases hstarted : v.started with
  | none =>
    apply follows_of_not_started
    · simp [DeviceView.onDevice, device, hstarted]
    · rw [onDevice_started, hstarted]
  | some det =>
    rw [onDevice_of_started hstarted]
    have hlast := h (by rw [hstarted]; rfl)
    refine ⟨_, rfl, fun _ => ?_⟩
    rw [hlast]
    cases hheld : v.held with
    | none => simp [shown, hheld]
    | some device => simp [shown, hheld, (hop device).bank]

/-- The leds of the device are turned off, if they are not already. -/
lemma Follows.reset (h : Follows last v v') (hoff : v'.started.isSome → v'.shown = .m0) :
    Follows last v v'.reset := by
  obtain ⟨new, hnew, hshown⟩ := h
  cases hstarted : v'.started with
  | none =>
    apply follows_of_not_started
    · simp [DeviceView.reset, DeviceView.onDevice, device, hstarted, hnew]
    · rw [DeviceView.reset, onDevice_started, hstarted]
  | some det =>
    have hsome : v'.started.isSome := by rw [hstarted]; rfl
    have hzero := hoff hsome
    rw [DeviceView.reset, onDevice_map_of_started hstarted]
    refine ⟨new, hnew, fun _ => ?_⟩
    rw [hshown hsome, hzero]
    cases hheld : v'.held with
    | none => simp [shown]
    | some device =>
      simp only [shown, hheld, Option.elim_some] at hzero
      simp only [shown, Option.map_some, Option.elim_some, resetDeviceState_eq]
      split_ifs
      · rfl
      · exact hzero.symm

lemma switches_stop (v : DeviceView δ) : v.switches <+: v.stop.switches := by
  simp only [DeviceView.stop]
  cases v.started with
  | none => exact List.prefix_refl _
  | some det => exact List.prefix_append _ _

lemma switches_stop_eq (v : DeviceView δ) : v.stop.switches = v.switches ++ v.closingSwitches := by
  obtain ⟨new, hnew⟩ := switches_stop v
  rw [closingSwitches, ← hnew, List.drop_left]

lemma follows_stop : Follows last v v.stop := follows_of_not_started (switches_stop v) (stop_started v)

lemma closingSwitches_of_not_started (hstarted : v.started = none) : v.closingSwitches = [] := by
  rw [closingSwitches, stop_of_not_started hstarted, List.drop_length]

/-- A device that is opened is not started, so that nothing has to be closed. -/
lemma Inv.closingSwitches_of_toOpen (h : v.Inv) {result : OpenResult}
    (hopen : (v.toOpen result).isSome) : v.closingSwitches = [] := by
  obtain ⟨device, hdevice⟩ := Option.isSome_iff_exists.mp hopen
  obtain ⟨det, hdet⟩ := Option.isSome_iff_exists.mp (stopped_of_toOpen hdevice)
  exact closingSwitches_of_not_started (h.not_started_of_stopped hdet)

/-- A detected device is not opened. -/
lemma follows_detect (hlast : v.started.isSome → last = v.shown) (det : USBDeviceID δ)
    (result : OpenResult) : Follows last v (v.detect false det result) := by
  cases hfree : v.isFree with
  | false =>
    rw [detect_of_not_free hfree]
    exact follows_refl hlast
  | true =>
    simp only [DeviceView.detect, hfree, Bool.not_true, Bool.false_eq_true, if_false, Bool.not_false,
      if_true]
    exact follows_of_not_started (List.prefix_refl _) (isFree_iff.mp hfree).1

lemma follows_unplug : Follows last v v.unplug := by
  apply follows_of_not_started
  · have hswitches : v.unplug.switches = v.stop.switches := by
      simp only [unplug, unplugStopped]
      split <;> rfl
    rw [hswitches]
    exact switches_stop v
  · exact unplug_started v

/-- A device that is opened has its leds off. -/
lemma Inv.follows_start (h : v.Inv) (hlast : v.started.isSome → last = v.shown) {result : OpenResult}
    (hopen : (v.toOpen result).isSome → last = .m0) : Follows last v (v.start result) := by
  cases hstopped : v.stopped with
  | none =>
    rw [start_of_not_stopped hstopped]
    exact follows_refl hlast
  | some det =>
    have hstarted := h.not_started_of_stopped hstopped
    rcases h.start_eq hstopped result with ⟨rfl, heq⟩ | ⟨-, held, heq, -⟩
    · rw [heq]
      refine follows_of_eq rfl fun _ => ?_
      rw [hopen (by simp [toOpen, hstopped])]
      simp only [shown, Option.elim_some, ((h.idle_getD hstarted det).resetDeviceState).mask,
        shownBank_zero]
    · rw [heq]
      exact follows_of_not_started (List.prefix_refl _) hstarted

lemma Follows.after (h : Follows (v.closingSwitches.getLastD last) v.stop v') : Follows last v v' := by
  obtain ⟨new, hnew, hshown⟩ := h
  refine ⟨v.closingSwitches ++ new, ?_, fun hstarted => ?_⟩
  · rw [hnew, switches_stop_eq, List.append_assoc]
  · rw [getLastD_append]
    exact hshown hstarted

lemma shown_of_device {device : USBDevice δ} (hdevice : v.device = some device) :
    v.shown = shownBank device.MxKeysLedsMask := by
  have hheld : v.held = some device := by
    simp only [DeviceView.device] at hdevice
    split_ifs at hdevice
    exact hdevice
  simp [DeviceView.shown, hheld]

lemma shown_eq_m0
    (hoff : ∀ device, v.device = some device → shownBank device.MxKeysLedsMask = .m0)
    (hstarted : v.started.isSome) : v.shown = .m0 := by
  cases hheld : v.held with
  | none => simp [DeviceView.shown, hheld]
  | some device =>
    have hdevice : v.device = some device := by rw [DeviceView.device, if_pos hstarted, hheld]
    rw [shown_of_device hdevice]
    exact hoff device hdevice

end DeviceView

/-! ### Events -/

variable {κ π δ : Type*} [LinearOrder κ] [LinearOrder δ]

lemma Client.configure_started (client : Client π δ) (devID : δ) (v : DeviceView δ) :
    (client.configure devID v).started = v.started := by
  simp only [Client.configure]
  split
  · rfl
  · exact DeviceView.onDevice_started _

/-- The parameters of a client leave the leds alone. -/
lemma Client.configure_shown (client : Client π δ) (devID : δ) (v : DeviceView δ) :
    (client.configure devID v).shown = v.shown ∧
      (client.configure devID v).switches = v.switches := by
  simp only [Client.configure]
  split
  · exact ⟨rfl, rfl⟩
  · cases hstarted : v.started with
    | none => simp [DeviceView.configure, DeviceView.onDevice, DeviceView.device, hstarted]
    | some det =>
      rw [DeviceView.configure, DeviceView.onDevice_map_of_started hstarted]
      refine ⟨?_, rfl⟩
      cases hheld : v.held with
      | none => simp [DeviceView.shown, hheld]
      | some device => simp [DeviceView.shown, hheld, setDeviceActiveConfiguration_eq]

lemma Client.follows_configure (client : Client π δ) (devID : δ) {last : MKeysID}
    {v v' : DeviceView δ} (h : v.Follows last v') : v.Follows last (client.configure devID v') := by
  obtain ⟨hshown, hswitches⟩ := client.configure_shown devID v'
  obtain ⟨new, hnew, hlast⟩ := h
  refine ⟨new, hswitches.trans hnew, fun hstarted => ?_⟩
  rw [client.configure_started] at hstarted
  rw [hshown]
  exact hlast hstarted

lemma Client.follows_startView (client : Client π δ) (devID : δ) {last : MKeysID} {v : DeviceView δ}
    (h : v.Inv) (hlast : v.started.isSome → last = v.shown) {result : OpenResult}
    (hopen : (v.toOpen result).isSome → last = .m0) :
    v.Follows last (client.startView devID result v) := by
  have hstart := h.follows_start hlast hopen
  simp only [Client.startView]
  split_ifs
  · exact client.follows_configure devID hstart
  · exact hstart

namespace ClientsManager

/-- The event resets the started devices. -/
def resets [DecidableEq π] (m : ClientsManager κ π δ) : DaemonEvent κ π δ → Prop
  | .request (.registerClient path _) =>
    ∃ id ∈ (findLostClients path m.connectedClients.toList).getD [],
      id ∈ activeClients m.connectedClients
  | .request (.unregisterClient clientID) => clientID ∈ activeClients m.connectedClients
  | .request (.updateClientState clientID state) =>
    (state = "active" ∨ state = "online") ∧ ∃ client, m.connectedClients[clientID]? = some client ∧
      countActive m.numActive client (client.updateSessionState state) = 0
  | _ => False

variable {m : ClientsManager κ π δ}

/-- A client that changes its state may configure the device, and resets it when no client is active
any more. -/
lemma follows_updateClientState [DecidableEq π] {devID : δ} {v : DeviceView δ} {last : MKeysID}
    {clientID : κ} {state : String} (hsame : v.Follows last v)
    (hreset : m.resets (.request (.updateClientState clientID state)) → v.started.isSome →
      v.shown = .m0) :
    v.Follows last (m.requestView devID v (.updateClientState clientID state)) := by
  simp only [requestView]
  by_cases hstate : state ≠ "active" ∧ state ≠ "online"
  · rw [if_pos hstate]
    exact hsame
  · rw [if_neg hstate]
    cases hclient : m.connectedClients[clientID]? with
    | none => exact hsame
    | some client =>
      have hstate' : state = "active" ∨ state = "online" := by tauto
      have hoff : countActive m.numActive client (client.updateSessionState state) = 0 →
          v.started.isSome → v.shown = .m0 := fun hcount => hreset ⟨hstate', client, hclient, hcount⟩
      simp only
      split_ifs with hcount
      · refine (Client.follows_configure _ devID hsame).reset ?_
        rw [Client.configure_started, (Client.configure_shown _ devID v).1]
        exact hoff hcount
      · exact hsame.reset (hoff hcount)
      · exact Client.follows_configure _ devID hsame
      · exact hsame

lemma follows_startDevice [DecidableEq π] {devID id : δ} {v : DeviceView δ} (hv : v.Inv)
    {last : MKeysID} {clientID : κ} {result : OpenResult} (hview : m.devicesManager.view devID = v)
    (hlast : v.started.isSome → last = v.shown)
    (hopens : (m.opens devID (.request (.startDevice clientID id result))).isSome →
      v.closingSwitches.getLastD last = .m0) :
    v.Follows last (m.requestView devID v (.startDevice clientID id result)) := by
  simp only [requestView]
  simp only [opens] at hopens
  cases hclient : m.connectedClients[clientID]? with
  | none => exact DeviceView.follows_refl hlast
  | some client =>
    rw [hclient] at hopens
    simp only at hopens ⊢
    split_ifs at hopens ⊢ with hmay
    · obtain ⟨-, rfl⟩ := hmay
      refine client.follows_startView devID hv hlast fun hopen => ?_
      rw [hview, Option.isSome_map, hv.closingSwitches_of_toOpen hopen] at hopens
      exact hopens hopen
    · exact DeviceView.follows_refl hlast

lemma follows_restartDevice [DecidableEq π] {devID id : δ} {v : DeviceView δ} (hv : v.Inv)
    {last : MKeysID} {clientID : κ} {result : OpenResult} (hview : m.devicesManager.view devID = v)
    (hlast : v.started.isSome → last = v.shown)
    (hopens : (m.opens devID (.request (.restartDevice clientID id result))).isSome →
      v.closingSwitches.getLastD last = .m0) :
    v.Follows last (m.requestView devID v (.restartDevice clientID id result)) := by
  simp only [requestView]
  simp only [opens] at hopens
  cases hclient : m.connectedClients[clientID]? with
  | none => exact DeviceView.follows_refl hlast
  | some client =>
    rw [hclient] at hopens
    simp only at hopens ⊢
    split_ifs with hmay
    · obtain ⟨hmay, rfl⟩ := hmay
      simp only [Client.restartView]
      split_ifs with hstarted
      · rw [if_pos ⟨hmay, rfl, by rwa [hview]⟩, hview, Option.isSome_map] at hopens
        refine DeviceView.Follows.after (client.follows_startView devID hv.stop ?_ hopens)
        rw [DeviceView.stop_started]
        intro hsome
        cases hsome
      · exact DeviceView.follows_refl hlast
    · exact DeviceView.follows_refl hlast

theorem follows_requestView [DecidableEq π] {devID : δ} {v : DeviceView δ} (hv : v.Inv)
    {last : MKeysID} {r : Request κ π δ} (hview : m.devicesManager.view devID = v)
    (hlast : v.started.isSome → last = v.shown)
    (hreset : m.resets (.request r) → v.started.isSome → v.shown = .m0)
    (hopens : (m.opens devID (.request r)).isSome → v.closingSwitches.getLastD last = .m0) :
    v.Follows last (m.requestView devID v r) := by
  have hsame : v.Follows last v := DeviceView.follows_refl hlast
  cases r with
  | registerClient path clientID =>
    simp only [requestView]
    simp only [resets] at hreset
    cases hlost : findLostClients path m.connectedClients.toList with
    | none => exact hsame
    | some lost =>
      rw [hlost] at hreset
      simp only
      split_ifs with hactive
      · exact hsame.reset (hreset hactive)
      · exact hsame
  | unregisterClient clientID =>
    simp only [requestView]
    split_ifs with hactive
    · exact hsame.reset (hreset hactive)
    · exact hsame
  | updateClientState clientID state => exact follows_updateClientState hsame hreset
  | toggleClientReadyPropertie clientID =>
    simp only [requestView]
    cases m.connectedClients[clientID]? with
    | none => exact hsame
    | some client =>
      simp only
      split_ifs
      · exact client.follows_configure devID hsame
      · exact hsame
  | stopDevice clientID id =>
    simp only [requestView]
    cases m.connectedClients[clientID]? with
    | none => exact hsame
    | some client =>
      simp only
      split_ifs
      · exact DeviceView.follows_stop
      · exact hsame
  | startDevice clientID id result => exact follows_startDevice hv hview hlast hopens
  | restartDevice clientID id result => exact follows_restartDevice hv hview hlast hopens
  | _ => exact hsame

/-- What an event does to a started device, unless it resets or opens it. -/
theorem follows_viewStep [DecidableEq π] {devID : δ} {v : DeviceView δ} (hv : v.Inv)
    {last : MKeysID} {event : DaemonEvent κ π δ} (hview : m.devicesManager.view devID = v)
    (hlast : v.started.isSome → last = v.shown)
    (hreset : m.resets event → v.started.isSome → v.shown = .m0)
    (hopens : (m.opens devID event).isSome → v.closingSwitches.getLastD last = .m0) :
    v.Follows last (m.viewStep devID v event) := by
  cases event with
  | request r => exact follows_requestView hv hview hlast hreset hopens
  | udevAdd found =>
    simp only [viewStep]
    cases (m.devicesManager.searchSupportedDevices found).detectedDevices[devID]? with
    | none => exact DeviceView.follows_refl hlast
    | some det => exact DeviceView.follows_detect hlast det _
  | udevRemove found =>
    simp only [viewStep]
    split_ifs
    · exact DeviceView.follows_unplug
    · exact DeviceView.follows_refl hlast
  | checkThreads =>
    simp only [viewStep, DeviceView.checkThreads]
    split_ifs
    · exact DeviceView.follows_stop
    · exact DeviceView.follows_refl hlast
  | handleSleepEvent mode result =>
    cases mode with
    | true => exact DeviceView.follows_stop
    | false =>
      simp only [viewStep]
      simp only [opens] at hopens
      split_ifs at hopens ⊢
      · refine hv.follows_start hlast fun hopen => ?_
        rw [hview, Option.isSome_map, hv.closingSwitches_of_toOpen hopen] at hopens
        exact hopens hopen
      · exact DeviceView.follows_refl hlast
  | keysTurn id turn =>
    simp only [viewStep]
    split_ifs
    · exact DeviceView.follows_onDevice (fun device => announces_keysTurn turn) hlast
    · exact DeviceView.follows_refl hlast
  | stopThreads id =>
    simp only [viewStep]
    split_ifs
    · exact DeviceView.follows_onDevice (fun device => announces_of_mask rfl rfl) hlast
    · exact DeviceView.follows_refl hlast

end ClientsManager

end GLogiK
