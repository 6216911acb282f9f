import GLogiK.Lib.Run
import GLogiK.Service.StoredEvents
import GLogiK.Service.VirtualKeyboard

/-!
# Playing the macros

The service plays the macro of a G-key from whatever its banks hold at that time. The keys of the
virtual keyboard are up after every event, since every macro that gets into a bank leaves none down.
-/

namespace GLogiK

open BanksByID

variable {δ : Type*} [LinearOrder δ]

/-! ### The G-keys of the service -/

/-- The members of `DBusHandler` that the G-keys need. `spawned` only remembers. -/
structure KeysService (δ : Type*) [LinearOrder δ] where
  devices : ServiceDevices δ
  registerStatus : Bool := false
  sessionActive : Bool := false
  virtualKeyboard : VirtualKeyboard := {}
  spawned : List String := []

/-- `results` are the results of the writes, one for each event of a macro. -/
inductive KeysServiceEvent (δ : Type*)
  | devices (event : DevicesEvent δ)
  | session (registerStatus sessionActive : Bool)
  | deviceGKeyEvent (devID : δ) (keyID : GKeysID) (results : ℕ → WriteResult)

namespace KeysService

def runAction (s : KeysService δ) (results : ℕ → WriteResult) : KeyAction → KeysService δ
  | .nothing              => s
  | .sendMacro events     => { s with virtualKeyboard := s.virtualKeyboard.sendMacro results events }
  | .spawnProcess command => { s with spawned := s.spawned ++ [command] }

/-- Only a started device has banks. -/
def deviceGKeyEvent (s : KeysService δ) (devID : δ) (keyID : GKeysID)
    (results : ℕ → WriteResult) : KeysService δ :=
  if !s.registerStatus || !s.sessionActive then s
  else
    match s.devices.startedDevices[devID]? with
    | none => s
    | some device =>
      match runEvent device.GKeysBanks device.currentBankID.byte (GKeysID.byte keyID) with
      | .error _   => s
      | .ok action => s.runAction results action

def step (s : KeysService δ) : KeysServiceEvent δ → KeysService δ
  | .devices event                         => { s with devices := s.devices.step event }
  | .session registerStatus sessionActive  => { s with registerStatus, sessionActive }
  | .deviceGKeyEvent devID keyID results   => s.deviceGKeyEvent devID keyID results

end KeysService

/-! ### Macros that leave no key down -/

/-- A received macro has few presses, or no key is held where it is cut. -/
def ReceivedReleases (events : MacroType) : Prop :=
  PressOrRelease events ∧ (pressCount events ≤ 11 ∨ ReleasedAtCut events)

/-- The macro of the event, if it has one, is what `checkMacro` has left of such a macro. -/
def GKeysEvent.Checked (event : GKeysEvent) : Prop :=
  event.GKeyEventType = .gkeyMacro →
    ∃ events, ReceivedReleases events ∧ event.GKeyMacro = checkMacro events

lemma keptByClear_checked : KeptByClear GKeysEvent.Checked where
  default htype := by cases htype
  clear _ _ htype := by cases htype

lemma replay_checkMacro {events : MacroType} (h : ReceivedReleases events) :
    replay (checkMacro events) = ∅ := by
  obtain ⟨hevents, hcut⟩ := h
  have hbalanced : Balanced (checkMacro events) := by
    rw [checkMacro_eq hevents]
    split_ifs with hpress
    · exact balanced_fixedReleases events
    · exact take_fixedReleases_of_released hevents (hcut.resolve_left fun hle => hpress (by omega))
  exact hbalanced.replay_eq

/-- The macros that the event brings into the banks were checked, and its writes don't fail. -/
def KeysServiceEvent.Quiet : KeysServiceEvent δ → Prop
  | .devices (.setDeviceMacro _ _ events) => ReceivedReleases events
  | .devices event                        => event.Brings GKeysEvent.Checked
  | .session _ _                          => True
  | .deviceGKeyEvent _ _ results          => ∀ i, results i ≠ .keyFails

omit [LinearOrder δ] in
lemma brings_of_quiet {event : DevicesEvent δ} (h : KeysServiceEvent.Quiet (.devices event)) :
    event.Brings GKeysEvent.Checked := by
  cases event with
  | setDeviceMacro devID keyID events => exact fun _ => ⟨events, h, rfl⟩
  | startDevice | stopDevice | unplugDevice | clearDevices | saveDeviceConfigurationFile |
    setDeviceCurrentBankID | clearDeviceMacro | checkNotifyEvents => exact h

namespace KeysService

variable {s : KeysService δ}

/-- No key is down, and the macros of the banks were checked. -/
structure Quiet (s : KeysService δ) : Prop where
  down : s.virtualKeyboard.down = ∅
  events : s.devices.AllEvents GKeysEvent.Checked

/-- A macro that is played is one of a bank. -/
lemma replay_of_runEvent {banks : BanksByID} {bankID keyID : EnumByte} {events : MacroType}
    (h : banks.AllEvents GKeysEvent.Checked)
    (hrun : runEvent banks bankID keyID = .ok (.sendMacro events)) : replay events = ∅ := by
  rw [runEvent] at hrun
  by_cases hkey : keyID = invalidKeyID
  · rw [if_pos hkey] at hrun
    cases hrun
  · rw [if_neg hkey] at hrun
    cases hbank : banks[bankID]? with
    | none =>
      rw [hbank] at hrun
      cases hrun
    | some bank =>
      rw [hbank] at hrun
      dsimp only at hrun
      cases hevent : bank[keyID]? with
      | none =>
        rw [hevent] at hrun
        cases hrun
      | some event =>
        rw [hevent] at hrun
        dsimp only at hrun
        have hchecked := h bankID keyID event
          (by rw [GKeysEventManager.slot_eq_of_bank hbank, hevent])
        cases htype : event.GKeyEventType with
        | gkeyMacro =>
          rw [htype] at hrun
          cases hrun
          obtain ⟨received, hreceived, hstored⟩ := hchecked htype
          rw [hstored]
          exact replay_checkMacro hreceived
        | gkeyRuncmd | gkeyInactive | gkeyInvalid =>
          rw [htype] at hrun
          cases hrun

lemma Quiet.deviceGKeyEvent (h : s.Quiet) {results : ℕ → WriteResult}
    (hresults : ∀ i, results i ≠ .keyFails) (devID : δ) (keyID : GKeysID) :
    (s.deviceGKeyEvent devID keyID results).Quiet := by
  rw [KeysService.deviceGKeyEvent]
  split_ifs
  · exact h
  · cases hdevice : s.devices.startedDevices[devID]? with
    | none => exact h
    | some device =>
      dsimp only
      cases hrun : runEvent device.GKeysBanks device.currentBankID.byte (GKeysID.byte keyID) with
      | error e => exact h
      | ok action =>
        cases action with
        | nothing => exact h
        | spawnProcess command => exact ⟨h.down, h.events⟩
        | sendMacro events =>
          have hreleases :=
            replay_of_runEvent (h.events.started devID device hdevice) hrun
          refine ⟨?_, h.events⟩
          change (s.virtualKeyboard.sendMacro results events).down = ∅
          rw [VirtualKeyboard.down_sendMacro h.down hresults, hreleases, Finset.filter_empty]

lemma Quiet.step (h : s.Quiet) {event : KeysServiceEvent δ} (hevent : event.Quiet) :
    (s.step event).Quiet := by
  cases event with
  | devices event =>
    exact ⟨h.down, h.events.step keptByClear_checked (brings_of_quiet hevent)⟩
  | session => exact ⟨h.down, h.events⟩
  | deviceGKeyEvent devID keyID results => exact h.deviceGKeyEvent hevent devID keyID

end KeysService

/-- In every run of the service, whatever the order of the recordings, bank switches, reloads and
keys, no key of the virtual keyboard is down between two events, as long as the macros that are
received have few presses or hold no key where they are cut, also those that came into a file. -/
theorem noKeyDown_run (directory : String → String) (events : List (KeysServiceEvent δ))
    (h : ∀ event ∈ events, event.Quiet) :
    (Run.run KeysService.step { devices := { directory := directory } }
      events).virtualKeyboard.down = ∅ := by
  have hstart : KeysService.Quiet (δ := δ) { devices := { directory := directory } } := by
    refine ⟨rfl, ?_, ?_⟩ <;>
    · intro devID device hget
      simp at hget
  have hquiet : KeysService.Quiet
      (Run.run KeysService.step ({ devices := { directory := directory } } : KeysService δ) events) :=
    (Run.steps_of_forall h).induction hstart fun s event hs hevent => hs.step hevent
  exact hquiet.down

/-- The session of a device whose key G1 is recorded and pressed. -/
def controlEvents : List (KeysServiceEvent ℕ) :=
  [.session true true,
    .devices (.startDevice 0 {
      properties := some ("Logitech", "Gaming Keyboard", "G510", 15)
      MKeysIDArray := [1]
      GKeysIDArray := [1] }),
    .devices (.setDeviceMacro 0 1 [⟨29, .eventKeyPress, 5⟩]),
    .deviceGKeyEvent 0 1 fun _ => .written]

/-- Left control is recorded without its release. It is pressed and released when G1 is. -/
theorem noKeyDown_run_control :
    let s := Run.run KeysService.step { devices := { directory := id } } controlEvents
    VirtualKeyboard.seen s.virtualKeyboard.actions =
        [⟨29, .eventKeyPress, 5⟩, ⟨29, .eventKeyRelease, 1⟩] ∧
      s.virtualKeyboard.down = ∅ := by
  intro s
  refine ⟨by decide +kernel, noKeyDown_run id controlEvents ?_⟩
  intro event hevent
  simp only [controlEvents, List.mem_cons, List.not_mem_nil, or_false] at hevent
  rcases hevent with rfl | rfl | rfl | rfl
  · trivial
  · rintro file ⟨⟩
  · exact ⟨by decide, Or.inl (by decide)⟩
  · exact fun i => by simp

end GLogiK
