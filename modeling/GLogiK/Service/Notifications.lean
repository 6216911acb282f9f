import GLogiK.Service.ConfigurationFiles

/-!
# The notifications that a service ignores

A service that saves the file of a device ignores the next notification of the device, which
should be the one of its own write.
-/

namespace GLogiK

variable {δ : Type*} [LinearOrder δ]

/-- What happens to a device and to its file while it stays plugged in. -/
inductive FileEvent
  | deviceMacroRecorded (keyID : GKeysID) (events : MacroType) (result : SaveResult)
  | deviceMacroCleared (keyID : GKeysID) (result : SaveResult)
  | writeExternally (file : Option DeviceConfiguration)
  | checkNotifyEvents

namespace ServiceFiles

variable (devID : δ) (s : ServiceFiles δ)

def fileStep : FileEvent → ServiceFiles δ
  | .deviceMacroRecorded keyID events result => s.deviceMacroRecorded devID keyID events result
  | .deviceMacroCleared keyID result         => s.deviceMacroCleared devID keyID result
  | .writeExternally file                    => s.writeExternally devID file
  | .checkNotifyEvents                       => s.checkNotifyEvents

/-- The notification of an external modification is still to be handled. -/
def ExternalWaits : Prop := ⟨devID, true⟩ ∈ s.notifications

instance : Decidable (s.ExternalWaits devID) :=
  inferInstanceAs (Decidable (_ ∈ s.notifications))

/-- If an external modification is handled, then the file is loaded, and the GUI is informed. -/
def HeedsExternal (event : FileEvent) : Prop :=
  event = .checkNotifyEvents → s.ExternalWaits devID →
    s.checkNotifyEvents.devices.properties devID =
        (s.devices.properties devID).map (·.load (s.files devID)) ∧
      devID ∈ s.checkNotifyEvents.saved.drop s.saved.length

/-- No save while an external modification waits, and no external modification while an ignore
entry is left. -/
def KeepsExternal : FileEvent → Prop
  | .deviceMacroRecorded keyID events _ =>
    (s.devices.setDeviceMacro devID keyID events).isSome → ¬ s.ExternalWaits devID
  | .deviceMacroCleared keyID _         =>
    (s.devices.clearDeviceMacro devID keyID).isSome → ¬ s.ExternalWaits devID
  | .writeExternally _                  => devID ∉ s.ignoredFSNotifications
  | .checkNotifyEvents                  => True

variable {devID} {s}

/-! ### Runs about one device -/

/-- The device is started, and nothing else was written. -/
structure OneFile (devID : δ) (s : ServiceFiles δ) : Prop where
  started : s.devices.startedDevices[devID]?.isSome
  notifications : ∀ write ∈ s.notifications, write.devID = devID

/-- The external modification that waits will be ignored. -/
def Swallows (devID : δ) (s : ServiceFiles δ) : Prop :=
  devID ∈ s.ignoredFSNotifications ∧ s.ExternalWaits devID

lemma OneFile.reloads (h : s.OneFile devID) : s.Reloads devID := by
  constructor
  · obtain ⟨device, hdevice⟩ := Option.isSome_iff_exists.mp h.started
    rw [Knows, DevicesHandler.properties, hdevice]
    rfl
  · intro write hwrite
    rw [h.notifications write hwrite]

/-- What the write does, notified or not. -/
lemma OneFile.notify (h : s.OneFile devID) (external : Bool) :
    (s.notify devID external).OneFile devID ∧
      ((s.notify devID external).ExternalWaits devID ↔ s.ExternalWaits devID ∨ external) := by
  refine ⟨⟨h.started, ?_⟩, ?_⟩
  · intro write hwrite
    rcases List.mem_append.mp hwrite with hold | hnew
    · exact h.notifications write hold
    · rw [List.mem_singleton.mp hnew]
  · simp [ExternalWaits, ServiceFiles.notify, eq_comm]

/-- What a save does to the ignore entry and to the notifications. -/
lemma save_spec (h : s.OneFile devID) (result : SaveResult) :
    (s.saveDeviceConfigurationFile devID result).OneFile devID ∧
      devID ∈ (s.saveDeviceConfigurationFile devID result).ignoredFSNotifications ∧
      ((s.saveDeviceConfigurationFile devID result).ExternalWaits devID ↔ s.ExternalWaits devID) := by
  obtain ⟨device, hdevice⟩ := Option.isSome_iff_exists.mp h.started
  simp only [saveDeviceConfigurationFile, hdevice]
  -- the notification of the service's own write is no external one
  have hown : ∀ file, ({ s with
        ignoredFSNotifications := insert devID s.ignoredFSNotifications }.writeFile devID file).OneFile
      devID := fun file => ⟨h.started, h.notifications⟩
  have hnotify := fun file => (hown file).notify false
  cases result with
  | saved =>
    obtain ⟨hone, hwaits⟩ := hnotify (some device.toDeviceConfiguration)
    exact ⟨⟨hone.started, hone.notifications⟩, Finset.mem_insert_self _ _, hwaits.trans (by simp; rfl)⟩
  | openFails => exact ⟨⟨h.started, h.notifications⟩, Finset.mem_insert_self _ _, Iff.rfl⟩
  | writeFails notified =>
    cases notified with
    | true =>
      obtain ⟨hone, hwaits⟩ := hnotify none
      exact ⟨⟨hone.started, hone.notifications⟩, Finset.mem_insert_self _ _,
        hwaits.trans (by simp; rfl)⟩
    | false => exact ⟨⟨h.started, h.notifications⟩, Finset.mem_insert_self _ _, Iff.rfl⟩

/-- A handler changes the keys of the device, and saves its file. -/
lemma OneFile.change (h : s.OneFile devID) {change : Option (DevicesHandler δ)}
    {s' : ServiceFiles δ} {result : SaveResult} (hs' : s' = match change with
      | none => s
      | some devices => { s with devices }.saveDeviceConfigurationFile devID result)
    (hchange : DevicesHandler.SameBanks s.devices (change.getD s.devices)) :
    s'.OneFile devID ∧ (s'.Swallows devID ↔
      s.Swallows devID ∨ ¬ (change.isSome → ¬ s.ExternalWaits devID)) := by
  cases change with
  | none =>
    subst hs'
    exact ⟨h, by simp⟩
  | some devices =>
    subst hs'
    have hone : { s with devices }.OneFile devID :=
      ⟨(hchange.1 devID).1.trans h.started, h.notifications⟩
    obtain ⟨hone', hignored, hwaits⟩ := save_spec hone result
    refine ⟨hone', ?_⟩
    rw [Swallows, hwaits]
    simp only [hignored, true_and, Option.isSome_some, forall_const, not_not]
    exact ⟨Or.inr, fun hor => hor.elim And.right id⟩

/-- A step other than a check. -/
lemma OneFile.step (h : s.OneFile devID) {event : FileEvent} (hevent : event ≠ .checkNotifyEvents) :
    (s.fileStep devID event).OneFile devID ∧ ((s.fileStep devID event).Swallows devID ↔
      s.Swallows devID ∨ ¬ s.KeepsExternal devID event) := by
  cases event with
  | deviceMacroRecorded keyID events result =>
    exact h.change rfl (DevicesHandler.sameBanks_setDeviceMacro keyID events)
  | deviceMacroCleared keyID result =>
    exact h.change rfl (DevicesHandler.sameBanks_clearDeviceMacro keyID)
  | writeExternally file =>
    have hwrite : (s.writeFile devID file).OneFile devID := ⟨h.started, h.notifications⟩
    obtain ⟨hone, hwaits⟩ := hwrite.notify true
    have hwaits' : (s.fileStep devID (.writeExternally file)).ExternalWaits devID :=
      hwaits.mpr (Or.inr rfl)
    refine ⟨hone, ?_⟩
    simp only [Swallows, hwaits', and_true, KeepsExternal, not_not]
    exact ⟨Or.inr, fun hor => hor.elim And.left id⟩
  | checkNotifyEvents => exact absurd rfl hevent

/-- A check takes the ignore entry, or loads the file. -/
lemma OneFile.check (h : s.OneFile devID) :
    s.checkNotifyEvents.OneFile devID ∧ ¬ s.checkNotifyEvents.Swallows devID ∧
      (s.HeedsExternal devID .checkNotifyEvents ↔ ¬ s.Swallows devID) := by
  by_cases hne : s.notifications = []
  · have hcheck : s.checkNotifyEvents = s := if_pos hne
    have hwaits : ¬ s.ExternalWaits devID := by simp [ExternalWaits, hne]
    rw [hcheck]
    refine ⟨h, fun hswallows => hwaits hswallows.2, ?_⟩
    simp [HeedsExternal, Swallows, hwaits]
  · have hreloaded := reloaded_checkNotifyEvents hne devID
    rw [if_pos h.reloads] at hreloaded
    have hwaits : ¬ s.checkNotifyEvents.ExternalWaits devID := by
      rw [ExternalWaits, hreloaded.notifications]
      exact List.not_mem_nil
    refine ⟨⟨hreloaded.started.trans h.started, ?_⟩, fun hswallows => hwaits hswallows.2, ?_⟩
    · rw [hreloaded.notifications]
      exact nofun
    · obtain ⟨new, hsaved, hnew⟩ := hreloaded.saved
      have hproperties := hreloaded.properties
      simp only [HeedsExternal, hsaved, List.drop_left, hnew, Swallows, not_and', true_implies]
      refine imp_congr_right fun _ => ?_
      by_cases hignored : devID ∈ s.ignoredFSNotifications
      · simp [hignored]
      · simp [hignored, hproperties]

end ServiceFiles

/-- In a run of saves and external modifications of the file of a started device, at the end of
which all notifications are handled, every external modification is loaded just when no save comes
while one waits and none comes while an ignore entry is left. -/
theorem heedsExternal_iff (devID : δ) (s : ServiceFiles δ)
    (hstarted : s.devices.startedDevices[devID]?.isSome) (hread : s.notifications = [])
    (events : List FileEvent) :
    Run.Steps (ServiceFiles.fileStep devID) (ServiceFiles.HeedsExternal devID) s
        (events ++ [.checkNotifyEvents]) ↔
      Run.Steps (ServiceFiles.fileStep devID) (ServiceFiles.KeepsExternal devID) s events := by
  have hrun : ∀ (events : List FileEvent) (s : ServiceFiles δ), s.OneFile devID →
      (Run.Steps (ServiceFiles.fileStep devID) (ServiceFiles.HeedsExternal devID) s
        (events ++ [.checkNotifyEvents]) ↔ ¬ s.Swallows devID ∧
      Run.Steps (ServiceFiles.fileStep devID) (ServiceFiles.KeepsExternal devID) s events) := by
    intro events
    induction events with
    | nil =>
      intro s h
      simp only [List.nil_append, Run.steps_cons, Run.steps_nil, and_true]
      exact h.check.2.2
    | cons event events ih =>
      intro s h
      rw [List.cons_append, Run.steps_cons, Run.steps_cons]
      by_cases hevent : event = .checkNotifyEvents
      · subst hevent
        obtain ⟨hone, hswallows, hheeds⟩ := h.check
        have htail := ih _ hone
        rw [← show s.fileStep devID .checkNotifyEvents = s.checkNotifyEvents from rfl] at htail
        rw [htail, hheeds]
        simp only [ServiceFiles.KeepsExternal, true_and]
        exact and_congr_right fun _ => and_iff_right hswallows
      · obtain ⟨hone, hswallows⟩ := h.step hevent
        rw [ih _ hone, hswallows, not_or, not_not, and_assoc]
        exact and_iff_right fun hcheck => absurd hcheck hevent
  have hone : s.OneFile devID := ⟨hstarted, by simp [hread]⟩
  rw [hrun events s hone]
  have hwaits : ¬ s.ExternalWaits devID := by simp [ServiceFiles.ExternalWaits, hread]
  exact and_iff_right fun hswallows => hwaits hswallows.2

/-- The service of a started keyboard that has the key G1. -/
def g510Service : ServiceFiles ℕ where
  devices := ({} : DevicesHandler ℕ).startDevice 0
    { GKeysBanks := fun _ keyID => if keyID = 1 then some {} else none }
  configFilePath _ := "G510.cfg"

/-- A press and a release of the key A. -/
def strokeA : MacroType := [⟨30, .eventKeyPress, 0⟩, ⟨30, .eventKeyRelease, 5⟩]

/-- A macro is saved and the notification is handled, then another program writes the file. -/
theorem heedsExternal_saved :
    Run.Steps (ServiceFiles.fileStep 0) (ServiceFiles.HeedsExternal 0) g510Service
      ([.deviceMacroRecorded 1 strokeA .saved, .checkNotifyEvents, .writeExternally (some {})] ++
        [.checkNotifyEvents]) := by
  apply (heedsExternal_iff 0 g510Service (by decide +kernel) rfl _).mpr
  refine ⟨fun _ => ?_, trivial, ?_, trivial⟩
  · exact List.not_mem_nil
  · have hignored : ¬ 0 ∈ (Run.run (ServiceFiles.fileStep 0) g510Service
        [.deviceMacroRecorded 1 strokeA .saved, .checkNotifyEvents]).ignoredFSNotifications := by
      decide +kernel
    exact hignored

/-- The file can't be opened when the macro is saved: the next external modification is ignored. -/
theorem not_heedsExternal_openFails :
    ¬ Run.Steps (ServiceFiles.fileStep 0) (ServiceFiles.HeedsExternal 0) g510Service
      ([.deviceMacroRecorded 1 strokeA .openFails, .writeExternally (some {})] ++
        [.checkNotifyEvents]) := by
  rintro ⟨-, -, hheeds, -⟩
  have hloads := (hheeds rfl (by decide +kernel)).2
  revert hloads
  decide +kernel

end GLogiK
