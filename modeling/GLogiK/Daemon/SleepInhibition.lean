import GLogiK.Daemon.Suspend

/-!
# Inhibiting the sleep

logind hands out a lock that delays the sleep of the computer, as a file descriptor. When the
computer is about to sleep, the devices are stopped before the lock is given back, and a new one is
asked for after the sleep.
-/

namespace GLogiK

variable {δ : Type*} [LinearOrder δ]

/-! ### The lock -/

/-- `logind` tells that logind has answered once, and `listens` that its signals are received. The
descriptors of `locks` are open. -/
structure SleepInhibition (δ : Type*) [LinearOrder δ] where
  manager : DevicesManager δ
  logind : Bool := false
  listens : Bool := false
  delayLockPID : ℤ := -1
  locks : Finset ℤ := ∅

/-- A reply of logind has the descriptor of a lock. -/
inductive SleepEvent (δ : Type*)
  | startSleepInhibition (reply : Option ℤ)
  | handleSleepEvent (mode : Bool) (reply : Option ℤ) (opens : δ → OpenResult)
  | stopSleepInhibition
  | operation (operation : ManagerOperation δ)

namespace SleepInhibition

variable (s : SleepInhibition δ)

/-- The system opens no descriptor that is open already, and no negative one. -/
def Opens (fd : ℤ) : Prop := 0 ≤ fd ∧ fd ∉ s.locks

instance (fd : ℤ) : Decidable (s.Opens fd) := inferInstanceAs (Decidable (_ ∧ _))

/-- Without a reply, everything stays as it is. The descriptor is the last of the numbers that were
received and not read: here no message before leaves one, so that it is the one of the reply. -/
def inhibitSleepState (reply : Option ℤ) : SleepInhibition δ :=
  match reply with
  | none    => s
  | some fd =>
    if s.Opens fd then
      { s with logind := true, delayLockPID := fd, locks := insert fd s.locks }
    else s

/-- A failure of `close` is only logged. -/
def releaseDelayLock : SleepInhibition δ :=
  if s.delayLockPID ≠ -1 then { s with delayLockPID := -1, locks := s.locks.erase s.delayLockPID }
  else s

def startSleepInhibition (reply : Option ℤ) : SleepInhibition δ :=
  let s := s.inhibitSleepState reply
  if s.logind then { s with listens := true } else s

def stopSleepInhibition : SleepInhibition δ :=
  (if s.logind then { s with listens := false } else s).releaseDelayLock

def handleSleepEvent (mode : Bool) (reply : Option ℤ) (opens : δ → OpenResult) :
    SleepInhibition δ :=
  if mode then { s with manager := s.manager.stopInitializedDevices }.releaseDelayLock
  else
    let s := s.inhibitSleepState reply
    { s with manager := s.manager.startSleepingDevices opens }

def step (s : SleepInhibition δ) : SleepEvent δ → SleepInhibition δ
  | .startSleepInhibition reply        => s.startSleepInhibition reply
  | .handleSleepEvent mode reply opens =>
    if s.listens then s.handleSleepEvent mode reply opens else s
  | .stopSleepInhibition               => s.stopSleepInhibition
  | .operation operation               => { s with manager := s.manager.operate operation }

/-! ### One lock at a time -/

/-- Every lock that is open is the one that will be given back. -/
def Remembered : Prop := s.locks = if s.delayLockPID = -1 then ∅ else {s.delayLockPID}

/-- A lock is only taken when none is held. -/
def TakesOne (s : SleepInhibition δ) : SleepEvent δ → Prop
  | .startSleepInhibition (some fd) => s.Opens fd → s.delayLockPID = -1
  | .handleSleepEvent false (some fd) _ => s.listens → s.Opens fd → s.delayLockPID = -1
  | _ => True

variable {s}

lemma remembered_inhibitSleepState_iff (h : s.Remembered) (fd : ℤ) :
    (s.inhibitSleepState (some fd)).Remembered ↔ (s.Opens fd → s.delayLockPID = -1) := by
  rw [inhibitSleepState]
  split_ifs with hopens
  · obtain ⟨hpos, hnew⟩ := hopens
    have hne : fd ≠ -1 := by
      rintro rfl
      exact absurd hpos (by decide)
    have hopens : s.Opens fd := ⟨hpos, hnew⟩
    rw [Remembered] at h
    simp only [Remembered, if_neg hne]
    constructor
    · intro hinsert _
      by_contra hheld
      rw [h, if_neg hheld] at hinsert hnew
      have hold : s.delayLockPID ∈ ({fd} : Finset ℤ) := by
        rw [← hinsert]
        exact Finset.mem_insert_of_mem (Finset.mem_singleton_self _)
      rw [Finset.mem_singleton] at hold
      exact hnew (hold ▸ Finset.mem_singleton_self _)
    · intro hnone
      rw [h, if_pos (hnone hopens)]
      exact insert_empty_eq fd
  · exact iff_of_true h fun hopens' => absurd hopens' hopens

lemma Remembered.releaseDelayLock (h : s.Remembered) :
    s.releaseDelayLock.Remembered ∧ s.releaseDelayLock.locks = ∅ := by
  rw [Remembered] at h
  rw [SleepInhibition.releaseDelayLock]
  split_ifs with hheld
  · rw [if_neg hheld] at h
    have herase : s.locks.erase s.delayLockPID = ∅ := by
      rw [h, Finset.erase_singleton]
    refine ⟨?_, herase⟩
    simp only [Remembered, if_true]
    exact herase
  · rw [not_not] at hheld
    have hlocks : s.locks = ∅ := by
      rw [h, if_pos hheld]
    refine ⟨?_, hlocks⟩
    rw [Remembered, if_pos hheld]
    exact hlocks

/-- The locks are remembered after a step exactly when the step takes no second one. -/
lemma remembered_step_iff (h : s.Remembered) (event : SleepEvent δ) :
    (s.step event).Remembered ↔ s.TakesOne event := by
  cases event with
  | startSleepInhibition reply =>
    have hlistens : (s.step (.startSleepInhibition reply)).Remembered ↔
        (s.inhibitSleepState reply).Remembered := by
      simp only [step, startSleepInhibition]
      split_ifs
      · exact Iff.rfl
      · exact Iff.rfl
    rw [hlistens]
    cases reply with
    | none => exact iff_of_true h trivial
    | some fd => exact remembered_inhibitSleepState_iff h fd
  | handleSleepEvent mode reply opens =>
    by_cases hlistens : s.listens
    · have hstep : s.step (.handleSleepEvent mode reply opens) =
          s.handleSleepEvent mode reply opens := if_pos hlistens
      rw [hstep]
      cases mode with
      | true =>
        have hstopped : Remembered { s with manager := s.manager.stopInitializedDevices } := h
        exact iff_of_true hstopped.releaseDelayLock.1 trivial
      | false =>
        cases reply with
        | none => exact iff_of_true h trivial
        | some fd =>
          have hinhibit := remembered_inhibitSleepState_iff h fd
          exact hinhibit.trans ⟨fun himp _ => himp, fun himp => himp hlistens⟩
    · have hstep : s.step (.handleSleepEvent mode reply opens) = s := if_neg hlistens
      rw [hstep]
      refine iff_of_true h ?_
      cases mode with
      | true => trivial
      | false =>
        cases reply with
        | none => trivial
        | some fd => exact fun hlistens' => absurd hlistens' hlistens
  | stopSleepInhibition =>
    have hstop : (s.step .stopSleepInhibition).Remembered := by
      simp only [step, stopSleepInhibition]
      split_ifs
      · exact Remembered.releaseDelayLock (s := { s with listens := false }) h |>.1
      · exact h.releaseDelayLock.1
    exact iff_of_true hstop trivial
  | operation operation => exact iff_of_true h trivial

/-! ### Going to sleep -/

lemma manager_inhibitSleepState (reply : Option ℤ) :
    (s.inhibitSleepState reply).manager = s.manager := by
  rw [inhibitSleepState.eq_def]
  split
  · rfl
  · split_ifs <;> rfl

lemma manager_releaseDelayLock : s.releaseDelayLock.manager = s.manager := by
  rw [releaseDelayLock]
  split_ifs <;> rfl

/-- The manager does what its operations do. -/
lemma settled_step (h : s.manager.Settled) (event : SleepEvent δ) :
    (s.step event).manager.Settled := by
  cases event with
  | startSleepInhibition reply =>
    have hmanager : (s.step (.startSleepInhibition reply)).manager = s.manager := by
      simp only [step, startSleepInhibition]
      split_ifs <;> exact manager_inhibitSleepState reply
    rwa [hmanager]
  | handleSleepEvent mode reply opens =>
    simp only [step]
    split_ifs
    · cases mode with
      | true =>
        rw [handleSleepEvent, if_pos rfl, manager_releaseDelayLock]
        exact h.operate .stopInitializedDevices
      | false =>
        simp only [handleSleepEvent, Bool.false_eq_true, if_false, manager_inhibitSleepState]
        exact h.operate (.startSleepingDevices opens)
    · exact h
  | stopSleepInhibition =>
    have hmanager : (s.step .stopSleepInhibition).manager = s.manager := by
      simp only [step, stopSleepInhibition]
      split_ifs <;> exact manager_releaseDelayLock
    rwa [hmanager]
  | operation operation => exact h.operate operation

/-- The locks and the devices are what they should be. -/
structure Sound (s : SleepInhibition δ) : Prop where
  remembered : s.Remembered
  settled : s.manager.Settled

lemma Sound.step (h : s.Sound) {event : SleepEvent δ} (hone : s.TakesOne event) :
    (s.step event).Sound :=
  ⟨(remembered_step_iff h.remembered event).mpr hone, settled_step h.settled event⟩

/-- In every run of the daemon, no lock of logind is lost exactly when none is taken while another
one is held. Then the daemon holds no lock and no device is started once the computer may sleep,
and no lock is left at the end. -/
theorem remembered_run (drivers : List (KeyboardDriver δ)) (events : List (SleepEvent δ)) :
    let start : SleepInhibition δ := { manager := { drivers := drivers } }
    (Run.Steps step (fun s event => (s.step event).Remembered) start events ↔
      Run.Steps step TakesOne start events) ∧
    (Run.Steps step TakesOne start events →
      let s := Run.run step start events
      (∀ reply opens, (s.handleSleepEvent true reply opens).locks = ∅ ∧
        ∀ devID : δ, (s.handleSleepEvent true reply opens).manager.startedDevices[devID]? = none) ∧
      s.stopSleepInhibition.locks = ∅) := by
  intro start
  have hstart : start.Remembered := rfl
  have hsettled : start.manager.Settled := DevicesManager.settled_loaded drivers
  refine ⟨?_, fun htakes => ?_⟩
  · exact Run.steps_iff_of_step hstart (fun s event h => remembered_step_iff h event) events
  · obtain ⟨hremembered, hmanager⟩ : (Run.run step start events).Sound :=
      htakes.induction ⟨hstart, hsettled⟩ fun s event h hone => h.step hone
    refine ⟨fun reply opens => ⟨?_, fun devID => ?_⟩, ?_⟩
    · rw [handleSleepEvent, if_pos rfl]
      exact Remembered.releaseDelayLock
        (s := { Run.run step start events with
          manager := (Run.run step start events).manager.stopInitializedDevices }) hremembered |>.2
    · rw [handleSleepEvent, if_pos rfl, manager_releaseDelayLock]
      exact (DevicesManager.sleeps_stopInitializedDevices hmanager).started devID
    · rw [stopSleepInhibition]
      split_ifs
      · exact Remembered.releaseDelayLock
          (s := { Run.run step start events with listens := false }) hremembered |>.2
      · exact hremembered.releaseDelayLock.2

end SleepInhibition

end GLogiK
