import GLogiK.Base
import GLogiK.Lib.Run

/-!
# The threads of the devices

`openDevice` spawns a thread for the keys of a device, and before it one for its LCD screen. A
thread records its ID in the device when it starts. `closeDevice` tells the threads to stop, joins
those whose IDs it reads in the device, and erases the device. In between, the threads run on.
-/

namespace GLogiK

/-! ### Threads -/

/-- The loop that a thread runs, `listenLoop` or `LCDScreenLoop`. -/
inductive LoopKind
  | keys
  | LCD
  deriving DecidableEq, Repr

/-- A thread looks for its device when it starts, and then has a reference to it. -/
inductive ThreadPhase
  | spawned
  | looping
  | ended
  deriving DecidableEq, Repr

/-- A thread of `_threads`. -/
structure DeviceThread (δ : Type*) where
  id : ℕ
  devID : δ
  kind : LoopKind
  phase : ThreadPhase := .spawned
  deriving DecidableEq

/-- The members of a device that its threads need. No thread has the ID `none`. -/
structure ThreadsDevice where
  hasLCD : Bool
  keysThreadID : Option ℕ := none
  LCDThreadID : Option ℕ := none
  threadsStatus : Bool := true
  deriving DecidableEq, Repr

def ThreadsDevice.threadID (device : ThreadsDevice) : LoopKind → Option ℕ
  | .keys => device.keysThreadID
  | .LCD  => device.LCDThreadID

def ThreadsDevice.setThreadID (device : ThreadsDevice) (id : ℕ) : LoopKind → ThreadsDevice
  | .keys => { device with keysThreadID := some id }
  | .LCD  => { device with LCDThreadID := some id }

/-- What the thread that opens and closes the devices does next. -/
inductive DriverPhase (δ : Type*)
  | idle
  | spawn (kind : LoopKind) (devID : δ)
  | join (kind : LoopKind) (devID : δ)
  | erase (devID : δ)
  deriving DecidableEq

structure DriverThreads (δ : Type*) [LinearOrder δ] where
  devices : StdMap δ ThreadsDevice := ∅
  threads : List (DeviceThread δ) := []
  phase : DriverPhase δ := .idle

/-- How a turn of a loop ends; `fatalErrors` stops all threads of the device. -/
inductive LoopResult
  | goesOn
  | fatalErrors
  | daemonStops
  deriving DecidableEq, Repr

/-- `next` is a step of `openDevice` or `closeDevice`, with the ID of the thread that is spawned;
`none` is a `std::system_error`. -/
inductive ThreadsEvent (δ : Type*)
  | initializeDevice (devID : δ) (hasLCD : Bool)
  | openDevice (devID : δ)
  | closeDevice (devID : δ)
  | next (spawned : Option ℕ)
  | start (id : ℕ)
  | turn (id : ℕ) (result : LoopResult)
  deriving DecidableEq

namespace DriverThreads

variable {δ : Type*} [LinearOrder δ] (s : DriverThreads δ)

def setDevice (devID : δ) (device : ThreadsDevice) : DriverThreads δ :=
  { s with devices := s.devices.insert devID device }

def setPhase (id : ℕ) (phase : ThreadPhase) : DriverThreads δ :=
  { s with
    threads := s.threads.map fun thread => if thread.id = id then { thread with phase } else thread }

def getThread (id : ℕ) : Option (DeviceThread δ) := s.threads.find? (·.id = id)

/-! ### Opening and closing -/

/-- Only one operation runs at a time. -/
def initializeDevice (devID : δ) (hasLCD : Bool) : DriverThreads δ :=
  if s.phase = .idle ∧ ¬ s.devices.contains devID then s.setDevice devID { hasLCD } else s

/-- The USB device was opened. -/
def openDevice (devID : δ) : DriverThreads δ :=
  match s.phase, s.devices[devID]? with
  | .idle, some device => { s with phase := .spawn (if device.hasLCD then .LCD else .keys) devID }
  | _, _               => s

/-- The start of `joinDeviceThreads`. -/
def stopThreads (devID : δ) : DriverThreads δ :=
  match s.devices[devID]? with
  | none        => { s with phase := .idle }
  | some device =>
    { s.setDevice devID { device with threadsStatus := false } with phase := .join .keys devID }

def closeDevice (devID : δ) : DriverThreads δ :=
  if s.phase = .idle then s.stopThreads devID else s

/-- A new thread has an ID that no thread of `_threads` has. -/
def spawnThread (kind : LoopKind) (devID : δ) : Option ℕ → DriverThreads δ
  | none    => s.stopThreads devID
  | some id =>
    if (s.getThread id).isSome then s
    else
      { s with
        threads := s.threads ++ [⟨id, devID, kind, .spawned⟩]
        phase := match kind with
          | .LCD  => .spawn .keys devID
          | .keys => .idle }

/-- The join waits for the thread whose ID was read. -/
def Waits (id : Option ℕ) : Prop := ∃ thread ∈ s.threads, some thread.id = id ∧ thread.phase ≠ .ended

instance (id : Option ℕ) : Decidable (s.Waits id) :=
  inferInstanceAs (Decidable (∃ thread ∈ s.threads, _))

/-- The thread is erased from `_threads` when it has been found and joined. -/
def joinThread (kind : LoopKind) (devID : δ) : DriverThreads δ :=
  match s.devices[devID]? with
  | none        => { s with phase := .idle }
  | some device =>
    if s.Waits (device.threadID kind) then s
    else
      { s with
        threads := s.threads.filter fun thread => some thread.id ≠ device.threadID kind
        phase := if kind = .keys ∧ device.hasLCD then .join .LCD devID else .erase devID }

def next (spawned : Option ℕ) : DriverThreads δ :=
  match s.phase with
  | .idle             => s
  | .spawn kind devID => s.spawnThread kind devID spawned
  | .join kind devID  => s.joinThread kind devID
  | .erase devID      => { s with devices := s.devices.erase devID, phase := .idle }

/-! ### The loops -/

/-- An unknown device ends the thread. -/
def start (id : ℕ) : DriverThreads δ :=
  match s.getThread id with
  | none        => s
  | some thread =>
    if thread.phase ≠ .spawned then s
    else
      match s.devices[thread.devID]? with
      | none        => s.setPhase id .ended
      | some device =>
        (s.setDevice thread.devID (device.setThreadID id thread.kind)).setPhase id .looping

/-- Without its device, the reference of the thread is dangling. -/
def turn (id : ℕ) (result : LoopResult) : DriverThreads δ :=
  match s.getThread id with
  | none        => s
  | some thread =>
    if thread.phase ≠ .looping then s
    else
      match s.devices[thread.devID]? with
      | none        => s
      | some device =>
        match result with
        | .fatalErrors =>
          (s.setDevice thread.devID { device with threadsStatus := false }).setPhase id .ended
        | .daemonStops => s.setPhase id .ended
        | .goesOn      => if device.threadsStatus then s else s.setPhase id .ended

def step (s : DriverThreads δ) : ThreadsEvent δ → DriverThreads δ
  | .initializeDevice devID hasLCD => s.initializeDevice devID hasLCD
  | .openDevice devID              => s.openDevice devID
  | .closeDevice devID             => s.closeDevice devID
  | .next spawned                  => s.next spawned
  | .start id                      => s.start id
  | .turn id result                => s.turn id result

/-! ### Threads that are still to be joined -/

end DriverThreads

namespace DriverPhase

variable {δ : Type*}

/-- The device that is opened or closed. -/
def devID? : DriverPhase δ → Option δ
  | .idle                                            => none
  | .spawn _ devID | .join _ devID | .erase devID    => some devID

/-- The join of the thread is still to come. -/
def Awaits : DriverPhase δ → DeviceThread δ → Prop
  | .join .LCD devID, thread => thread.devID = devID → thread.kind = .LCD
  | .erase devID, thread     => thread.devID ≠ devID
  | _, _                     => True

lemma Awaits.congr {phase : DriverPhase δ} {thread thread' : DeviceThread δ}
    (h : phase.Awaits thread) (hdevID : thread.devID = thread'.devID)
    (hkind : thread.kind = thread'.kind) : phase.Awaits thread' := by
  cases phase with
  | join kind devID =>
    cases kind with
    | keys => trivial
    | LCD => exact fun hsame => hkind.symm.trans (h (hdevID.trans hsame))
  | erase devID => exact fun hsame => h (hdevID.trans hsame)
  | idle | spawn => trivial

end DriverPhase

namespace DriverThreads

variable {δ : Type*} [LinearOrder δ] (s : DriverThreads δ)

/-- Every thread has its device, and will be joined before the device is erased. -/
def AllAwaited : Prop :=
  ∀ thread ∈ s.threads, s.devices.contains thread.devID ∧ s.phase.Awaits thread

/-- A thread that is joined, and every other that should be, had its ID in the device. -/
def Recorded (s : DriverThreads δ) : ThreadsEvent δ → Prop
  | .next _ => ∀ kind devID device, s.phase = .join kind devID → s.devices[devID]? = some device →
    ¬ s.Waits (device.threadID kind) →
    ∀ thread ∈ s.threads, thread.devID = devID → thread.kind = kind →
      device.threadID kind = some thread.id
  | _       => True

/-- The device of an operation is there, and only a device with an LCD screen has a thread for
it. -/
structure Consistent : Prop where
  device : ∀ devID, s.phase.devID? = some devID → s.devices.contains devID
  spawned : ∀ devID device, s.phase = .spawn .LCD devID → s.devices[devID]? = some device →
    device.hasLCD
  threads : ∀ thread ∈ s.threads, thread.kind = .LCD →
    ∀ device, s.devices[thread.devID]? = some device → device.hasLCD

variable {s} {s' : DriverThreads δ}

lemma consistent_start : Consistent ({} : DriverThreads δ) := by
  refine ⟨fun devID h => ?_, fun devID device h => ?_, fun thread h => ?_⟩ <;> cases h

/-! ### What the threads do -/

/-- The phase is the same, and there are the same devices and threads, apart from what these
record. -/
structure Alike (s s' : DriverThreads δ) : Prop where
  phase : s'.phase = s.phase
  devices : ∀ devID : δ,
    s'.devices[devID]?.map ThreadsDevice.hasLCD = s.devices[devID]?.map ThreadsDevice.hasLCD
  threads : ∀ thread' ∈ s'.threads, ∃ thread ∈ s.threads,
    thread.devID = thread'.devID ∧ thread.kind = thread'.kind

lemma Alike.refl : Alike s s := ⟨rfl, fun _ => rfl, fun thread h => ⟨thread, h, rfl, rfl⟩⟩

lemma Alike.trans {s'' : DriverThreads δ} (h : Alike s s') (h' : Alike s' s'') : Alike s s'' := by
  refine ⟨h'.phase.trans h.phase, fun devID => (h'.devices devID).trans (h.devices devID), ?_⟩
  intro thread'' hthread''
  obtain ⟨thread', hthread', hdevID', hkind'⟩ := h'.threads thread'' hthread''
  obtain ⟨thread, hthread, hdevID, hkind⟩ := h.threads thread' hthread'
  exact ⟨thread, hthread, hdevID.trans hdevID', hkind.trans hkind'⟩

lemma Alike.contains (h : Alike s s') (devID : δ) :
    s'.devices.contains devID = s.devices.contains devID := by
  have hdevice := congrArg Option.isSome (h.devices devID)
  rwa [Option.isSome_map, Option.isSome_map, ← Std.ExtTreeMap.contains_eq_isSome_getElem?,
    ← Std.ExtTreeMap.contains_eq_isSome_getElem?] at hdevice

/-- A device of the one is a device of the other. -/
lemma Alike.device (h : Alike s s') {devID : δ} {device' : ThreadsDevice}
    (hdevice : s'.devices[devID]? = some device') :
    ∃ device, s.devices[devID]? = some device ∧ device.hasLCD = device'.hasLCD := by
  have hmap := h.devices devID
  rw [hdevice, Option.map_some] at hmap
  exact Option.map_eq_some_iff.mp hmap.symm

lemma alike_setDevice {devID : δ} {device device' : ThreadsDevice}
    (hdevice : s.devices[devID]? = some device) (hLCD : device'.hasLCD = device.hasLCD) :
    Alike s (s.setDevice devID device') := by
  refine ⟨rfl, fun devID' => ?_, fun thread h => ⟨thread, h, rfl, rfl⟩⟩
  rw [setDevice, getElem?_insert_eq]
  split_ifs with hsame
  · rw [hsame, hdevice, Option.map_some, Option.map_some, hLCD]
  · rfl

lemma alike_setPhase (id : ℕ) (phase : ThreadPhase) : Alike s (s.setPhase id phase) := by
  refine ⟨rfl, fun _ => rfl, fun thread' h => ?_⟩
  obtain ⟨thread, hthread, rfl⟩ := List.mem_map.mp h
  refine ⟨thread, hthread, ?_⟩
  split_ifs
  · exact ⟨rfl, rfl⟩
  · exact ⟨rfl, rfl⟩

lemma alike_start (id : ℕ) : Alike s (s.start id) := by
  rw [start]
  cases hthread : s.getThread id with
  | none => exact Alike.refl
  | some thread =>
    dsimp only
    split_ifs
    · exact Alike.refl
    · cases hdevice : s.devices[thread.devID]? with
      | none => exact alike_setPhase id .ended
      | some device =>
        refine (alike_setDevice hdevice ?_).trans (alike_setPhase id .looping)
        cases thread.kind <;> rfl

lemma alike_turn (id : ℕ) (result : LoopResult) : Alike s (s.turn id result) := by
  rw [turn]
  cases hthread : s.getThread id with
  | none => exact Alike.refl
  | some thread =>
    dsimp only
    split_ifs
    · exact Alike.refl
    · cases hdevice : s.devices[thread.devID]? with
      | none => exact Alike.refl
      | some device =>
        cases result with
        | fatalErrors =>
          have hstop : Alike s (s.setDevice thread.devID { device with threadsStatus := false }) :=
            alike_setDevice hdevice rfl
          exact hstop.trans (alike_setPhase id .ended)
        | daemonStops => exact alike_setPhase id .ended
        | goesOn =>
          dsimp only
          split_ifs
          · exact Alike.refl
          · exact alike_setPhase id .ended

lemma Alike.consistent (h : Alike s s') (hs : s.Consistent) : s'.Consistent := by
  refine ⟨fun devID hdevID => ?_, fun devID device' hphase hdevice' => ?_, ?_⟩
  · rw [h.contains]
    exact hs.device devID (by rwa [← h.phase])
  · obtain ⟨device, hdevice, hLCD⟩ := h.device hdevice'
    rw [← hLCD]
    exact hs.spawned devID device (by rwa [← h.phase]) hdevice
  · intro thread' hthread' hkind' device' hdevice'
    obtain ⟨thread, hthread, hdevID, hkind⟩ := h.threads thread' hthread'
    obtain ⟨device, hdevice, hLCD⟩ := h.device hdevice'
    rw [← hLCD]
    exact hs.threads thread hthread (hkind.trans hkind') device (by rwa [hdevID])

lemma Alike.allAwaited (h : Alike s s') (hs : s.AllAwaited) : s'.AllAwaited := by
  intro thread' hthread'
  obtain ⟨thread, hthread, hdevID, hkind⟩ := h.threads thread' hthread'
  obtain ⟨hcontains, hawaits⟩ := hs thread hthread
  rw [h.contains, h.phase, ← hdevID]
  exact ⟨hcontains, hawaits.congr hdevID hkind⟩

/-! ### What the driver does -/

lemma contains_iff {devID : δ} :
    s.devices.contains devID ↔ ∃ device, s.devices[devID]? = some device := by
  rw [Std.ExtTreeMap.contains_eq_isSome_getElem?, Option.isSome_iff_exists]

/-- Only the phase changes, to one that waits for all threads. -/
lemma allAwaited_of_phase {phase : DriverPhase δ} (h : s.AllAwaited)
    (hphase : ∀ thread, phase.Awaits thread) : AllAwaited { s with phase := phase } :=
  fun thread hthread => ⟨(h thread hthread).1, hphase thread⟩

lemma consistent_of_phase {phase : DriverPhase δ} (h : s.Consistent)
    (hdevice : ∀ devID, phase.devID? = some devID → s.devices.contains devID)
    (hspawned : ∀ devID device, phase = .spawn .LCD devID → s.devices[devID]? = some device →
      device.hasLCD) : Consistent { s with phase := phase } :=
  ⟨hdevice, hspawned, h.threads⟩

/-- A new device has no thread. -/
lemma keeps_initializeDevice (devID : δ) (hasLCD : Bool) (h : s.Consistent) (ha : s.AllAwaited) :
    (s.initializeDevice devID hasLCD).Consistent ∧ (s.initializeDevice devID hasLCD).AllAwaited := by
  rw [initializeDevice]
  split_ifs with hnew
  · obtain ⟨hidle, hnot⟩ := hnew
    have hget : ∀ devID' ≠ devID, (s.setDevice devID { hasLCD }).devices[devID']? =
        s.devices[devID']? := by
      intro devID' hne
      rw [setDevice, getElem?_insert_eq, if_neg hne]
    have hold : ∀ thread ∈ s.threads, thread.devID ≠ devID := by
      intro thread hthread hsame
      exact hnot (hsame ▸ (ha thread hthread).1)
    have hphase : (s.setDevice devID { hasLCD }).phase = .idle := hidle
    refine ⟨⟨fun devID' hdevID' => ?_, fun devID' device hspawn => ?_, ?_⟩, ?_⟩
    · rw [hphase] at hdevID'
      cases hdevID'
    · rw [hphase] at hspawn
      cases hspawn
    · intro thread hthread hkind device hdevice
      rw [hget _ (hold thread hthread)] at hdevice
      exact h.threads thread hthread hkind device hdevice
    · intro thread hthread
      obtain ⟨hcontains, hawaits⟩ := ha thread hthread
      refine ⟨?_, hawaits⟩
      rw [Std.ExtTreeMap.contains_eq_isSome_getElem?, hget _ (hold thread hthread),
        ← Std.ExtTreeMap.contains_eq_isSome_getElem?]
      exact hcontains
  · exact ⟨h, ha⟩

lemma keeps_openDevice (devID : δ) (h : s.Consistent) (ha : s.AllAwaited) :
    (s.openDevice devID).Consistent ∧ (s.openDevice devID).AllAwaited := by
  rw [openDevice]
  split
  · rename_i device hidle hdevice
    refine ⟨consistent_of_phase h ?_ ?_, allAwaited_of_phase ha fun thread => trivial⟩
    · intro devID' hdevID'
      cases hdevID'
      exact contains_iff.mpr ⟨device, hdevice⟩
    · intro devID' device' hspawn hdevice'
      split_ifs at hspawn with hLCD
      · cases hspawn
        rw [hdevice] at hdevice'
        cases hdevice'
        exact hLCD
      · cases hspawn
  · exact ⟨h, ha⟩

lemma keeps_stopThreads (devID : δ) (h : s.Consistent) (ha : s.AllAwaited) :
    (s.stopThreads devID).Consistent ∧ (s.stopThreads devID).AllAwaited := by
  rw [stopThreads]
  cases hdevice : s.devices[devID]? with
  | none =>
    refine ⟨consistent_of_phase h (fun devID' h' => ?_) (fun devID' device h' => ?_),
      allAwaited_of_phase ha fun thread => trivial⟩
    · cases h'
    · cases h'
  | some device =>
    have hstop : Alike s (s.setDevice devID { device with threadsStatus := false }) :=
      alike_setDevice hdevice rfl
    refine ⟨consistent_of_phase (hstop.consistent h) (fun devID' h' => ?_)
      (fun devID' device h' => ?_), allAwaited_of_phase (hstop.allAwaited ha) fun thread => trivial⟩
    · cases h'
      rw [hstop.contains]
      exact contains_iff.mpr ⟨device, hdevice⟩
    · cases h'

/-- A new thread is the one of the device that is opened. -/
lemma keeps_spawnThread {kind : LoopKind} {devID : δ} (hphase : s.phase = .spawn kind devID)
    (spawned : Option ℕ) (h : s.Consistent) (ha : s.AllAwaited) :
    (s.spawnThread kind devID spawned).Consistent ∧
      (s.spawnThread kind devID spawned).AllAwaited := by
  cases spawned with
  | none => exact keeps_stopThreads devID h ha
  | some id =>
    simp only [spawnThread]
    have hcontains := h.device devID (by rw [hphase]; rfl)
    split_ifs
    · exact ⟨h, ha⟩
    · refine ⟨⟨fun devID' h' => ?_, fun devID' device h' => ?_, ?_⟩, ?_⟩
      · cases kind with
        | LCD =>
          cases h'
          exact hcontains
        | keys => cases h'
      · cases kind with
        | LCD => cases h'
        | keys => cases h'
      · intro thread hthread hkind device hdevice
        rcases List.mem_append.mp hthread with hold | hnew
        · exact h.threads thread hold hkind device hdevice
        · rw [List.mem_singleton] at hnew
          subst hnew
          obtain rfl : kind = .LCD := hkind
          exact h.spawned devID device hphase hdevice
      · intro thread hthread
        refine ⟨?_, ?_⟩
        · rcases List.mem_append.mp hthread with hold | hnew
          · exact (ha thread hold).1
          · rw [List.mem_singleton] at hnew
            subst hnew
            exact hcontains
        · cases kind with
          | LCD => trivial
          | keys => trivial

/-- A join that does not wait. -/
lemma joinThread_eq {kind : LoopKind} {devID : δ} {device : ThreadsDevice}
    (hdevice : s.devices[devID]? = some device) (hwaits : ¬ s.Waits (device.threadID kind)) :
    s.joinThread kind devID =
      { s with
        threads := s.threads.filter fun thread => some thread.id ≠ device.threadID kind
        phase := if kind = .keys ∧ device.hasLCD then .join .LCD devID else .erase devID } := by
  simp only [joinThread, hdevice, if_neg hwaits]

lemma consistent_joinThread {kind : LoopKind} {devID : δ} (hphase : s.phase = .join kind devID)
    (h : s.Consistent) : (s.joinThread kind devID).Consistent := by
  obtain ⟨device, hdevice⟩ := contains_iff.mp (h.device devID (by rw [hphase]; rfl))
  by_cases hwaits : s.Waits (device.threadID kind)
  · simp only [joinThread, hdevice, if_pos hwaits]
    exact h
  · rw [joinThread_eq hdevice hwaits]
    refine ⟨fun devID' h' => ?_, fun devID' device' h' => ?_, fun thread hthread => ?_⟩
    · dsimp only at h'
      split_ifs at h' <;>
      · cases h'
        exact contains_iff.mpr ⟨device, hdevice⟩
    · dsimp only at h'
      split_ifs at h'
    · exact h.threads thread (List.mem_of_mem_filter hthread)

/-- After a join, exactly the threads that it was for must be gone. -/
lemma awaits_joinThread {kind : LoopKind} {devID : δ} {device : ThreadsDevice}
    (hphase : s.phase = .join kind devID) (hdevice : s.devices[devID]? = some device)
    (h : s.Consistent) (ha : s.AllAwaited) {thread : DeviceThread δ} (hthread : thread ∈ s.threads) :
    (if kind = .keys ∧ device.hasLCD then DriverPhase.join .LCD devID
      else .erase devID).Awaits thread ↔ (thread.devID = devID → thread.kind ≠ kind) := by
  cases kind with
  | keys =>
    by_cases hLCD : device.hasLCD
    · rw [if_pos ⟨rfl, hLCD⟩]
      change (thread.devID = devID → thread.kind = .LCD) ↔ _
      cases thread.kind <;> simp
    · rw [if_neg fun hboth => hLCD hboth.2]
      refine ⟨fun hne hsame => absurd hsame hne, fun hkeys hsame => ?_⟩
      have hkind : thread.kind = .LCD := by
        cases hcases : thread.kind with
        | keys => exact absurd hcases (hkeys hsame)
        | LCD => rfl
      exact hLCD (h.threads thread hthread hkind device (hsame ▸ hdevice))
  | LCD =>
    rw [if_neg (by simp)]
    have hawaits := (ha thread hthread).2
    rw [hphase] at hawaits
    refine ⟨fun hne hsame => absurd hsame hne, fun hLCD hsame => ?_⟩
    exact hLCD hsame (hawaits hsame)

lemma allAwaited_joinThread_iff {kind : LoopKind} {devID : δ}
    (hphase : s.phase = .join kind devID) (spawned : Option ℕ) (h : s.Consistent)
    (ha : s.AllAwaited) :
    (s.joinThread kind devID).AllAwaited ↔ s.Recorded (.next spawned) := by
  obtain ⟨device, hdevice⟩ := contains_iff.mp (h.device devID (by rw [hphase]; rfl))
  by_cases hwaits : s.Waits (device.threadID kind)
  · simp only [joinThread, hdevice, if_pos hwaits]
    refine iff_of_true ha ?_
    intro kind' devID' device' hphase' hdevice' hnot
    rw [hphase] at hphase'
    cases hphase'
    rw [hdevice] at hdevice'
    cases hdevice'
    exact absurd hwaits hnot
  · rw [joinThread_eq hdevice hwaits]
    constructor
    · intro hnext kind' devID' device' hphase' hdevice' _ thread hthread hsame hkind
      rw [hphase] at hphase'
      cases hphase'
      rw [hdevice] at hdevice'
      cases hdevice'
      by_contra hne
      have hkept := hnext thread (List.mem_filter.mpr ⟨hthread, by simpa using Ne.symm hne⟩)
      exact (awaits_joinThread hphase hdevice h ha hthread).mp hkept.2 hsame hkind
    · intro hrecorded thread hthread
      obtain ⟨hold, hne⟩ := List.mem_filter.mp hthread
      refine ⟨(ha thread hold).1, (awaits_joinThread hphase hdevice h ha hold).mpr ?_⟩
      intro hsame hkind
      have hfound := hrecorded kind devID device hphase hdevice hwaits thread hold hsame hkind
      simp [hfound] at hne

/-- All threads of the device are gone when it is erased. -/
lemma keeps_erase {devID : δ} (hphase : s.phase = .erase devID) (h : s.Consistent)
    (ha : s.AllAwaited) :
    Consistent { s with devices := s.devices.erase devID, phase := .idle } ∧
      AllAwaited { s with devices := s.devices.erase devID, phase := .idle } := by
  have hget : ∀ thread ∈ s.threads,
      (s.devices.erase devID)[thread.devID]? = s.devices[thread.devID]? := by
    intro thread hthread
    have hawaits := (ha thread hthread).2
    rw [hphase] at hawaits
    rw [getElem?_erase_eq, if_neg hawaits]
  refine ⟨⟨fun devID' h' => ?_, fun devID' device h' => ?_, ?_⟩, ?_⟩
  · cases h'
  · cases h'
  · intro thread hthread hkind device hdevice
    dsimp only at hdevice
    rw [hget thread hthread] at hdevice
    exact h.threads thread hthread hkind device hdevice
  · intro thread hthread
    refine ⟨?_, trivial⟩
    dsimp only
    rw [Std.ExtTreeMap.contains_eq_isSome_getElem?, hget thread hthread,
      ← Std.ExtTreeMap.contains_eq_isSome_getElem?]
    exact (ha thread hthread).1

/-! ### Every step -/

/-- The threads are awaited after a step exactly when a join finds those that it is for. -/
lemma step_spec (event : ThreadsEvent δ) (h : s.Consistent) (ha : s.AllAwaited) :
    (s.step event).Consistent ∧ ((s.step event).AllAwaited ↔ s.Recorded event) := by
  cases event with
  | initializeDevice devID hasLCD =>
    have hkeeps := keeps_initializeDevice devID hasLCD h ha
    exact ⟨hkeeps.1, iff_of_true hkeeps.2 trivial⟩
  | openDevice devID =>
    have hkeeps := keeps_openDevice devID h ha
    exact ⟨hkeeps.1, iff_of_true hkeeps.2 trivial⟩
  | closeDevice devID =>
    have hkeeps := keeps_stopThreads devID h ha
    change (s.closeDevice devID).Consistent ∧ ((s.closeDevice devID).AllAwaited ↔ _)
    rw [closeDevice]
    split_ifs
    · exact ⟨hkeeps.1, iff_of_true hkeeps.2 trivial⟩
    · exact ⟨h, iff_of_true ha trivial⟩
  | start id =>
    exact ⟨(alike_start id).consistent h, iff_of_true ((alike_start id).allAwaited ha) trivial⟩
  | turn id result =>
    exact ⟨(alike_turn id result).consistent h,
      iff_of_true ((alike_turn id result).allAwaited ha) trivial⟩
  | next spawned =>
    change (s.next spawned).Consistent ∧ ((s.next spawned).AllAwaited ↔ _)
    -- only a join asks for something
    have hother : (∀ kind devID, s.phase ≠ .join kind devID) → s.Recorded (.next spawned) :=
      fun hnot kind devID _ hphase => absurd hphase (hnot kind devID)
    cases hphase : s.phase with
    | idle =>
      simp only [next, hphase]
      exact ⟨h, iff_of_true ha (hother fun _ _ => by simp [hphase])⟩
    | spawn kind devID =>
      have hkeeps := keeps_spawnThread hphase spawned h ha
      simp only [next, hphase]
      exact ⟨hkeeps.1, iff_of_true hkeeps.2 (hother fun _ _ => by simp [hphase])⟩
    | join kind devID =>
      simp only [next, hphase]
      exact ⟨consistent_joinThread hphase h, allAwaited_joinThread_iff hphase spawned h ha⟩
    | erase devID =>
      have hkeeps := keeps_erase hphase h ha
      simp only [next, hphase]
      exact ⟨hkeeps.1, iff_of_true hkeeps.2 (hother fun _ _ => by simp [hphase])⟩

/-- In every interleaving of the driver and the loops, no thread is ever left without its device,
and none stays behind when devices are closed, exactly when every join finds the threads of its
device, which have recorded their IDs then. -/
theorem allAwaited_run_iff (events : List (ThreadsEvent δ)) :
    Run.Steps step (fun s event => (s.step event).AllAwaited) {} events ↔
      Run.Steps step Recorded ({} : DriverThreads δ) events :=
  Run.steps_iff_of_good consistent_start (fun thread hthread => by cases hthread)
    (fun _ event h ha _ => (step_spec event h ha).1)
    (fun _ event h ha => (step_spec event h ha).2) events

end DriverThreads

end GLogiK
