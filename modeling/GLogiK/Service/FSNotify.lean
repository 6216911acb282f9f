import GLogiK.Base
import Mathlib.Data.String.Basic

/-!
# Filesystem notifications

`FSNotify`: the events of the watched directories are read from the inotify queue, and the map of
the configuration files is narrowed to the devices whose file was written.
-/

namespace GLogiK

variable {δ : Type*} [LinearOrder δ]

/-! ### Watches and events -/

structure WatchedObject where
  wd : ℤ
  count : ℕ
  deriving DecidableEq, Repr

/-- `name` is the file in the watched directory, or `none` for the directory itself. -/
structure InotifyEvent where
  wd : ℤ
  name : Option String := none
  moveSelf : Bool := false
  ignored : Bool := false
  deriving DecidableEq, Repr

structure FSNotify where
  watchedDescriptorsMap : StdMap String WatchedObject := ∅

/-- `DevicesFilesMap_type`. -/
abbrev DevicesFilesMap (δ : Type*) [LinearOrder δ] := StdMap δ String

namespace FSNotify

variable (fs : FSNotify)

/-- The path that is watched with the descriptor. -/
def watchedPath (wd : ℤ) : Option String :=
  (fs.watchedDescriptorsMap.toList.find? (·.2.wd = wd)).map (·.1)

def removeNotifyWatch (wd : ℤ) : FSNotify where
  watchedDescriptorsMap :=
    if wd = -1 then fs.watchedDescriptorsMap
    else fs.watchedDescriptorsMap.filterMap fun _ watched =>
      if watched.wd ≠ wd then some watched
      else if watched.count = 1 then none
      else some { watched with count := watched.count - 1 }

/-- The loop on `toRemove`: the watch is removed however often it is referenced. -/
def forceRemove (path : String) : FSNotify :=
  match fs.watchedDescriptorsMap[path]? with
  | none => fs
  | some watched =>
    let fs : FSNotify :=
      { watchedDescriptorsMap := fs.watchedDescriptorsMap.insert path { watched with count := 1 } }
    fs.removeNotifyWatch watched.wd

/-- The state of `readNotifyEvents`. -/
structure Reading (δ : Type*) [LinearOrder δ] where
  fs : FSNotify
  filesMap : DevicesFilesMap δ
  toRemove : List String := []

/-- The body of the loop on the events. -/
def readEvent (r : Reading δ) (event : InotifyEvent) : Reading δ :=
  match event.name with
  | some name => { r with filesMap := r.filesMap.filter fun _ file => file = name }
  | none =>
    let r := { r with filesMap := ∅ }
    match r.fs.watchedPath event.wd with
    | none => r
    | some path =>
      { r with
        toRemove := if event.moveSelf then path :: r.toRemove else r.toRemove
        fs := if event.ignored then { watchedDescriptorsMap := r.fs.watchedDescriptorsMap.erase path }
          else r.fs }

/-- The events that one read returns. -/
def readEvents (r : Reading δ) (events : List InotifyEvent) : Reading δ :=
  let r := events.foldl readEvent r
  { r with
    fs := r.toRemove.foldl forceRemove r.fs
    toRemove := [] }

/-- It reads until there is nothing more to read. -/
def readNotifyEvents (filesMap : DevicesFilesMap δ) (reads : List (List InotifyEvent)) :
    FSNotify × DevicesFilesMap δ :=
  let r := reads.foldl readEvents { fs, filesMap }
  (r.fs, r.filesMap)

end FSNotify

/-! ### The devices that remain -/

/-- The event is about the file. -/
def InotifyEvent.Names (event : InotifyEvent) (file : String) : Prop := event.name = some file

variable {fs : FSNotify} {filesMap : DevicesFilesMap δ}

namespace FSNotify

/-- An event keeps the devices whose file it names. -/
lemma readEvent_filesMap (r : Reading δ) (event : InotifyEvent) (devID : δ) (file : String) :
    (readEvent r event).filesMap[devID]? = some file ↔
      r.filesMap[devID]? = some file ∧ event.Names file := by
  simp only [readEvent, InotifyEvent.Names]
  cases event.name with
  | some name =>
    simp only [Std.ExtTreeMap.getElem?_filter', Option.filter_eq_some_iff, decide_eq_true_eq,
      Option.some_inj]
    exact and_congr_right fun _ => eq_comm
  | none =>
    cases r.fs.watchedPath event.wd <;> simp

lemma foldl_readEvent_filesMap (events : List InotifyEvent) (r : Reading δ) (devID : δ)
    (file : String) : (events.foldl readEvent r).filesMap[devID]? = some file ↔
      r.filesMap[devID]? = some file ∧ ∀ event ∈ events, event.Names file := by
  induction events generalizing r with
  | nil => simp
  | cons event events ih =>
    rw [List.foldl_cons, ih, readEvent_filesMap, List.forall_mem_cons, and_assoc]

lemma foldl_readEvents_filesMap (reads : List (List InotifyEvent)) (r : Reading δ) (devID : δ)
    (file : String) : (reads.foldl readEvents r).filesMap[devID]? = some file ↔
      r.filesMap[devID]? = some file ∧ ∀ event ∈ reads.flatten, event.Names file := by
  induction reads generalizing r with
  | nil => simp
  | cons events reads ih =>
    have hread : (readEvents r events).filesMap[devID]? = some file ↔ _ :=
      foldl_readEvent_filesMap events r devID file
    rw [List.foldl_cons, ih, hread, List.flatten_cons, List.forall_mem_append, and_assoc]

/-- A device remains if all events are about its file. -/
theorem readNotifyEvents_eq_some (reads : List (List InotifyEvent)) (devID : δ) (file : String) :
    (fs.readNotifyEvents filesMap reads).2[devID]? = some file ↔
      filesMap[devID]? = some file ∧ ∀ event ∈ reads.flatten, event.Names file :=
  foldl_readEvents_filesMap reads _ devID file

/-- The devices that remain are the ones whose file occurs in some event. -/
def KeepsNamed (fs : FSNotify) (filesMap : DevicesFilesMap δ) (reads : List (List InotifyEvent)) :
    Prop :=
  ∀ (devID : δ) file, (fs.readNotifyEvents filesMap reads).2[devID]? = some file ↔
    filesMap[devID]? = some file ∧ ∃ event ∈ reads.flatten, event.Names file

end FSNotify

/-- The right devices remain just when the batch is not empty, and all of its events are about the
file of a device as soon as one of them is. -/
theorem keepsNamed_iff (fs : FSNotify) (filesMap : DevicesFilesMap δ) (hfiles : filesMap ≠ ∅)
    (reads : List (List InotifyEvent)) :
    fs.KeepsNamed filesMap reads ↔ reads.flatten ≠ [] ∧ ∀ (devID : δ) file, filesMap[devID]? = some file →
      (∃ event ∈ reads.flatten, event.Names file) → ∀ event ∈ reads.flatten, event.Names file := by
  simp only [FSNotify.KeepsNamed, FSNotify.readNotifyEvents_eq_some]
  constructor
  · intro h
    refine ⟨fun hempty => hfiles ?_,
      fun devID file hfile hsome => ((h devID file).mpr ⟨hfile, hsome⟩).2⟩
    -- a batch without events keeps every device
    refine Std.ExtTreeMap.ext_getElem? fun devID => ?_
    rw [Std.ExtTreeMap.getElem?_empty]
    refine Option.eq_none_iff_forall_ne_some.mpr fun file hfile => ?_
    obtain ⟨event, hevent, -⟩ := ((h devID file).mp ⟨hfile, by simp [hempty]⟩).2
    rw [hempty] at hevent
    cases hevent
  · rintro ⟨hne, hall⟩ devID file
    refine and_congr_right fun hfile => ⟨fun hnames => ?_, fun hsome => hall devID file hfile hsome⟩
    obtain ⟨event, hevent⟩ := List.exists_mem_of_ne_nil _ hne
    exact ⟨event, hevent, hnames event hevent⟩

/-- The file of a keyboard, as the service names it. -/
def g510File : DevicesFilesMap ℕ := (∅ : DevicesFilesMap ℕ).insert 0 "G510.cfg"

theorem keepsNamed_g510File :
    ({} : FSNotify).KeepsNamed g510File [[{ wd := 1, name := some "G510.cfg" }]] := by
  refine (keepsNamed_iff {} g510File (by decide +kernel) _).mpr ⟨by simp, fun devID file _ => ?_⟩
  rintro ⟨event, hevent, hnames⟩ event' hevent'
  simp only [List.flatten_cons, List.flatten_nil, List.append_nil, List.mem_singleton] at hevent hevent'
  rw [hevent', ← hevent]
  exact hnames

/-- The file is written, and an editor removes a file of its own next to it: the device is lost. -/
theorem not_keepsNamed_swapFile : ¬ ({} : FSNotify).KeepsNamed g510File
    [[{ wd := 1, name := some "G510.cfg" }, { wd := 1, name := some ".G510.cfg.swp" }]] := by
  intro h
  have hkeeps := (h 0 "G510.cfg").mpr
    ⟨by decide +kernel, { wd := 1, name := some "G510.cfg" }, by simp, rfl⟩
  revert hkeeps
  decide +kernel

end GLogiK
