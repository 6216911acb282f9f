import GLogiK.Service.FSNotify

/-!
# File names and watched directories

`FileSystem::getNextAvailableFileName`, which tries ten names, and the watches that `FSNotify` adds
and removes. What the disk and inotify answer is an argument.
-/

namespace GLogiK

variable {δ : Type*} [LinearOrder δ]

/-! ### File names -/

/-- What stands at a path: a regular file, nothing or something else, or a path whose status can't
be read, at which a regular file may stand all the same. -/
inductive FileStatus
  | regularFile
  | noRegularFile
  | unreadable (isFile : Bool)
  deriving DecidableEq, Repr

/-- A regular file stands at the path. -/
def FileStatus.isRegularFile : FileStatus → Bool
  | .regularFile       => true
  | .noRegularFile     => false
  | .unreadable isFile => isFile

namespace FileSystem

/-- The names that are tried, in their order. -/
def fileNames (baseName extension : String) : List String :=
  let base := baseName.map fun c => if c = '/' ∨ c = ' ' then '_' else c
  (List.range 10).map fun c => base ++ "_" ++ toString (c + 1) ++ "." ++ extension

/-- `none` when it throws. A status that can't be read makes it try the next name. -/
def getNextAvailableFileName (toSkip : List String) (status : String → FileStatus)
    (baseName extension : String) (mustExist : Bool) : Option String :=
  (fileNames baseName extension).find? fun fileName =>
    fileName ∉ toSkip && (!mustExist || status fileName = .regularFile)

variable {toSkip : List String} {status : String → FileStatus} {baseName extension fileName : String}
  {mustExist : Bool}

lemma notMem_of_getNextAvailableFileName
    (h : getNextAvailableFileName toSkip status baseName extension mustExist = some fileName) :
    fileName ∉ toSkip := by
  have hfound := List.find?_some h
  simp only [Bool.and_eq_true, decide_eq_true_eq] at hfound
  exact hfound.1

lemma mem_of_getNextAvailableFileName
    (h : getNextAvailableFileName toSkip status baseName extension mustExist = some fileName) :
    fileName ∈ fileNames baseName extension :=
  List.mem_of_find?_eq_some h

/-- Without a file that must exist, the first name that is not used is the answer. -/
lemma getNextAvailableFileName_eq_find :
    getNextAvailableFileName toSkip status baseName extension false =
      (fileNames baseName extension).find? (· ∉ toSkip) := by
  simp [getNextAvailableFileName]

lemma getNextAvailableFileName_eq_none_iff :
    getNextAvailableFileName toSkip status baseName extension true = none ↔
      ∀ fileName ∈ fileNames baseName extension, fileName ∉ toSkip →
        status fileName ≠ .regularFile := by
  simp [getNextAvailableFileName]

/-- When no file was found, none stands at an unused name, unless its status can't be read. -/
lemma status_of_not_found
    (h : getNextAvailableFileName toSkip status baseName extension true = none)
    (hnew : getNextAvailableFileName toSkip status baseName extension false = some fileName) :
    (status fileName).isRegularFile ↔ status fileName = .unreadable true := by
  have hnot := getNextAvailableFileName_eq_none_iff.mp h fileName
    (mem_of_getNextAvailableFileName hnew) (notMem_of_getNextAvailableFileName hnew)
  cases hstatus : status fileName with
  | regularFile => exact absurd hstatus hnot
  | noRegularFile => simp [FileStatus.isRegularFile]
  | unreadable isFile => simp [FileStatus.isRegularFile]

end FileSystem

/-! ### Adding a watch -/

namespace FSNotify

variable (fs : FSNotify)

/-- `wd` is what `inotify_add_watch` returns, `none` when it fails; then the function throws. -/
def addNotifyWatch (path : String) (wd : Option ℤ) : Option (FSNotify × ℤ) :=
  match fs.watchedDescriptorsMap[path]? with
  | none => wd.map fun wd =>
    ({ watchedDescriptorsMap := fs.watchedDescriptorsMap.insert path { wd, count := 1 } }, wd)
  | some watched =>
    some ({ watchedDescriptorsMap :=
      fs.watchedDescriptorsMap.insert path { watched with count := watched.count + 1 } }, watched.wd)

/-- A path that is found watched is not counted again. -/
def addNotifyDirectoryWatch (path : String) (checkIfAlreadyWatched : Bool) (wd : Option ℤ) :
    Option (FSNotify × ℤ) :=
  if checkIfAlreadyWatched then
    match fs.watchedDescriptorsMap[path]? with
    | some watched => some (fs, watched.wd)
    | none         => fs.addNotifyWatch path wd
  else fs.addNotifyWatch path wd

/-! ### Removing watches -/

section

variable {fs fs' : FSNotify} {path : String} {watched : WatchedObject} {wd : ℤ}

/-- Different paths are watched, each with a descriptor of its own. -/
structure Valid (fs : FSNotify) : Prop where
  distinct : ∀ {path path' : String} {watched watched' : WatchedObject},
    fs.watchedDescriptorsMap[path]? = some watched →
    fs.watchedDescriptorsMap[path']? = some watched' → watched.wd = watched'.wd → path = path'
  pos : ∀ {path : String} {watched : WatchedObject},
    fs.watchedDescriptorsMap[path]? = some watched → 0 < watched.wd

/-- The watches of `fs'` are watches of `fs`. -/
def Fewer (fs fs' : FSNotify) : Prop :=
  ∀ (path : String) (watched : WatchedObject), fs'.watchedDescriptorsMap[path]? = some watched →
    fs.watchedDescriptorsMap[path]? = some watched

lemma fewer_refl (fs : FSNotify) : Fewer fs fs := fun _ _ h => h

lemma Fewer.trans {fs'' : FSNotify} (h : Fewer fs fs') (h' : Fewer fs' fs'') : Fewer fs fs'' :=
  fun path watched hwatched => h path watched (h' path watched hwatched)

lemma Fewer.valid (h : Fewer fs fs') (hfs : fs.Valid) : fs'.Valid where
  distinct hpath hpath' hwd := hfs.distinct (h _ _ hpath) (h _ _ hpath') hwd
  pos hpath := hfs.pos (h _ _ hpath)

lemma getElem?_removeNotifyWatch (hwd : wd ≠ -1) (path : String) :
    (fs.removeNotifyWatch wd).watchedDescriptorsMap[path]? =
      fs.watchedDescriptorsMap[path]?.bind fun watched =>
        if watched.wd ≠ wd then some watched
        else if watched.count = 1 then none
        else some { watched with count := watched.count - 1 } := by
  rw [removeNotifyWatch, if_neg hwd, Std.ExtTreeMap.getElem?_filterMap']

/-- A watch with another descriptor stays. -/
lemma removeNotifyWatch_of_ne (h : fs.watchedDescriptorsMap[path]? = some watched)
    (hne : watched.wd ≠ wd) :
    (fs.removeNotifyWatch wd).watchedDescriptorsMap[path]? = some watched := by
  by_cases hwd : wd = -1
  · rw [removeNotifyWatch, if_pos hwd, h]
  · rw [getElem?_removeNotifyWatch hwd, h, Option.bind_some, if_pos hne]

/-- A watch that is left was not touched, or it was referenced once more. -/
lemma of_removeNotifyWatch (hwd : wd ≠ -1)
    (h : (fs.removeNotifyWatch wd).watchedDescriptorsMap[path]? = some watched) :
    watched.wd ≠ wd ∧ fs.watchedDescriptorsMap[path]? = some watched ∨
      ∃ count, count ≠ 1 ∧ watched = { wd, count := count - 1 } ∧
        fs.watchedDescriptorsMap[path]? = some { wd, count } := by
  rw [getElem?_removeNotifyWatch hwd, Option.bind_eq_some_iff] at h
  obtain ⟨⟨wd', count⟩, hbefore, hafter⟩ := h
  split_ifs at hafter with hne hcount
  · cases hafter
    exact Or.inl ⟨hne, hbefore⟩
  · cases hafter
    have heq : wd' = wd := not_not.mp hne
    subst heq
    exact Or.inr ⟨count, hcount, rfl, hbefore⟩

/-- A watch that is left has the descriptor that it had. -/
lemma wd_of_removeNotifyWatch
    (h : (fs.removeNotifyWatch wd).watchedDescriptorsMap[path]? = some watched) :
    ∃ count, fs.watchedDescriptorsMap[path]? = some { wd := watched.wd, count } := by
  by_cases hwd : wd = -1
  · rw [removeNotifyWatch, if_pos hwd] at h
    exact ⟨watched.count, h⟩
  · rcases of_removeNotifyWatch hwd h with ⟨_, hmem⟩ | ⟨count, _, rfl, hmem⟩
    · exact ⟨watched.count, hmem⟩
    · exact ⟨count, hmem⟩

lemma Valid.removeNotifyWatch (hfs : fs.Valid) (wd : ℤ) : (fs.removeNotifyWatch wd).Valid where
  distinct hpath hpath' heq := by
    obtain ⟨count, hbefore⟩ := wd_of_removeNotifyWatch hpath
    obtain ⟨count', hbefore'⟩ := wd_of_removeNotifyWatch hpath'
    exact hfs.distinct hbefore hbefore' heq
  pos hpath := by
    obtain ⟨count, hbefore⟩ := wd_of_removeNotifyWatch hpath
    have hpos := hfs.pos hbefore
    exact hpos

/-- However often the watch is referenced, it is gone, and the others stay. -/
lemma fewer_forceRemove (hfs : fs.Valid) (path : String) : Fewer fs (fs.forceRemove path) := by
  rw [forceRemove]
  cases hpath : fs.watchedDescriptorsMap[path]? with
  | none => exact fewer_refl fs
  | some watched =>
    intro path' watched' h
    have hpos := hfs.pos hpath
    rcases of_removeNotifyWatch (by omega) h with ⟨hne, hmem⟩ | ⟨count, hcount, rfl, hmem⟩
    · rw [getElem?_insert_eq] at hmem
      split_ifs at hmem
      · cases hmem
        exact absurd rfl hne
      · exact hmem
    · rw [getElem?_insert_eq] at hmem
      split_ifs at hmem with hpath'
      · cases hmem
        exact absurd rfl hcount
      · exact absurd (hfs.distinct hmem hpath rfl) hpath'

lemma fewer_erase (path : String) :
    Fewer fs { watchedDescriptorsMap := fs.watchedDescriptorsMap.erase path } := by
  intro path' watched h
  rw [getElem?_erase_eq] at h
  split_ifs at h
  exact h

lemma fewer_readEvent (r : Reading δ) (event : InotifyEvent) : Fewer r.fs (readEvent r event).fs := by
  cases hname : event.name with
  | some name =>
    simp only [readEvent, hname]
    exact fewer_refl r.fs
  | none =>
    cases hpath : r.fs.watchedPath event.wd with
    | none =>
      simp only [readEvent, hname, hpath]
      exact fewer_refl r.fs
    | some path =>
      simp only [readEvent, hname, hpath]
      split_ifs
      · exact fewer_erase path
      · exact fewer_refl r.fs

lemma fewer_foldl_readEvent (events : List InotifyEvent) (r : Reading δ) :
    Fewer r.fs (events.foldl readEvent r).fs := by
  induction events generalizing r with
  | nil => exact fewer_refl _
  | cons event events ih => exact (fewer_readEvent r event).trans (ih _)

lemma fewer_foldl_forceRemove (hfs : fs.Valid) (paths : List String) :
    Fewer fs (paths.foldl forceRemove fs) := by
  induction paths generalizing fs with
  | nil => exact fewer_refl _
  | cons path paths ih =>
    have hremove := fewer_forceRemove hfs path
    exact hremove.trans (ih (hremove.valid hfs))

lemma fewer_foldl_readEvents (reads : List (List InotifyEvent)) (r : Reading δ)
    (hfs : r.fs.Valid) : Fewer r.fs (reads.foldl readEvents r).fs := by
  induction reads generalizing r with
  | nil => exact fewer_refl _
  | cons events reads ih =>
    have hevents := fewer_foldl_readEvent events r
    have hread : Fewer r.fs (readEvents r events).fs :=
      hevents.trans (fewer_foldl_forceRemove (hevents.valid hfs) _)
    exact hread.trans (ih _ (hread.valid hfs))

/-- Reading the inotify queue only removes watches. -/
theorem fewer_readNotifyEvents (hfs : fs.Valid) (filesMap : DevicesFilesMap δ)
    (reads : List (List InotifyEvent)) : Fewer fs (fs.readNotifyEvents filesMap reads).1 :=
  fewer_foldl_readEvents reads { fs, filesMap } hfs

/-! ### Watching a directory -/

/-- One watch is set, with a descriptor that no other path has. -/
lemma Valid.setWatch {count : ℕ} (hfs : fs.Valid) (hpos : 0 < wd)
    (hset : ∀ path' : String, fs'.watchedDescriptorsMap[path']? =
      if path' = path then some { wd, count } else fs.watchedDescriptorsMap[path']?)
    (hother : ∀ (path' : String) watched, path' ≠ path →
      fs.watchedDescriptorsMap[path']? = some watched → watched.wd ≠ wd) : fs'.Valid := by
  constructor
  · intro path₁ path₂ watched₁ watched₂ h₁ h₂ heq
    rw [hset] at h₁ h₂
    split_ifs at h₁ h₂ with hp₁ hp₂ hp₂
    · rw [hp₁, hp₂]
    · cases h₁
      exact absurd heq.symm (hother path₂ watched₂ hp₂ h₂)
    · cases h₂
      exact absurd heq (hother path₁ watched₁ hp₁ h₁)
    · exact hfs.distinct h₁ h₂ heq
  · intro path' watched h'
    rw [hset] at h'
    split_ifs at h'
    · cases h'
      exact hpos
    · exact hfs.pos h'

/-- The directory is watched anew, or it was watched and is counted unless that is checked. -/
lemma addNotifyDirectoryWatch_cases {check : Bool} {added : Option ℤ}
    (h : fs.addNotifyDirectoryWatch path check added = some (fs', wd)) :
    (fs.watchedDescriptorsMap[path]? = none ∧ added = some wd ∧
        fs'.watchedDescriptorsMap = fs.watchedDescriptorsMap.insert path { wd, count := 1 }) ∨
      ∃ count, fs.watchedDescriptorsMap[path]? = some { wd, count } ∧
        fs'.watchedDescriptorsMap = if check then fs.watchedDescriptorsMap
          else fs.watchedDescriptorsMap.insert path { wd, count := count + 1 } := by
  rw [addNotifyDirectoryWatch, addNotifyWatch] at h
  cases hpath : fs.watchedDescriptorsMap[path]? with
  | none =>
    simp only [hpath, ite_self] at h
    obtain ⟨wd', rfl, heq⟩ := Option.map_eq_some_iff.mp h
    cases heq
    exact Or.inl ⟨rfl, rfl, rfl⟩
  | some watched =>
    simp only [hpath] at h
    refine Or.inr ⟨watched.count, ?_⟩
    split_ifs at h ⊢
    · cases h
      exact ⟨rfl, rfl⟩
    · cases h
      exact ⟨rfl, rfl⟩

end

end FSNotify

end GLogiK
