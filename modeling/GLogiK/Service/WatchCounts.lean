import GLogiK.Lib.RefCount
import GLogiK.Service.DeviceMoves

/-!
# References to watched directories

The devices of a vendor share one watch of its directory, which is removed when its count drops to
zero. A device that is initialized counts itself. A device that is saved takes the descriptor it
finds without counting itself: when it did not have this descriptor before, the watch is removed too
early.
-/

namespace GLogiK

variable {δ : Type*} [LinearOrder δ]

namespace ServiceDevices

variable {s s' : ServiceDevices δ} {devID : δ} {device : DeviceRecord} {answers : DeviceAnswers}

/-! ### The property and its condition -/

/-- When the device is unreferenced, the directory of another device that has the descriptor last
returned for it stays watched. -/
def UnrefKeepsWatches (s : ServiceDevices δ) (devID : δ) : Prop :=
  ∀ (id : δ) device, id ≠ devID → s.properties id = some device →
    s.returned (s.directory device.vendor) = some device.watchedDescriptor →
    s.fs.watchedDescriptorsMap[s.directory device.vendor]? ≠ none →
    (s.unrefDevice devID).fs.watchedDescriptorsMap[s.directory device.vendor]? ≠ none

/-- Every call of `unrefDevice` in the loop of `clearDevices`, with the state it is called in. -/
def unrefCallsAll (answers : δ → DeviceAnswers) :
    List δ → ServiceDevices δ → List (ServiceDevices δ × δ)
  | [], _ => []
  | devID :: devIDs, s =>
    (s.stopDevice devID (answers devID), devID) ::
      unrefCallsAll answers devIDs (s.unplugDevice devID (answers devID))

/-- Every call of `unrefDevice`, with the state it is called in. -/
def unrefCalls (s : ServiceDevices δ) : DevicesEvent δ → List (ServiceDevices δ × δ)
  | .unplugDevice devID answers => [(s.stopDevice devID answers, devID)]
  | .clearDevices answers       => unrefCallsAll answers s.devicesID s
  | _                           => []

/-- No device that is unreferenced takes the watch from another one. -/
def KeepsWatches (s : ServiceDevices δ) (event : DevicesEvent δ) : Prop :=
  ∀ call ∈ s.unrefCalls event, call.1.UnrefKeepsWatches call.2

/-- A device that is saved finds its directory watched with the descriptor it has, or not at all. -/
def SavesOwnWatch (s : ServiceDevices δ) : DevicesEvent δ → Prop
  | .saveDeviceConfigurationFile devID answer =>
    answer.created → ∀ device ∈ s.startedDevices[devID]?,
      ∀ watched ∈ s.fs.watchedDescriptorsMap[s.directory device.vendor]?,
        watched.wd = device.watchedDescriptor
  | _ => True

instance SavesOwnWatch.decidable (s : ServiceDevices δ) :
    (event : DevicesEvent δ) → Decidable (s.SavesOwnWatch event)
  | .saveDeviceConfigurationFile devID answer =>
    inferInstanceAs (Decidable (answer.created = true → ∀ device ∈ s.startedDevices[devID]?,
      ∀ watched ∈ s.fs.watchedDescriptorsMap[s.directory device.vendor]?,
        watched.wd = device.watchedDescriptor))
  | .startDevice _ _ | .stopDevice _ _ | .unplugDevice _ _ | .clearDevices _
  | .setDeviceCurrentBankID _ _ | .setDeviceMacro _ _ _ | .clearDeviceMacro _ _
  | .checkNotifyEvents _ _ => inferInstanceAs (Decidable True)

/-! ### Counted devices -/

/-- The descriptor that a known device has. -/
def holds (s : ServiceDevices δ) (id : δ) : Option ℤ := (s.properties id).map (·.watchedDescriptor)

/-- Some directory is watched with the descriptor and the count. -/
def counted (s : ServiceDevices δ) (wd : ℤ) (count : ℕ) : Prop :=
  ∃ path : String, s.fs.watchedDescriptorsMap[path]? = some { wd, count }

/-- The watches count the devices that have their descriptors, and inotify will return new ones. -/
structure Balanced (s : ServiceDevices δ) : Prop where
  valid : s.fs.Valid
  nextWd_pos : 0 < s.nextWd
  wd_lt : ∀ {path : String} {watched : WatchedObject},
    s.fs.watchedDescriptorsMap[path]? = some watched → watched.wd < s.nextWd
  returned : ∀ {path : String} {watched : WatchedObject},
    s.fs.watchedDescriptorsMap[path]? = some watched → s.returned path = some watched.wd
  holds_lt : ∀ {id : δ} {wd : ℤ}, s.holds id = some wd → wd < s.nextWd
  covers : RefCount.Covers s.holds s.counted

/-- Devices may go, and watches. -/
lemma Balanced.fewer (h : s.Balanced) (hfs : FSNotify.Fewer s.fs s'.fs)
    (hnextWd : s'.nextWd = s.nextWd) (hreturned : s'.returned = s.returned)
    (hholds : ∀ id wd, s'.holds id = some wd → s.holds id = some wd) : s'.Balanced where
  valid := hfs.valid h.valid
  nextWd_pos := by
    rw [hnextWd]
    exact h.nextWd_pos
  wd_lt hpath := by
    rw [hnextWd]
    exact h.wd_lt (hfs _ _ hpath)
  returned hpath := by
    rw [hreturned]
    exact h.returned (hfs _ _ hpath)
  holds_lt hwd := by
    rw [hnextWd]
    exact h.holds_lt (hholds _ _ hwd)
  covers := by
    refine h.covers.mono hholds fun wd count => ?_
    rintro ⟨path, hpath⟩
    exact ⟨path, hfs _ _ hpath⟩

lemma SameWatches.balanced (hsame : SameWatches s s') (h : s.Balanced)
    (hholds : ∀ id wd, s'.holds id = some wd → s.holds id = some wd) : s'.Balanced := by
  refine h.fewer ?_ hsame.nextWd hsame.returned hholds
  rw [hsame.fs]
  exact FSNotify.fewer_refl s.fs

/-- A device whose directory could not be watched is not counted. -/
lemma SameWatches.balanced_update (hsame : SameWatches s s') (h : s.Balanced)
    (hholds : s'.holds = Function.update s.holds devID (some (-1))) : s'.Balanced where
  valid := by
    rw [hsame.fs]
    exact h.valid
  nextWd_pos := by
    rw [hsame.nextWd]
    exact h.nextWd_pos
  wd_lt := by
    rw [hsame.fs, hsame.nextWd]
    exact h.wd_lt
  returned := by
    rw [hsame.fs, hsame.returned]
    exact h.returned
  holds_lt := by
    intro id wd hwd
    rw [hholds, Function.update_apply] at hwd
    split_ifs at hwd
    · cases hwd
      omega
    · rw [hsame.nextWd]
      exact h.holds_lt hwd
  covers := by
    rw [hholds]
    refine h.covers.update fun wd count => ?_
    rw [counted, hsame.fs]
    rintro ⟨path, hpath⟩
    refine .kept ⟨path, hpath⟩ fun hwd => ?_
    have hpos : 0 < wd := h.valid.pos hpath
    cases hwd
    omega

/-- One watch is set, and one device comes to have it. -/
lemma Balanced.setWatch (h : s.Balanced) {path : String} {wd : ℤ} {count : ℕ} (hpos : 0 < wd)
    (hlt : wd < s'.nextWd) (hnextWd : s.nextWd ≤ s'.nextWd)
    (hfs : ∀ path' : String, s'.fs.watchedDescriptorsMap[path']? =
      if path' = path then some { wd, count } else s.fs.watchedDescriptorsMap[path']?)
    (hother : ∀ (path' : String) watched, path' ≠ path →
      s.fs.watchedDescriptorsMap[path']? = some watched → watched.wd ≠ wd)
    (hreturned : s'.returned = Function.update s.returned path (some wd))
    (hholds : s'.holds = Function.update s.holds devID (some wd))
    (hcount : RefCount.Recount s.holds s.counted devID (some wd) wd count) : s'.Balanced where
  valid := h.valid.setWatch hpos hfs hother
  nextWd_pos := h.nextWd_pos.trans_le hnextWd
  wd_lt := by
    intro path' watched h'
    rw [hfs] at h'
    split_ifs at h'
    · cases h'
      exact hlt
    · have hbefore := h.wd_lt h'
      omega
  returned := by
    intro path' watched h'
    rw [hfs] at h'
    rw [hreturned, Function.update_apply]
    split_ifs at h' ⊢
    · cases h'
      rfl
    · exact h.returned h'
  holds_lt := by
    intro id wd' hwd
    rw [hholds, Function.update_apply] at hwd
    split_ifs at hwd
    · cases hwd
      exact hlt
    · have hbefore := h.holds_lt hwd
      omega
  covers := by
    rw [hholds]
    refine h.covers.update fun wd' count' => ?_
    rintro ⟨path', h'⟩
    rw [hfs] at h'
    split_ifs at h' with hpath
    · cases h'
      exact hcount
    · refine .kept ⟨path', h'⟩ fun hwd => ?_
      cases hwd
      exact absurd rfl (hother path' _ hpath h')

/-- A device whose directory is watched is counted, or it was counted before. -/
lemma Balanced.watchWith (h : s.Balanced) {check : Bool} {added : Option ℤ} {fs : FSNotify} {wd : ℤ}
    (hadded : added = none ∨ added = some (s.nextWd : ℤ))
    (hadd : s.fs.addNotifyDirectoryWatch (s.directory device.vendor) check added = some (fs, wd))
    (hcheck : check → ∀ count : ℕ,
      s.fs.watchedDescriptorsMap[s.directory device.vendor]? = some { wd, count } →
        s.holds devID = some wd)
    (hsame : SameWatches (s.watchWith device fs wd).1 s')
    (hholds : s'.holds = Function.update s.holds devID (some wd)) : s'.Balanced := by
  have hnextWd : s'.nextWd = s.nextWd + 1 := hsame.nextWd
  have hfs : s'.fs = fs := hsame.fs
  rcases FSNotify.addNotifyDirectoryWatch_cases hadd with ⟨hnone, hwd, hmap⟩ | ⟨count, hfound, hmap⟩
  · -- inotify returns a new descriptor, which nobody has
    have heq : wd = s.nextWd := by
      rcases hadded with rfl | rfl
      · cases hwd
      · cases hwd
        rfl
    refine h.setWatch ?_ (by omega) (by omega) (fun path' => ?_) (fun path' watched _ h' => ?_)
      hsame.returned hholds (.fresh fun id hid => ?_)
    · have hpos := h.nextWd_pos
      omega
    · rw [hfs, hmap, getElem?_insert_eq]
    · have hlt := h.wd_lt h'
      omega
    · have hlt := h.holds_lt hid
      omega
  · have hother : ∀ (path' : String) watched, path' ≠ s.directory device.vendor →
        s.fs.watchedDescriptorsMap[path']? = some watched → watched.wd ≠ wd := by
      intro path' watched hpath h' heq
      exact hpath (h.valid.distinct h' hfound heq)
    have hlt : wd < s.nextWd := h.wd_lt hfound
    have hpos : 0 < wd := h.valid.pos hfound
    cases check with
    | true =>
      -- it is not counted again, but it already had the descriptor
      refine h.setWatch hpos (by omega) (by omega) (fun path' => ?_) hother
        hsame.returned hholds (.kept ⟨_, hfound⟩ fun _ => hcheck rfl count hfound)
      rw [hfs, hmap, if_pos rfl]
      exact getElem?_of_eq hfound path'
    | false =>
      refine h.setWatch hpos (by omega) (by omega) (fun path' => ?_) hother
        hsame.returned hholds (.again ⟨_, hfound⟩)
      rw [hfs, hmap, if_neg Bool.false_ne_true, getElem?_insert_eq]

/-- A device that was not watched is initialized. -/
lemma Balanced.initialized (h : s.Balanced) (hdevice : device.watchedDescriptor = -1)
    {answer : DirectoryAnswer}
    (hsame : SameWatches (s.initializeConfigurationDirectory device false answer).1 s')
    (hholds : s'.holds = Function.update s.holds devID
      (some (s.initializeConfigurationDirectory device false answer).2.watchedDescriptor)) :
    s'.Balanced := by
  rcases s.initializeConfigurationDirectory_cases device false answer with
    heq | ⟨fs, wd, added, _, hadded, hadd, heq⟩
  · rw [heq] at hsame hholds
    rw [hdevice] at hholds
    exact hsame.balanced_update h hholds
  · rw [heq] at hsame hholds
    exact h.watchWith hadded hadd (fun hcheck => by cases hcheck) hsame hholds

/-- A new device is given its properties. -/
lemma Balanced.setDeviceProperties (h : s.Balanced)
    (hsame : SameWatches (s.setDeviceProperties devID answers).1 s')
    (hholds : s'.holds = Function.update s.holds devID
      (some (s.setDeviceProperties devID answers).2.watchedDescriptor)) : s'.Balanced := by
  have hqueried : answers.queried.watchedDescriptor = -1 :=
    answers.queried_isDefault.watchedDescriptor
  rw [ServiceDevices.setDeviceProperties] at hsame hholds
  cases hfound : s.nextFileName answers.queried answers.status true with
  | some configFilePath =>
    simp only [hfound, DeviceRecord.load_watchedDescriptor] at hsame hholds
    refine h.initialized ?_ hsame hholds
    exact hqueried
  | none =>
    cases hnew : s.nextFileName answers.queried answers.status false with
    | some configFilePath =>
      simp only [hfound, hnew] at hsame hholds
      have hsame' : SameWatches (s.initializeConfigurationDirectory
          { answers.queried with configFilePath } false answers.directory).1 s' :=
        ⟨hsame.directory, hsame.fs, hsame.nextWd, hsame.returned⟩
      refine h.initialized ?_ hsame' hholds
      exact hqueried
    | none =>
      simp only [hfound, hnew] at hsame hholds
      rw [hqueried] at hholds
      exact hsame.balanced_update h hholds

/-! ### Unreferencing a device -/

lemma Files.holds {started stopped : Option DeviceRecord} (h : Files s s' devID started stopped) :
    s'.holds = Function.update s.holds devID ((started.or stopped).map (·.watchedDescriptor)) := by
  funext id
  rw [ServiceDevices.holds, h.properties, Function.update_apply]
  split_ifs <;> rfl

lemma DisjointIDs.holds_stopped (hs : s.DisjointIDs)
    (hstopped : s.stoppedDevices[devID]? = some device) :
    s.holds devID = some device.watchedDescriptor := by
  rw [holds, properties, hs.started hstopped, hstopped]
  rfl

lemma Balanced.unrefDevice (h : s.Balanced) (hs : s.DisjointIDs)
    (hstarted : s.startedDevices[devID]? = none) : (s.unrefDevice devID).Balanced := by
  have hholds : (s.unrefDevice devID).holds = Function.update s.holds devID none :=
    (files_unrefDevice hstarted).holds
  have hless : ∀ id wd, (s.unrefDevice devID).holds id = some wd → s.holds id = some wd := by
    intro id wd hwd
    rw [hholds, Function.update_apply] at hwd
    split_ifs at hwd
    exact hwd
  rw [ServiceDevices.unrefDevice] at hholds hless ⊢
  cases hstopped : s.stoppedDevices[devID]? with
  | none => exact h
  | some device =>
    have hdevID := hs.holds_stopped hstopped
    simp only [hstopped] at hholds hless ⊢
    by_cases hwd : device.watchedDescriptor = -1
    · -- nothing is removed for a device that has no watch
      refine h.fewer ?_ rfl rfl hless
      rw [FSNotify.removeNotifyWatch, if_pos hwd]
      exact FSNotify.fewer_refl s.fs
    · refine ⟨h.valid.removeNotifyWatch _, h.nextWd_pos, fun hpath => ?_, fun hpath => ?_,
        fun hwd' => h.holds_lt (hless _ _ hwd'), ?_⟩
      · obtain ⟨count, hbefore⟩ := FSNotify.wd_of_removeNotifyWatch hpath
        have hlt := h.wd_lt hbefore
        exact hlt
      · obtain ⟨count, hbefore⟩ := FSNotify.wd_of_removeNotifyWatch hpath
        have hreturned := h.returned hbefore
        exact hreturned
      · rw [hholds]
        refine h.covers.update fun wd count => ?_
        rintro ⟨path, hpath⟩
        rcases FSNotify.of_removeNotifyWatch hwd hpath with ⟨_, hmem⟩ | ⟨count', _, heq, hmem⟩
        · exact .kept ⟨path, hmem⟩ fun hnone => by cases hnone
        · cases heq
          have hpos := h.covers.pos ⟨path, hmem⟩ hdevID
          refine .released ⟨path, ?_⟩ hdevID fun hnone => by cases hnone
          rw [hmem, Nat.sub_add_cancel hpos]

/-- The watch of another device is not the last reference. -/
lemma Balanced.unrefKeepsWatches (h : s.Balanced) (hs : s.DisjointIDs) (devID : δ) :
    s.UnrefKeepsWatches devID := by
  intro id device hid hdevice hreturned hwatched
  rw [ServiceDevices.unrefDevice]
  cases hstopped : s.stoppedDevices[devID]? with
  | none => exact hwatched
  | some device' =>
    obtain ⟨⟨wd, count⟩, hwatched⟩ := Option.ne_none_iff_exists'.mp hwatched
    have hwd := h.returned hwatched
    rw [hreturned, Option.some_inj] at hwd
    by_cases hne : wd = device'.watchedDescriptor
    · have hid' : s.holds id = some wd := by
        rw [holds, hdevice, Option.map_some, hwd]
      have hdevID : s.holds devID = some wd := by
        rw [hs.holds_stopped hstopped, hne]
      have htwo := h.covers.two_le ⟨_, hwatched⟩ hid' hdevID hid
      have hcount : count ≠ 1 := by omega
      have hpos : 0 < wd := h.valid.pos hwatched
      simp only
      rw [FSNotify.getElem?_removeNotifyWatch (by omega), hwatched, Option.bind_some,
        if_neg (not_not_intro hne), if_neg hcount]
      exact Option.some_ne_none _
    · rw [FSNotify.removeNotifyWatch_of_ne hwatched hne]
      exact Option.some_ne_none _

/-! ### Every step -/

/-- A device is filed, new or known. -/
lemma Balanced.filed (h : s.Balanced)
    (hnew : s.properties devID = none → SameWatches (s.setDeviceProperties devID answers).1 s')
    (hknown : s.properties devID ≠ none → SameWatches s s')
    (hholds : s'.holds = Function.update s.holds devID
      (some (s.propertiesD devID answers).watchedDescriptor)) : s'.Balanced := by
  cases hprop : s.properties devID with
  | none =>
    rw [propertiesD, hprop, Option.getD_none] at hholds
    exact h.setDeviceProperties (hnew hprop) hholds
  | some device =>
    rw [propertiesD, hprop, Option.getD_some] at hholds
    have hsame : s'.holds = s.holds := by
      rw [hholds]
      refine Function.update_eq_self_iff.mpr ?_
      rw [holds, hprop, Option.map_some]
    refine (hknown (by rw [hprop]; exact Option.some_ne_none _)).balanced h fun id wd hwd => ?_
    rwa [hsame] at hwd

lemma Balanced.startDevice (h : s.Balanced) (hs : s.DisjointIDs) (devID : δ)
    (answers : DeviceAnswers) : (s.startDevice devID answers).Balanced :=
  h.filed (fun hnew => (sameAround_startDevice_new hnew answers).toSameWatches)
    (fun hknown => (sameAround_startDevice hknown answers).toSameWatches)
    (hs.files_startDevice devID answers).holds

lemma Balanced.stopDevice (h : s.Balanced) (hs : s.DisjointIDs) (devID : δ)
    (answers : DeviceAnswers) : (s.stopDevice devID answers).Balanced :=
  h.filed (fun hnew => (sameAround_stopDevice_new hnew answers).toSameWatches)
    (fun hknown => (sameAround_stopDevice hknown answers).toSameWatches)
    (hs.files_stopDevice devID answers).holds

/-- When a device is unplugged, the call of `unrefDevice` keeps the watches of the others. -/
lemma Balanced.unplugDevice (h : s.Balanced) (hs : s.DisjointIDs) (devID : δ)
    (answers : DeviceAnswers) :
    (s.stopDevice devID answers).UnrefKeepsWatches devID ∧
      (s.unplugDevice devID answers).Balanced := by
  have hstop := h.stopDevice hs devID answers
  have hfiles := hs.files_stopDevice devID answers
  have hdisjoint : (s.stopDevice devID answers).DisjointIDs :=
    hfiles.disjointIDs hs fun hnone => by cases hnone
  refine ⟨hstop.unrefKeepsWatches hdisjoint devID, ?_⟩
  rw [unplugDevice_eq]
  refine hstop.unrefDevice hdisjoint ?_
  rw [hfiles.started, if_pos rfl]

lemma Balanced.unplugAll (h : s.Balanced) (hs : s.DisjointIDs) (answers : δ → DeviceAnswers)
    (devIDs : List δ) :
    (∀ call ∈ unrefCallsAll answers devIDs s, call.1.UnrefKeepsWatches call.2) ∧
      (s.unplugAll answers devIDs).Balanced := by
  induction devIDs generalizing s with
  | nil => exact ⟨List.forall_mem_nil _, h⟩
  | cons devID devIDs ih =>
    obtain ⟨hkeeps, hunplug⟩ := h.unplugDevice hs devID (answers devID)
    have hdisjoint : (s.unplugDevice devID (answers devID)).DisjointIDs :=
      (hs.files_unplugDevice devID _).disjointIDs hs fun _ => rfl
    obtain ⟨hrest, hall⟩ := ih hunplug hdisjoint
    exact ⟨List.forall_mem_cons.mpr ⟨hkeeps, hrest⟩, hall⟩

lemma InPlace.holds (h : InPlace DeviceRecord.watchedDescriptor s s') : s'.holds = s.holds :=
  funext h.properties

/-- A started device is written back. -/
lemma holds_insertStarted (hsame : SameContainers s s') (device : DeviceRecord) :
    (ignoreNextNotification { s' with startedDevices := s'.startedDevices.insert devID device }
      devID).holds = Function.update s.holds devID (some device.watchedDescriptor) := by
  funext id
  rw [holds, properties, Function.update_apply]
  simp only [ignoreNextNotification]
  rw [getElem?_insert_eq, hsame.started, hsame.stopped]
  split_ifs <;> rfl

/-- A device that is saved takes no descriptor for which it is not counted. -/
lemma Balanced.saveDeviceConfigurationFile (h : s.Balanced) {answer : DirectoryAnswer}
    (hsave : s.SavesOwnWatch (.saveDeviceConfigurationFile devID answer)) :
    (s.saveDeviceConfigurationFile devID answer).Balanced := by
  rw [ServiceDevices.saveDeviceConfigurationFile]
  cases hdevice : s.startedDevices[devID]? with
  | none => exact h
  | some device =>
    have hown : s.holds devID = some device.watchedDescriptor := by
      rw [holds, properties, hdevice]
      rfl
    have hholds : _ = Function.update s.holds devID _ := holds_insertStarted
      (sameContainers_initializeConfigurationDirectory (s := s) device true answer)
      (s.initializeConfigurationDirectory device true answer).2
    rcases s.initializeConfigurationDirectory_cases device true answer with
      heq | ⟨fs, wd, added, hcreated, hadded, hadd, heq⟩
    · simp only [heq] at hholds ⊢
      have hsame : SameWatches s (ignoreNextNotification
          { s with startedDevices := s.startedDevices.insert devID device } devID) :=
        ⟨rfl, rfl, rfl, rfl⟩
      refine hsame.balanced h fun id wd hwd => ?_
      rw [hholds, ← hown, Function.update_eq_self] at hwd
      exact hwd
    · simp only [heq] at hholds ⊢
      refine h.watchWith hadded hadd (fun _ count hfound => ?_) ⟨rfl, rfl, rfl, rfl⟩ hholds
      have hwd : wd = device.watchedDescriptor := hsave hcreated device hdevice _ hfound
      rw [hown, hwd]

lemma Balanced.clearDevices (h : s.Balanced) (hs : s.DisjointIDs) (answers : δ → DeviceAnswers) :
    (s.clearDevices answers).Balanced := by
  have hall := (h.unplugAll hs answers s.devicesID).2
  have hsame : SameWatches (s.unplugAll answers s.devicesID) (s.clearDevices answers) :=
    ⟨rfl, rfl, rfl, rfl⟩
  refine hsame.balanced hall fun id wd hwd => ?_
  rw [holds, properties_eq_none_iff.mpr (files_clearDevices answers id)] at hwd
  cases hwd

lemma Balanced.checkNotifyEvents (h : s.Balanced) (reads : List (List InotifyEvent))
    (files : δ → Option SavedConfiguration) : (s.checkNotifyEvents reads files).Balanced := by
  have hread : ({ s with fs := (s.fs.readNotifyEvents s.getDevicesFilesMap reads).1 } :
      ServiceDevices δ).Balanced :=
    h.fewer (FSNotify.fewer_readNotifyEvents h.valid _ reads) rfl rfl fun _ _ hwd => hwd
  have hholds := (inPlace_reloadAll (fun _ file => DeviceRecord.load_watchedDescriptor file) files
    (s.fs.readNotifyEvents s.getDevicesFilesMap reads).2.keys
    { s with fs := (s.fs.readNotifyEvents s.getDevicesFilesMap reads).1 }).holds
  refine (sameAround_reloadAll files _ _).toSameWatches.balanced hread fun id wd hwd => ?_
  rwa [hholds] at hwd

lemma Balanced.changeStarted (h : s.Balanced) {change : DeviceRecord → Option DeviceRecord}
    (hplace : InPlace DeviceRecord.watchedDescriptor s (s.changeStarted devID change)) :
    (s.changeStarted devID change).Balanced := by
  refine (sameAround_changeStarted devID change).toSameWatches.balanced h fun id wd hwd => ?_
  rwa [hplace.holds] at hwd

/-- A step that meets the condition keeps the watches, and the balance. -/
lemma Balanced.step (h : s.Balanced) (hs : s.DisjointIDs) (event : DevicesEvent δ)
    (hsave : s.SavesOwnWatch event) : s.KeepsWatches event ∧ (s.step event).Balanced := by
  cases event with
  | startDevice devID answers => exact ⟨List.forall_mem_nil _, h.startDevice hs devID answers⟩
  | stopDevice devID answers => exact ⟨List.forall_mem_nil _, h.stopDevice hs devID answers⟩
  | unplugDevice devID answers =>
    obtain ⟨hkeeps, hunplug⟩ := h.unplugDevice hs devID answers
    exact ⟨List.forall_mem_singleton.mpr hkeeps, hunplug⟩
  | clearDevices answers =>
    exact ⟨(h.unplugAll hs answers s.devicesID).1, h.clearDevices hs answers⟩
  | saveDeviceConfigurationFile devID answer =>
    exact ⟨List.forall_mem_nil _, h.saveDeviceConfigurationFile hsave⟩
  | setDeviceCurrentBankID devID bankID =>
    exact ⟨List.forall_mem_nil _,
      h.changeStarted (inPlace_setDeviceCurrentBankID (fun _ _ => rfl) bankID)⟩
  | setDeviceMacro devID keyID events =>
    exact ⟨List.forall_mem_nil _,
      h.changeStarted (inPlace_setDeviceMacro (fun _ _ => rfl) keyID events)⟩
  | clearDeviceMacro devID keyID =>
    exact ⟨List.forall_mem_nil _, h.changeStarted (inPlace_clearDeviceMacro (fun _ _ => rfl) keyID)⟩
  | checkNotifyEvents reads files =>
    exact ⟨List.forall_mem_nil _, h.checkNotifyEvents reads files⟩

lemma keepsWatches_unplugDevice :
    s.KeepsWatches (.unplugDevice devID answers) ↔
      (s.stopDevice devID answers).UnrefKeepsWatches devID :=
  List.forall_mem_singleton

lemma balanced_init (directory : String → String) : ({ directory } : ServiceDevices δ).Balanced := by
  refine ⟨⟨fun hpath => ?_, fun hpath => ?_⟩, Nat.one_pos, fun hpath => ?_, fun hpath => ?_,
    fun hwd => ?_, ?_⟩
  · cases hpath
  · cases hpath
  · cases hpath
  · cases hpath
  · cases hwd
  · rintro wd count ⟨path, hpath⟩
    cases hpath

end ServiceDevices

/-- In a run in which every device that is saved finds its own watch or none, no watch is taken from
a device. -/
theorem keepsWatches_of_savesOwnWatch (directory : String → String) (events : List (DevicesEvent δ))
    (h : Run.Steps ServiceDevices.step ServiceDevices.SavesOwnWatch { directory } events) :
    Run.Steps ServiceDevices.step ServiceDevices.KeepsWatches { directory } events := by
  let inv : ServiceDevices δ → Prop := fun s => s.Balanced ∧ s.DisjointIDs
  have hinit : inv { directory } :=
    ⟨ServiceDevices.balanced_init directory, ServiceDevices.disjointIDs_init directory⟩
  refine h.imp hinit ?_
  rintro s event ⟨hbalanced, hs⟩ hsave
  obtain ⟨hkeeps, hnext⟩ := hbalanced.step hs event hsave
  exact ⟨hkeeps, hnext, hs.step event⟩

def g510Answers : DeviceAnswers where
  properties := some ("Logitech", "Gaming Keyboard", "G510", 0)

theorem keepsWatches_g510 :
    Run.Steps ServiceDevices.step ServiceDevices.KeepsWatches ({ directory := id } : ServiceDevices ℕ)
      [.startDevice 0 g510Answers, .startDevice 1 g510Answers, .saveDeviceConfigurationFile 0 {},
        .unplugDevice 0 g510Answers] :=
  keepsWatches_of_savesOwnWatch id _ (by decide +kernel)

/-- The directory is removed and created again: the first device that is saved is counted, and the
second takes the descriptor. When the first one goes, so does the watch of the second. -/
theorem not_keepsWatches_recreated :
    ¬ ∀ (directory : String → String) (events : List (DevicesEvent ℕ)),
      Run.Steps ServiceDevices.step ServiceDevices.KeepsWatches { directory } events := by
  intro h
  let events : List (DevicesEvent ℕ) :=
    [.startDevice 0 g510Answers, .startDevice 1 g510Answers,
      .checkNotifyEvents [[{ wd := 1, ignored := true }]] fun _ => none,
      .saveDeviceConfigurationFile 0 {}, .saveDeviceConfigurationFile 1 {}]
  let s : ServiceDevices ℕ := Run.run ServiceDevices.step { directory := id } events
  have hlast : s.KeepsWatches (.unplugDevice 0 g510Answers) :=
    (Run.steps_append.mp (h id (events ++ [.unplugDevice 0 g510Answers]))).2.1
  have hdevice : ((s.stopDevice 0 g510Answers).properties 1).map
      (fun device => (device.vendor, device.watchedDescriptor)) = some ("Logitech", 3) := by
    decide +kernel
  obtain ⟨device, hprop, heq⟩ := Option.map_eq_some_iff.mp hdevice
  obtain ⟨hvendor, hwd⟩ := Prod.mk.inj heq
  have hkeeps := ServiceDevices.keepsWatches_unplugDevice.mp hlast 1 device (by decide) hprop
  rw [hvendor, hwd] at hkeeps
  have hwatched : (s.stopDevice 0 g510Answers).returned
        ((s.stopDevice 0 g510Answers).directory "Logitech") = some 3 ∧
      (s.stopDevice 0 g510Answers).fs.watchedDescriptorsMap[
        (s.stopDevice 0 g510Answers).directory "Logitech"]? ≠ none := by
    decide +kernel
  have hgone : ((s.stopDevice 0 g510Answers).unrefDevice 0).fs.watchedDescriptorsMap[
      (s.stopDevice 0 g510Answers).directory "Logitech"]? = none := by
    decide +kernel
  exact hkeeps hwatched.1 hwatched.2 hgone

end GLogiK
