import GLogiK.Daemon.Refinement

/-!
# What the operations do to each device

Hotplug, hard stops, suspend and resume, resets and configurations of the devices manager, as
changes of the views of the devices and signals that are sent about them.
-/

namespace GLogiK

variable {δ : Type*} [LinearOrder δ]

namespace DevicesManager

variable {m m' : DevicesManager δ} {driver : KeyboardDriver δ} {devID : δ}
  {act : δ → DeviceView δ → DeviceView δ}

/-! ### Changes outside the containers -/

lemma OneDriver.congr (h : m.OneDriver driver) (hdrivers : m'.drivers = m.drivers)
    (hstarted : m'.startedDevices = m.startedDevices)
    (hstopped : m'.stoppedDevices = m.stoppedDevices) : m'.OneDriver driver :=
  ⟨hdrivers.trans h.drivers, hstarted ▸ h.started, hstopped ▸ h.stopped, h.held⟩

lemma Acts.setDetected (h : Acts act m m') (detected : StdMap δ (USBDeviceID δ)) :
    Acts act { m with detectedDevices := detected } { m' with detectedDevices := detected } := by
  obtain ⟨⟨driver, h1⟩, h2, h3, _, h5, h6, h7⟩ := h
  exact ⟨⟨driver, h1.congr rfl rfl rfl⟩, h2, h3, rfl, h5, h6, h7⟩

lemma Acts.setSleeping (h : Acts act m m') (sleeping : List δ) :
    Acts act { m with sleepingDevices := sleeping } { m' with sleepingDevices := sleeping } := by
  obtain ⟨⟨driver, h1⟩, h2, h3, h4, _, h6, h7⟩ := h
  exact ⟨⟨driver, h1.congr rfl rfl rfl⟩, h2, h3, h4, rfl, h6, h7⟩

@[simp] lemma view_send (m : DevicesManager δ) (signals : List (BusSignal δ)) (devID : δ) :
    (m.send signals).view devID = { m.view devID with
      switches := (m.view devID).switches ++ signals.filterMap (BusSignal.switchOf devID) } := by
  simp [view, send]

/-- Signals that are no bank switches change no view. -/
lemma Acts.send (h : Acts act m m') {signals : List (BusSignal δ)}
    (hswitch : ∀ signal ∈ signals, ∀ devID, signal.switchOf devID = none) :
    Acts act m (m'.send signals) := by
  obtain ⟨⟨driver, h1⟩, h2, h3, h4, h5, h6, h7⟩ := h
  refine ⟨⟨driver, h1.congr rfl rfl rfl⟩, h2, fun id => ?_, h4, h5, h6,
    h7.trans (List.prefix_append _ _)⟩
  have hnil : signals.filterMap (BusSignal.switchOf id) = [] :=
    List.filterMap_eq_nil_iff.mpr fun signal hsignal => hswitch signal hsignal id
  rw [← h3, view_send, hnil, List.append_nil]

/-- The status signal at the end of a loop, which the number of clients may suppress. -/
lemma Acts.sendStatus (h : Acts act m m') (toSend : List δ) {signal : BusSignal δ}
    (hswitch : ∀ devID, signal.switchOf devID = none) :
    Acts act m (if toSend = [] then m'
      else m'.send (sendStatusSignalArrayToClients m'.numClients signal)) := by
  rw [sendStatusSignalArrayToClients]
  split_ifs
  · exact h
  · exact h.send nofun
  · exact h.send (by simpa using hswitch)

/-! ### Maps as lists -/

lemma nodup_toList (map : StdMap δ (USBDeviceID δ)) : (map.toList.map (·.1)).Nodup := by
  rw [Std.ExtTreeMap.map_fst_toList_eq_keys]
  exact map.nodup_keys

lemma mem_keys {map : StdMap δ (USBDeviceID δ)} {devID : δ} :
    devID ∈ map.keys ↔ map[devID]?.isSome := by
  rw [Std.ExtTreeMap.mem_keys, Std.ExtTreeMap.mem_iff_isSome_getElem?]

lemma mem_startedDevices : devID ∈ m.startedDevices.keys ↔ (m.view devID).started.isSome := mem_keys

lemma mem_stoppedDevices : devID ∈ m.stoppedDevices.keys ↔ (m.view devID).stopped.isSome := mem_keys

/-! ### Loops over device IDs -/

lemma loopAct_id (act : δ → DeviceView δ → DeviceView δ) (devIDs : List δ) (devID : δ)
    (v : DeviceView δ) : loopAct id act devIDs devID v = actOn (· ∈ devIDs) act devID v := by
  rw [loopAct, actOn]
  simp only [id_eq, find?_eq_of_mem]
  split_ifs <;> rfl

/-- A loop over device IDs that only changes the manager. -/
theorem OneDriver.foldl_acts {body : DevicesManager δ → δ → DevicesManager δ} {devIDs : List δ}
    (h : m.OneDriver driver) (act : δ → DeviceView δ → DeviceView δ)
    (hbody : ∀ m driver devID, m.OneDriver driver →
      Acts (actOn (· = devID) fun _ => act devID) m (body m devID))
    (hnodup : devIDs.Nodup) :
    Acts (actOn (· ∈ devIDs) act) m (devIDs.foldl body m) := by
  have hloop : LoopBody driver.driverID id (fun _ : DevicesManager δ => []) id act
      (fun _ _ => false) body devIDs :=
    ⟨fun m devID _ driver hm _ => hbody m driver devID hm, fun _ _ _ _ _ _ => by simp⟩
  exact ((hloop.foldl (by simpa using hnodup) h rfl).1).congr fun devID => loopAct_id _ _ _ _

/-! ### Suspend and resume -/

/-- With no started device there is nothing to clear. -/
lemma Acts.clearStarted (h : Acts act m m') (hnone : ∀ devID, (m'.view devID).started = none) :
    Acts act m { m' with startedDevices := ∅ } := by
  obtain ⟨⟨driver, h1⟩, h2, h3, h4, h5, h6, h7⟩ := h
  refine ⟨⟨driver, h1.drivers, by simp, h1.stopped, h1.held⟩, h2, fun devID => ?_, h4, h5, h6, h7⟩
  have hempty : (∅ : StdMap δ (USBDeviceID δ))[devID]? = m'.startedDevices[devID]? := by
    rw [Std.ExtTreeMap.getElem?_empty]
    exact (hnone devID).symm
  rw [← h3]
  simp only [DevicesManager.view, hempty]

/-- A suspend stops every device. -/
theorem OneDriver.acts_stopInitializedDevices (h : m.OneDriver driver) :
    Acts (fun _ v => v.stop) { m with sleepingDevices := m.startedDevices.keys }
      m.stopInitializedDevices := by
  have hm : { m with sleepingDevices := m.startedDevices.keys }.OneDriver driver :=
    h.congr rfl rfl rfl
  have hloop := (hm.foldl_acts (fun _ v => v.stop)
    (fun _ _ devID hm => hm.acts_stopDevice devID) m.startedDevices.nodup_keys).congr
    fun devID => show _ = (m.view devID).stop by
      rw [actOn]
      split_ifs with hmem
      · rfl
      · have hstarted : (m.view devID).started = none :=
          Option.not_isSome_iff_eq_none.mp fun hsome => hmem (mem_startedDevices.mpr hsome)
        rw [DeviceView.stop_of_not_started hstarted]
        rfl
  refine hloop.clearStarted fun devID => ?_
  rw [hloop.view]
  exact DeviceView.stop_started _

/-- A resume starts the devices that were stopped. -/
theorem OneDriver.acts_startSleepingDevices (h : m.OneDriver driver)
    (hnodup : m.sleepingDevices.Nodup) (opens : δ → OpenResult) :
    Acts (actOn (· ∈ m.sleepingDevices) fun devID v => v.start (opens devID))
      { m with sleepingDevices := [] } (m.startSleepingDevices opens) :=
  (h.foldl_acts _ (fun _ _ devID hm => hm.acts_startDevice devID (opens devID))
    hnodup).setSleeping []

/-! ### Hotplug -/

/-- The detected devices are filed under their own ID, and the driver supports them. -/
def Supported (m : DevicesManager δ) (driver : KeyboardDriver δ) : Prop :=
  ∀ devID (det : USBDeviceID δ), m.detectedDevices[devID]? = some det →
    det.devID = devID ∧ det.driverID = driver.driverID

lemma OneDriver.searchSupportedDevices (h : m.OneDriver driver) (found : List (USBDeviceID δ)) :
    (m.searchSupportedDevices found).OneDriver driver := h.congr rfl rfl rfl

/-- Of the devices that were found with an ID, the first one that a loaded driver supports. -/
lemma getElem?_searchSupportedDevices (found : List (USBDeviceID δ)) :
    (m.searchSupportedDevices found).detectedDevices[devID]? =
      m.detectedDevices[devID]?.or
        ((found.filter fun det => m.drivers.any (·.driverID = det.driverID)).find?
          (·.devID = devID)) := by
  have hloop := @getElem?_foldl_insertIfNew δ _ _ m.detectedDevices devID _ (·.devID) id
    (found.filter fun det => m.drivers.any (·.driverID = det.driverID))
  rw [Option.map_id] at hloop
  exact hloop

lemma supported_searchSupportedDevices (h : m.OneDriver driver) (hsupported : m.Supported driver)
    (found : List (USBDeviceID δ)) : (m.searchSupportedDevices found).Supported driver := by
  intro devID det hdet
  rw [getElem?_searchSupportedDevices] at hdet
  rcases Option.or_eq_some_iff.mp hdet with hold | ⟨-, hfind⟩
  · exact hsupported devID det hold
  · obtain ⟨-, hloaded⟩ := List.mem_filter.mp (List.mem_of_find?_eq_some hfind)
    refine ⟨by simpa using List.find?_some hfind, ?_⟩
    simpa [h.drivers, eq_comm] using hloaded

theorem OneDriver.initializeDevices_eq (h : m.OneDriver driver) (hsupported : m.Supported driver)
    (openDevices : Bool) (opens : δ → OpenResult) :
    let r := m.detectedDevices.toList.foldl (initializeDetected openDevices opens) (m, [])
    Acts (fun devID v => m.detectedDevices[devID]?.elim v fun det =>
        v.detect openDevices det (opens devID)) m r.1 ∧
      ∀ devID, devID ∈ r.2 ↔ m.detectedDevices[devID]?.isSome ∧ (m.view devID).isFree ∧
        (openDevices → opens devID = .opened) := by
  have hloop : LoopBody driver.driverID Prod.fst Prod.snd Prod.fst
      (fun det v => v.detect openDevices det.2 (opens det.1))
      (fun det v => v.isFree && (!openDevices || decide (opens det.1 = .opened)))
      (initializeDetected openDevices opens) m.detectedDevices.toList := by
    constructor
    · rintro r ⟨devID, det⟩ hdet driver' hr hdriverID
      obtain ⟨hid, hdetID⟩ := hsupported devID det
        (Std.ExtTreeMap.mem_toList_iff_getElem?_eq_some.mp hdet)
      subst hid
      exact (acts_initializeDetected openDevices opens hr (hdetID.trans hdriverID.symm)).1
    · rintro r ⟨devID, det⟩ hdet driver' hr hdriverID
      obtain ⟨hid, hdetID⟩ := hsupported devID det
        (Std.ExtTreeMap.mem_toList_iff_getElem?_eq_some.mp hdet)
      subst hid
      exact (acts_initializeDetected openDevices opens hr (hdetID.trans hdriverID.symm)).2
  obtain ⟨hacts, hsends⟩ := hloop.foldl (nodup_toList _) (t := (m, [])) h rfl
  constructor
  · refine hacts.congr fun devID => ?_
    simp only [loopAct, find?_toList]
    cases m.detectedDevices[devID]? <;> rfl
  · intro devID
    rw [hsends]
    simp only [List.nil_append, List.mem_map, List.mem_filter, Prod.exists, exists_and_right,
      exists_eq_right, Std.ExtTreeMap.mem_toList_iff_getElem?_eq_some, Bool.and_eq_true,
      Bool.or_eq_true, Bool.not_eq_true', decide_eq_true_eq, Option.isSome_iff_exists]
    cases openDevices <;> simp

/-- The devices that a hotplug has found are filed. -/
theorem OneDriver.acts_initializeDevices (h : m.OneDriver driver) (hsupported : m.Supported driver)
    (openDevices : Bool) (opens : δ → OpenResult) :
    Acts (fun devID v => m.detectedDevices[devID]?.elim v fun det =>
        v.detect openDevices det (opens devID))
      { m with detectedDevices := ∅ } (m.initializeDevices openDevices opens) := by
  have hacts := (h.initializeDevices_eq hsupported openDevices opens).1
  exact (hacts.sendStatus _ (by cases openDevices <;> exact fun _ => rfl)).setDetected ∅

/-! ### Unplugged devices -/

lemma OneDriver.acts_unplugStarted {r : DevicesManager δ × List δ} (h : r.1.OneDriver driver)
    (devID : δ) :
    Acts (actOn (· = devID) fun _ v => if v.started.isSome then v.unplug else v) r.1
        (unplugStarted r devID).1 ∧
      (unplugStarted r devID).2 =
        if (r.1.view devID).started.isSome then r.2 ++ [devID] else r.2 := by
  rw [unplugStarted]
  cases hdet : r.1.startedDevices[devID]? with
  | none =>
    have hstarted : (r.1.view devID).started = none := hdet
    rw [stopDevice_of_not_started hdet]
    refine ⟨h.acts_refl.congr fun id => ?_, by simp [hstarted]⟩
    by_cases hid : id = devID
    · simp [actOn, hid, hstarted]
    · simp [actOn, hid]
  | some det =>
    have hstarted : (r.1.view devID).started = some det := hdet
    obtain ⟨hid, hdriverID⟩ := h.started _ _ hdet
    have hstop := h.acts_stopDevice devID
    rw [h.stopDevice_eq hdet] at hstop ⊢
    obtain ⟨driver', h'⟩ := hstop.oneDriver
    simp only [Std.ExtTreeMap.getElem?_insert_self, hstarted, Option.isSome_some, if_true, and_true]
    have hmoved := h'.setContainers (getElem?_self_eq _ devID) (getElem?_erase_eq _ devID)
      (getElem?_insert_eq _ devID · det) (fun det' => h'.started devID det') (fun _ hnone => by
        cases hnone)
    refine (hstop.trans hmoved).congr fun id => ?_
    by_cases hid : id = devID
    · subst hid
      simp [actOn, DeviceView.unplug, DeviceView.unplugStopped, DeviceView.stop, hstarted]
    · simp [actOn, hid]

lemma OneDriver.acts_unplugStopped {r : DevicesManager δ × List δ} (h : r.1.OneDriver driver)
    (devID : δ) :
    Acts (actOn (· = devID) fun _ v => v.unplugStopped) r.1 (unplugStopped r devID).1 ∧
      (unplugStopped r devID).2 =
        if (r.1.view devID).stopped.isSome then r.2 ++ [devID] else r.2 := by
  rw [unplugStopped]
  cases hdet : r.1.stoppedDevices[devID]? with
  | none =>
    have hstopped : (r.1.view devID).stopped = none := hdet
    refine ⟨h.acts_refl.congr fun id => ?_, by simp [hstopped]⟩
    by_cases hid : id = devID
    · simp [actOn, hid, DeviceView.unplugStopped_of_not_stopped hstopped]
    · simp [actOn, hid]
  | some det =>
    have hstopped : (r.1.view devID).stopped = some det := hdet
    simp only [hstopped, Option.isSome_some, if_true, and_true]
    have hmoved := h.setContainers (getElem?_self_eq _ devID) (getElem?_erase_eq _ devID)
      (getElem?_insert_eq _ devID · det) (fun det' => h.started devID det') (fun _ hnone => by
        cases hnone)
    refine hmoved.congr fun id => ?_
    by_cases hid : id = devID
    · subst hid
      simp only [actOn, if_true, DeviceView.unplugStopped, hstopped]
      rfl
    · simp [actOn, hid]

/-- Both loops of `checkForUnpluggedDevices`. -/
lemma OneDriver.unplug_eq (h : m.OneDriver driver) :
    let gone := fun devID => !m.detectedDevices.contains devID
    let r := (m.startedDevices.keys.filter gone).foldl unplugStarted (m, [])
    let gone' := fun devID => !r.1.detectedDevices.contains devID
    let r' := (r.1.stoppedDevices.keys.filter gone').foldl DevicesManager.unplugStopped r
    Acts (actOn (fun devID => m.detectedDevices[devID]? = none) fun _ v => v.unplug) m r'.1 ∧
      ∀ devID, devID ∈ r'.2 ↔ m.detectedDevices[devID]? = none ∧ ¬ (m.view devID).isFree := by
  intro gone r gone' r'
  have hgone : ∀ devID, gone devID ↔ m.detectedDevices[devID]? = none := fun devID => by
    simp only [gone, Std.ExtTreeMap.contains_eq_isSome_getElem?, Bool.not_eq_true',
      Option.isSome_eq_false_iff, Option.isNone_iff_eq_none]
  have hstarted : LoopBody driver.driverID Prod.fst Prod.snd id
      (fun _ v => if v.started.isSome then v.unplug else v) (fun _ v => v.started.isSome)
      (unplugStarted (δ := δ)) (m.startedDevices.keys.filter gone) :=
    ⟨fun r devID _ driver hr _ => (hr.acts_unplugStarted devID).1,
      fun r devID _ driver hr _ => (hr.acts_unplugStarted devID).2⟩
  obtain ⟨hacts, hsends⟩ := hstarted.foldl
    (by simpa using m.startedDevices.nodup_keys.filter gone) (t := (m, [])) h rfl
  have hgone' : ∀ devID, gone' devID = gone devID := fun devID => by
    simp only [gone', gone, r, hacts.detected]
  obtain ⟨driver', h'⟩ := hacts.oneDriver
  have hstopped : LoopBody driver'.driverID Prod.fst Prod.snd id (fun _ v => v.unplugStopped)
      (fun _ v => v.stopped.isSome) (unplugStopped (δ := δ)) (r.1.stoppedDevices.keys.filter gone') :=
    ⟨fun r devID _ driver hr _ => (hr.acts_unplugStopped devID).1,
      fun r devID _ driver hr _ => (hr.acts_unplugStopped devID).2⟩
  obtain ⟨hacts', hsends'⟩ := hstopped.foldl
    (by simpa using r.1.stoppedDevices.nodup_keys.filter gone') (t := r) h' rfl
  -- what the first loop leaves to the second
  have hview : ∀ devID, r.1.view devID =
      if (m.view devID).started.isSome ∧ gone devID then (m.view devID).unplug
      else m.view devID := fun devID => by
    rw [hacts.view, loopAct_id]
    simp only [actOn, List.mem_filter, mem_startedDevices]
    split_ifs with hmem hsome
    · rfl
    · exact absurd hmem.1 hsome
    · rfl
  have hnone : ∀ devID, ((m.view devID).unplug).stopped = none := fun devID => by
    rw [DeviceView.unplug, DeviceView.unplugStopped]
    split <;> simp_all
  constructor
  · refine (hacts.trans hacts').congr fun devID => ?_
    have hfirst := hacts.view devID
    rw [← hfirst, loopAct_id]
    simp only [actOn, List.mem_filter, mem_stoppedDevices, hgone', ← hgone]
    rw [hview]
    by_cases hg : gone devID
    · by_cases hs : (m.view devID).started.isSome
      · simp [hg, hs, hnone]
      · have hstop := DeviceView.stop_of_not_started (Option.not_isSome_iff_eq_none.mp hs)
        cases ht : (m.view devID).stopped with
        | none =>
          simp [hg, hs, ht, DeviceView.unplug, hstop, DeviceView.unplugStopped_of_not_stopped ht]
        | some det => simp [hg, hs, ht, DeviceView.unplug, hstop]
    · simp [hg]
  · intro devID
    rw [hsends', hsends]
    simp only [List.nil_append, List.map_id, List.mem_append, List.mem_filter, mem_startedDevices,
      mem_stoppedDevices, hgone', id_eq, ← hgone, DeviceView.isFree]
    rw [hview]
    by_cases hg : gone devID
    · cases hs : (m.view devID).started with
      | none => simp [hg, Option.isSome_iff_ne_none]
      | some det => simp [hg, hnone]
    · simp [hg]

/-- Devices that are not detected any more are unplugged. -/
theorem OneDriver.acts_checkForUnpluggedDevices (h : m.OneDriver driver) :
    Acts (actOn (fun devID => m.detectedDevices[devID]? = none) fun _ v => v.unplug)
      { m with detectedDevices := ∅ } m.checkForUnpluggedDevices :=
  (h.unplug_eq.1.setDetected ∅).sendStatus _ fun _ => rfl

/-! ### Hard stops -/

/-- The loop of `checkInitializedDevicesThreadsStatus`, in which no `at` throws. -/
def checkThreadsBody (r : DevicesManager δ × List δ) (devID : δ) : DevicesManager δ × List δ :=
  if (r.1.view devID).threadsEnded then ((r.1.stopDevice devID).1, r.2 ++ [devID]) else r

lemma OneDriver.checkThreadsOfDevice_eq {r : DevicesManager δ × List δ} (h : r.1.OneDriver driver)
    {det : USBDeviceID δ} (hdet : r.1.startedDevices[devID]? = some det) :
    checkThreadsOfDevice r devID = some (checkThreadsBody r devID) := by
  obtain ⟨hid, hdriverID⟩ := h.started _ _ hdet
  have hstatus : (r.1.view devID).threadsEnded = !driver.getDeviceThreadsStatus devID := by
    have hstarted : (r.1.view devID).started = some det := hdet
    simp only [DeviceView.threadsEnded, hstarted, h.view_held, KeyboardDriver.getDeviceThreadsStatus]
    cases driver.initializedDevices[devID]? <;> rfl
  simp only [checkThreadsOfDevice, h.drivers, List.length_singleton, List.range_one,
    List.foldlM_cons, List.foldlM_nil, checkThreadsOfDriver, hdet, List.getElem?_cons_zero,
    hdriverID, true_and, checkThreadsBody, hstatus]
  cases driver.getDeviceThreadsStatus devID <;> rfl

lemma OneDriver.acts_checkThreadsBody {r : DevicesManager δ × List δ} (h : r.1.OneDriver driver)
    (devID : δ) :
    Acts (actOn (· = devID) fun _ v => v.checkThreads) r.1 (checkThreadsBody r devID).1 := by
  rw [checkThreadsBody]
  split_ifs with hended
  · refine (h.acts_stopDevice devID).congr fun id => ?_
    by_cases hid : id = devID
    · subst hid
      simp [actOn, DeviceView.checkThreads, hended]
    · simp [actOn, hid]
  · refine h.acts_refl.congr fun id => ?_
    by_cases hid : id = devID
    · subst hid
      simp [actOn, DeviceView.checkThreads, hended]
    · simp [actOn, hid]

lemma OneDriver.foldlM_checkThreadsOfDevice {r : DevicesManager δ × List δ} {devIDs : List δ}
    (h : r.1.OneDriver driver) (hnodup : devIDs.Nodup)
    (hstarted : ∀ devID ∈ devIDs, (r.1.view devID).started.isSome) :
    devIDs.foldlM checkThreadsOfDevice r = some (devIDs.foldl checkThreadsBody r) := by
  induction devIDs generalizing r driver with
  | nil => rfl
  | cons devID devIDs ih =>
    rw [List.nodup_cons] at hnodup
    obtain ⟨det, hdet⟩ := Option.isSome_iff_exists.mp (hstarted devID List.mem_cons_self)
    have hacts := h.acts_checkThreadsBody devID
    obtain ⟨driver', h'⟩ := hacts.oneDriver
    rw [List.foldlM_cons, h.checkThreadsOfDevice_eq hdet]
    refine ih h' hnodup.2 fun id hid => ?_
    -- the devices that follow are still started
    have hne : id ≠ devID := ne_of_mem_of_not_mem hid hnodup.1
    rw [hacts.view, actOn, if_neg hne]
    exact hstarted id (List.mem_cons_of_mem _ hid)

lemma OneDriver.checkThreads_eq (h : m.OneDriver driver) :
    let r := m.startedDevices.keys.foldl checkThreadsBody (m, [])
    m.checkInitializedDevicesThreadsStatus = some (if r.2 = [] then r.1
      else r.1.send (sendStatusSignalArrayToClients r.1.numClients (.devicesStopped r.2))) ∧
      Acts (fun _ v => v.checkThreads) m r.1 ∧
      ∀ devID, devID ∈ r.2 ↔ (m.view devID).threadsEnded := by
  have hloop : LoopBody driver.driverID Prod.fst Prod.snd id (fun _ v => v.checkThreads)
      (fun _ v => v.threadsEnded) (checkThreadsBody (δ := δ)) m.startedDevices.keys :=
    ⟨fun r devID _ driver hr _ => hr.acts_checkThreadsBody devID, fun r devID _ driver hr _ => by
      simp only [checkThreadsBody, id_eq]
      split_ifs <;> rfl⟩
  obtain ⟨hacts, hsends⟩ := hloop.foldl (by simpa using m.startedDevices.nodup_keys) (t := (m, [])) h
    rfl
  refine ⟨?_, hacts.congr fun devID => ?_, fun devID => ?_⟩
  · rw [checkInitializedDevicesThreadsStatus, h.foldlM_checkThreadsOfDevice
      m.startedDevices.nodup_keys fun devID => mem_startedDevices.mp]
    rfl
  · rw [loopAct_id]
    simp only [actOn, mem_startedDevices]
    split_ifs with hstarted
    · rfl
    · simp [DeviceView.checkThreads, DeviceView.threadsEnded, hstarted]
  · rw [hsends]
    simp only [List.nil_append, List.map_id, List.mem_filter, mem_startedDevices, id_eq,
      DeviceView.threadsEnded, Bool.and_eq_true]
    tauto

/-- The daemon goes on, and has stopped the devices whose threads have ended. -/
theorem OneDriver.acts_checkInitializedDevicesThreadsStatus (h : m.OneDriver driver) :
    ∃ m', m.checkInitializedDevicesThreadsStatus = some m' ∧ Acts (fun _ v => v.checkThreads) m m' :=
  ⟨_, h.checkThreads_eq.1, h.checkThreads_eq.2.1.sendStatus _ fun _ => rfl⟩

end DevicesManager

/-! ### States of devices -/

namespace KeyboardDriver

variable {driver : KeyboardDriver δ} {devID : δ}

/-- Nothing is changed on a device that the driver does not hold. -/
lemma held_of_not_held (hdevice : driver.initializedDevices[devID]? = none)
    (op : USBDevice δ → USBDevice δ) (id : δ) :
    driver.initializedDevices[id]? =
      if id = devID then Option.map op none else driver.initializedDevices[id]? := by
  split_ifs with hid
  · rw [hid, hdevice, Option.map_none]
  · rfl

lemma resetDeviceState_held (devID id : δ) :
    (driver.resetDeviceState devID).initializedDevices[id]? =
      if id = devID then driver.initializedDevices[devID]?.map GLogiK.resetDeviceState
      else driver.initializedDevices[id]? := by
  rw [resetDeviceState]
  cases hdevice : driver.initializedDevices[devID]? with
  | none => exact held_of_not_held hdevice _ id
  | some device => exact setDevice_held _ _

lemma resetDeviceState_driverID (devID : δ) :
    (driver.resetDeviceState devID).driverID = driver.driverID := by
  rw [resetDeviceState]
  split <;> rfl

lemma setDeviceActiveConfiguration_held (devID id : δ) (c : RGBBytes) (LCDPluginsMask1 : UInt64) :
    (driver.setDeviceActiveConfiguration devID c LCDPluginsMask1).initializedDevices[id]? =
      if id = devID then driver.initializedDevices[devID]?.map
        (GLogiK.setDeviceActiveConfiguration · c LCDPluginsMask1)
      else driver.initializedDevices[id]? := by
  rw [setDeviceActiveConfiguration]
  cases hdevice : driver.initializedDevices[devID]? with
  | none => exact held_of_not_held hdevice _ id
  | some device => exact setDevice_held _ _

lemma setDeviceActiveConfiguration_driverID (devID : δ) (c : RGBBytes) (LCDPluginsMask1 : UInt64) :
    (driver.setDeviceActiveConfiguration devID c LCDPluginsMask1).driverID = driver.driverID := by
  rw [setDeviceActiveConfiguration]
  split <;> rfl

lemma runThread_held (devID id : δ) (op : USBDevice δ → USBDevice δ × List (DeviceSignal δ)) :
    (driver.runThread devID op).1.initializedDevices[id]? =
      if id = devID then driver.initializedDevices[devID]?.map (fun device => (op device).1)
      else driver.initializedDevices[id]? := by
  rw [runThread]
  cases hdevice : driver.initializedDevices[devID]? with
  | none => exact held_of_not_held hdevice _ id
  | some device => exact setDevice_held _ _

lemma runThread_driverID (devID : δ) (op : USBDevice δ → USBDevice δ × List (DeviceSignal δ)) :
    (driver.runThread devID op).1.driverID = driver.driverID := by
  rw [runThread]
  split <;> rfl

lemma runThread_signals (devID : δ) (op : USBDevice δ → USBDevice δ × List (DeviceSignal δ)) :
    (driver.runThread devID op).2 =
      driver.initializedDevices[devID]?.elim [] fun device => (op device).2 := by
  rw [runThread]
  cases driver.initializedDevices[devID]? <;> rfl

end KeyboardDriver

namespace DevicesManager

variable {m m' : DevicesManager δ} {driver : KeyboardDriver δ} {devID : δ}

/-- The driver changes a device that it holds, which keeps its ID. -/
lemma OneDriver.named_map (h : m.OneDriver driver) {f : USBDevice δ → USBDevice δ}
    (hf : ∀ device, (f device).devID = device.devID) :
    ∀ device, driver.initializedDevices[devID]?.map f = some device → device.devID = devID := by
  intro device hdevice
  obtain ⟨device', hdevice', rfl⟩ := Option.map_eq_some_iff.mp hdevice
  rw [hf]
  exact h.held _ _ hdevice'

lemma OneDriver.acts_map (h : m.OneDriver driver) {driver' : KeyboardDriver δ}
    {f : USBDevice δ → USBDevice δ}
    (hheld : ∀ id, driver'.initializedDevices[id]? =
      if id = devID then driver.initializedDevices[devID]?.map f
      else driver.initializedDevices[id]?)
    (hdriverID : driver'.driverID = driver.driverID)
    (hf : ∀ device, (f device).devID = device.devID) :
    Acts (actOn (· = devID) fun _ v => { v with held := v.held.map f }) m
      { m with drivers := [driver'] } := by
  have hacts := h.setHeld hheld hdriverID (h.named_map hf) (List.forall_mem_nil _)
  simp only [switchesOf_nil, List.append_nil, List.map_nil] at hacts
  refine hacts.congr fun id => ?_
  by_cases hid : id = devID
  · simp [actOn, hid, h.view_held]
  · simp [actOn, hid]

/-- Devices that are not started are left alone. -/
lemma OneDriver.acts_of_not_started (h : m.OneDriver driver) (hdet : m.startedDevices[devID]? = none)
    (op : USBDevice δ → USBDevice δ × List (DeviceSignal δ)) :
    Acts (actOn (· = devID) fun _ v => v.onDevice op) m m := by
  have hstarted : (m.view devID).started = none := hdet
  refine h.acts_refl.congr fun id => ?_
  by_cases hid : id = devID
  · simp [actOn, hid, DeviceView.onDevice, DeviceView.device, hstarted]
  · simp [actOn, hid]

/-- The listening thread of a started device does something. -/
theorem OneDriver.acts_runThread (h : m.OneDriver driver) (devID : δ)
    {op : USBDevice δ → USBDevice δ × List (DeviceSignal δ)}
    (hop : ∀ device, Announces device (op device)) :
    Acts (actOn (· = devID) fun _ v => v.onDevice op) m (m.runThread devID op) := by
  rw [runThread]
  cases hdet : m.startedDevices[devID]? with
  | none => exact h.acts_of_not_started hdet op
  | some det =>
    have hstarted : (m.view devID).started = some det := hdet
    obtain ⟨hid, hdriverID⟩ := h.started _ _ hdet
    have hsignals : ∀ signal ∈ (driver.runThread devID op).2, signal.devID = devID := by
      rw [KeyboardDriver.runThread_signals]
      cases hdevice : driver.initializedDevices[devID]? with
      | none => exact List.forall_mem_nil _
      | some device =>
        intro signal hsignal
        rw [(hop device).named signal hsignal, h.held _ _ hdevice]
    have hacts := h.setHeld (KeyboardDriver.runThread_held devID · op)
      (KeyboardDriver.runThread_driverID devID op)
      (h.named_map fun device => congrArg _ (hop device).id) hsignals
    simp only [h.drivers, firstDriver_singleton hdriverID]
    refine hacts.congr fun id => ?_
    by_cases hid : id = devID
    · subst hid
      simp only [actOn, if_true, DeviceView.onDevice_of_started hstarted, h.view_held,
        KeyboardDriver.runThread_signals]
      cases driver.initializedDevices[id]? <;> rfl
    · simp [actOn, hid]

/-- The parameters of a client are set on a device. -/
theorem OneDriver.acts_setDeviceActiveConfiguration (h : m.OneDriver driver) (devID : δ)
    (c : RGBBytes) (LCDPluginsMask1 : UInt64) :
    Acts (actOn (· = devID) fun _ v => v.configure c LCDPluginsMask1) m
      (m.setDeviceActiveConfiguration devID c LCDPluginsMask1) := by
  rw [setDeviceActiveConfiguration]
  cases hdet : m.startedDevices[devID]? with
  | none => exact h.acts_of_not_started hdet _
  | some det =>
    have hstarted : (m.view devID).started = some det := hdet
    obtain ⟨hid, hdriverID⟩ := h.started _ _ hdet
    have hacts := h.acts_map
      (KeyboardDriver.setDeviceActiveConfiguration_held devID · c LCDPluginsMask1)
      (KeyboardDriver.setDeviceActiveConfiguration_driverID devID c LCDPluginsMask1)
      fun device => by rw [setDeviceActiveConfiguration_eq]
    simp only [h.drivers, firstDriver_singleton hdriverID]
    refine hacts.congr fun id => ?_
    by_cases hid : id = devID
    · subst hid
      simp only [actOn, if_true, DeviceView.configure, DeviceView.onDevice_map_of_started hstarted]
    · simp [actOn, hid]

/-- The loop of `resetDevicesStates` on a started device. -/
def resetStarted (m : DevicesManager δ) (det : δ × USBDeviceID δ) : DevicesManager δ :=
  { m with drivers := m.drivers.map fun driver =>
      if det.2.driverID = driver.driverID then driver.resetDeviceState det.2.devID else driver }

lemma resetDevicesStates_eq (m : DevicesManager δ) :
    m.resetDevicesStates = m.startedDevices.toList.foldl resetStarted m := by
  have hfold : ∀ (dets : List (δ × USBDeviceID δ)) (m : DevicesManager δ),
      { m with drivers := (dets.foldl (fun drivers det => drivers.map fun driver =>
          if det.2.driverID = driver.driverID then driver.resetDeviceState det.2.devID else driver)
          m.drivers) } = dets.foldl resetStarted m := by
    intro dets
    induction dets with
    | nil => exact fun _ => rfl
    | cons det dets ih => exact fun m => ih (resetStarted m det)
  exact hfold _ m

/-- Every started device is reset. -/
theorem OneDriver.acts_resetDevicesStates (h : m.OneDriver driver) :
    Acts (fun _ v => v.reset) m m.resetDevicesStates := by
  have hloop : LoopBody driver.driverID id (fun _ : DevicesManager δ => []) Prod.fst
      (fun _ v => { v with held := v.held.map GLogiK.resetDeviceState }) (fun _ _ => false)
      resetStarted m.startedDevices.toList := by
    refine ⟨?_, fun _ _ _ _ _ _ => by simp⟩
    rintro m' ⟨devID, det⟩ hdet driver' (hm' : m'.OneDriver driver') hdriverID
    obtain ⟨hid, hdetID⟩ := h.started devID det
      (Std.ExtTreeMap.mem_toList_iff_getElem?_eq_some.mp hdet)
    have hacts := hm'.acts_map (KeyboardDriver.resetDeviceState_held det.devID)
      (KeyboardDriver.resetDeviceState_driverID det.devID)
      fun device => by rw [resetDeviceState_eq]
    subst hid
    simpa [resetStarted, hm'.drivers, hdetID, hdriverID] using hacts
  rw [resetDevicesStates_eq]
  refine ((hloop.foldl (nodup_toList _) h rfl).1).congr fun devID => ?_
  simp only [loopAct, find?_toList]
  cases hdet : m.startedDevices[devID]? with
  | none =>
    have hstarted : (m.view devID).started = none := hdet
    simp [DeviceView.reset, DeviceView.onDevice, DeviceView.device, hstarted]
  | some det =>
    have hstarted : (m.view devID).started = some det := hdet
    simp [DeviceView.reset, DeviceView.onDevice_map_of_started hstarted]

end DevicesManager

end GLogiK
