import GLogiK.Daemon.View

/-!
# The devices manager is a family of views

With the one driver that `startMonitoring` loads, every operation of the devices manager acts on
the view of each device as the operations of `DeviceView` do, and sends signals in addition to the
ones it has sent.
-/

namespace GLogiK

variable {δ : Type*} [LinearOrder δ]

/-! ### The view of a device -/

/-- The bank that a signal switches the device to. -/
def BusSignal.switchOf (devID : δ) : BusSignal δ → Option MKeysID
  | .device (.deviceMBankSwitch id bankID) => if id = devID then some bankID else none
  | _                                      => none

def DevicesManager.view (m : DevicesManager δ) (devID : δ) : DeviceView δ where
  started := m.startedDevices[devID]?
  stopped := m.stoppedDevices[devID]?
  unplugged := m.unpluggedDevices[devID]?
  held := m.drivers.head?.bind (·.initializedDevices[devID]?)
  switches := m.sent.filterMap (BusSignal.switchOf devID)

lemma filterMap_switchOf {signals : List (DeviceSignal δ)} {devID : δ}
    (hnamed : ∀ signal ∈ signals, signal.devID = devID) (id : δ) :
    signals.filterMap (fun signal => BusSignal.switchOf id (.device signal)) =
      if id = devID then switchesOf signals else [] := by
  split_ifs with hid
  · refine List.filterMap_congr fun signal hsignal => ?_
    have hsignal := hnamed signal hsignal
    cases signal with
    | deviceMBankSwitch id' bankID =>
      rw [DeviceSignal.devID, ← hid] at hsignal
      simp [BusSignal.switchOf, hsignal]
    | _ => rfl
  · refine List.filterMap_eq_nil_iff.mpr fun signal hsignal => ?_
    have hsignal := hnamed signal hsignal
    cases signal with
    | deviceMBankSwitch id' bankID =>
      rw [DeviceSignal.devID] at hsignal
      simp [BusSignal.switchOf, hsignal, Ne.symm hid]
    | _ => rfl

namespace DevicesManager

/-- The manager has one driver, and devices are filed under their own ID. -/
structure OneDriver (m : DevicesManager δ) (driver : KeyboardDriver δ) : Prop where
  drivers : m.drivers = [driver]
  started : ∀ devID (det : USBDeviceID δ), m.startedDevices[devID]? = some det →
    det.devID = devID ∧ det.driverID = driver.driverID
  stopped : ∀ devID (det : USBDeviceID δ), m.stoppedDevices[devID]? = some det →
    det.devID = devID ∧ det.driverID = driver.driverID
  held : ∀ devID (device : USBDevice δ), driver.initializedDevices[devID]? = some device →
    device.devID = devID

/-- From `m` to `m'` each view changes as `act` says. -/
structure Acts (act : δ → DeviceView δ → DeviceView δ) (m m' : DevicesManager δ) : Prop where
  oneDriver : ∃ driver, m'.OneDriver driver
  driverIDs : m'.drivers.map (·.driverID) = m.drivers.map (·.driverID)
  view : ∀ devID, m'.view devID = act devID (m.view devID)
  detected : m'.detectedDevices = m.detectedDevices
  sleeping : m'.sleepingDevices = m.sleepingDevices
  numClients : m'.numClients = m.numClients
  sent : m.sent <+: m'.sent

/-- The operation acts on the views of some devices only. -/
def actOn (p : δ → Prop) [DecidablePred p] (act : δ → DeviceView δ → DeviceView δ) (devID : δ)
    (v : DeviceView δ) : DeviceView δ :=
  if p devID then act devID v else v

variable {m m' : DevicesManager δ} {driver : KeyboardDriver δ} {devID : δ} {det : USBDeviceID δ}

lemma OneDriver.view_held (h : m.OneDriver driver) (devID : δ) :
    (m.view devID).held = driver.initializedDevices[devID]? := by
  simp [view, h.drivers]

lemma OneDriver.acts_refl (h : m.OneDriver driver) : Acts (fun _ v => v) m m :=
  ⟨⟨driver, h⟩, rfl, fun _ => rfl, rfl, rfl, rfl, List.prefix_refl _⟩

lemma Acts.driverID {act : δ → DeviceView δ → DeviceView δ} {driver' : KeyboardDriver δ}
    (h : Acts act m m') (hm : m.OneDriver driver) (hm' : m'.OneDriver driver') :
    driver'.driverID = driver.driverID := by
  simpa [hm.drivers, hm'.drivers] using h.driverIDs

lemma Acts.trans {act act' : δ → DeviceView δ → DeviceView δ} {m'' : DevicesManager δ}
    (h : Acts act m m') (h' : Acts act' m' m'') :
    Acts (fun devID v => act' devID (act devID v)) m m'' :=
  ⟨h'.oneDriver, h'.driverIDs.trans h.driverIDs, fun devID => by rw [h'.view, h.view],
    h'.detected.trans h.detected, h'.sleeping.trans h.sleeping,
    h'.numClients.trans h.numClients, h.sent.trans h'.sent⟩

lemma Acts.congr {act act' : δ → DeviceView δ → DeviceView δ} (h : Acts act m m')
    (hact : ∀ devID, act devID (m.view devID) = act' devID (m.view devID)) : Acts act' m m' :=
  ⟨h.oneDriver, h.driverIDs, fun devID => by rw [h.view, hact], h.detected, h.sleeping,
    h.numClients, h.sent⟩

/-! ### Loops -/

/-- The body of a loop over devices. On each item it acts on the view of the device `key` of the
item, and notes the device if `sends` says so. -/
structure LoopBody {ι τ : Type*} (driverID : UInt16) (manager : τ → DevicesManager δ)
    (toSend : τ → List δ) (key : ι → δ) (act : ι → DeviceView δ → DeviceView δ)
    (sends : ι → DeviceView δ → Bool) (body : τ → ι → τ) (items : List ι) : Prop where
  acts : ∀ t, ∀ i ∈ items, ∀ driver, (manager t).OneDriver driver → driver.driverID = driverID →
    Acts (actOn (· = key i) fun _ => act i) (manager t) (manager (body t i))
  toSend : ∀ t, ∀ i ∈ items, ∀ driver, (manager t).OneDriver driver → driver.driverID = driverID →
    toSend (body t i) =
      if sends i ((manager t).view (key i)) then toSend t ++ [key i] else toSend t

/-- What the loop does to a view. -/
def loopAct {ι : Type*} (key : ι → δ) (act : ι → DeviceView δ → DeviceView δ) (items : List ι)
    (devID : δ) (v : DeviceView δ) : DeviceView δ :=
  match items.find? (key · = devID) with
  | none => v
  | some i => act i v

/-- A loop that meets each device once acts on each view once, and notes each device in the state
in which the loop found it. -/
theorem LoopBody.foldl {ι τ : Type*} {driverID : UInt16} {manager : τ → DevicesManager δ}
    {toSend : τ → List δ} {key : ι → δ} {act : ι → DeviceView δ → DeviceView δ}
    {sends : ι → DeviceView δ → Bool} {body : τ → ι → τ} {items : List ι}
    (hbody : LoopBody driverID manager toSend key act sends body items)
    (hnodup : (items.map key).Nodup) {t : τ} (h : (manager t).OneDriver driver)
    (hdriverID : driver.driverID = driverID) :
    Acts (loopAct key act items) (manager t) (manager (items.foldl body t)) ∧
      toSend (items.foldl body t) =
        toSend t ++ (items.filter fun i => sends i ((manager t).view (key i))).map key := by
  induction items generalizing t driver with
  | nil => exact ⟨h.acts_refl.congr fun _ => rfl, by simp⟩
  | cons i items ih =>
    rw [List.map_cons, List.nodup_cons] at hnodup
    obtain ⟨hnotMem, hnodup⟩ := hnodup
    have hhead := hbody.acts t i List.mem_cons_self driver h hdriverID
    have hsend := hbody.toSend t i List.mem_cons_self driver h hdriverID
    obtain ⟨driver', h'⟩ := hhead.oneDriver
    obtain ⟨htail, hsends⟩ := ih
      ⟨fun t j hj => hbody.acts t j (List.mem_cons_of_mem _ hj),
        fun t j hj => hbody.toSend t j (List.mem_cons_of_mem _ hj)⟩
      hnodup h' ((hhead.driverID h h').trans hdriverID)
    -- the items that follow are about other devices
    have hother : ∀ j ∈ items, key j ≠ key i := fun j hj heq =>
      hnotMem (heq ▸ List.mem_map_of_mem hj)
    constructor
    · refine (hhead.trans htail).congr fun id => ?_
      by_cases hid : id = key i
      · have hnone : items.find? (key · = id) = none := by
          rw [List.find?_eq_none]
          exact fun j hj => by simpa [hid] using hother j hj
        simp [loopAct, actOn, hid ▸ hnone, hid]
      · simp [loopAct, actOn, hid, Ne.symm hid]
    · have hview : ∀ j ∈ items,
          sends j ((manager (body t i)).view (key j)) = sends j ((manager t).view (key j)) :=
        fun j hj => by rw [hhead.view, actOn, if_neg (hother j hj)]
      rw [List.foldl_cons, hsends, hsend, List.filter_congr hview, List.filter_cons]
      split_ifs <;> simp

/-! ### The driver -/

end DevicesManager

namespace KeyboardDriver

variable {driver : KeyboardDriver δ} {det : USBDeviceID δ} {devID : δ}

lemma setDevice_held (device : USBDevice δ) (id : δ) :
    (driver.setDevice devID device).initializedDevices[id]? =
      if id = devID then some device else driver.initializedDevices[id]? :=
  getElem?_insert_eq _ _ _ _

lemma initializeDevice_held (det : USBDeviceID δ) (id : δ) :
    (driver.initializeDevice det).initializedDevices[id]? =
      if id = det.devID then
        some (driver.initializedDevices[det.devID]?.getD (newUSBDevice det))
      else driver.initializedDevices[id]? := by
  rw [initializeDevice]
  cases hdevice : driver.initializedDevices[det.devID]? with
  | none =>
    simp [Std.ExtTreeMap.contains_eq_isSome_getElem?, hdevice, setDevice_held]
  | some device =>
    simp only [Std.ExtTreeMap.contains_eq_isSome_getElem?, hdevice, Option.isSome_some, if_true,
      Option.getD_some]
    split_ifs with hid
    · rw [hid, hdevice]
    · rfl

lemma closeDevice_held (det : USBDeviceID δ) (id : δ) :
    (driver.closeDevice det).1.initializedDevices[id]? =
      if id = det.devID then none else driver.initializedDevices[id]? := by
  rw [closeDevice]
  cases hdevice : driver.initializedDevices[det.devID]? with
  | none =>
    split_ifs with hid
    · rw [hid, hdevice]
    · rfl
  | some device => exact getElem?_erase_eq _ _ _

lemma closeDevice_signals (det : USBDeviceID δ) :
    (driver.closeDevice det).2 =
      driver.initializedDevices[det.devID]?.elim [] fun device => (joinDeviceThreads device).2 := by
  rw [closeDevice]
  cases driver.initializedDevices[det.devID]? <;> rfl

lemma closeDevice_driverID (det : USBDeviceID δ) :
    (driver.closeDevice det).1.driverID = driver.driverID := by
  rw [closeDevice]
  split <;> rfl

/-- Opening an initialized device: what becomes of it, and what is broadcast. -/
lemma openDevice_held {device : USBDevice δ}
    (hdevice : driver.initializedDevices[det.devID]? = some device) (result : OpenResult) :
    (∀ id, (driver.openDevice det result).1.initializedDevices[id]? =
      if id = det.devID then (opening device result).1 else driver.initializedDevices[id]?) ∧
      (driver.openDevice det result).1.driverID = driver.driverID ∧
      (driver.openDevice det result).2 = ((opening device result).2, decide (result = .opened)) := by
  rw [openDevice]
  rw [hdevice]
  cases result with
  | opened => exact ⟨fun id => setDevice_held _ _, rfl, rfl⟩
  | openFails =>
    refine ⟨fun id => ?_, rfl, rfl⟩
    split_ifs with hid
    · rw [hid]
      exact hdevice
    · rfl
  | initFails => exact ⟨fun id => setDevice_held _ _, rfl, rfl⟩
  | spawnFails =>
    refine ⟨fun id => ?_, closeDevice_driverID _, ?_⟩
    · simp only [closeDevice_held, setDevice_held]
      split_ifs <;> rfl
    · simp [closeDevice_signals, setDevice_held, opening]

lemma initializeDevice_driverID (det : USBDeviceID δ) :
    (driver.initializeDevice det).driverID = driver.driverID := by
  rw [initializeDevice]
  split_ifs <;> rfl

end KeyboardDriver

namespace DevicesManager

variable {m : DevicesManager δ} {driver : KeyboardDriver δ} {devID : δ} {det : USBDeviceID δ}

lemma firstDriver_singleton {ρ : Type*} {op : KeyboardDriver δ → KeyboardDriver δ × ρ}
    (h : det.driverID = driver.driverID) :
    firstDriver det.driverID op [driver] = some ([(op driver).1], (op driver).2) := by
  simp [firstDriver, h]

/-! ### Changes of one device -/

/-- The manager after the driver has changed what it holds of one device, with signals about that
device. -/
lemma OneDriver.setHeld (h : m.OneDriver driver) {driver' : KeyboardDriver δ}
    {held : Option (USBDevice δ)} {signals : List (DeviceSignal δ)}
    (hheld : ∀ id, driver'.initializedDevices[id]? =
      if id = devID then held else driver.initializedDevices[id]?)
    (hdriverID : driver'.driverID = driver.driverID)
    (hnamed : ∀ device, held = some device → device.devID = devID)
    (hsignals : ∀ signal ∈ signals, signal.devID = devID) :
    Acts (actOn (· = devID) fun _ v =>
        { v with held := held, switches := v.switches ++ switchesOf signals }) m
      { m with drivers := [driver'], sent := m.sent ++ signals.map .device } := by
  refine ⟨⟨driver', rfl, ?_, ?_, fun id device hdevice => ?_⟩, by simp [h.drivers, hdriverID],
    fun id => ?_, rfl, rfl, rfl, List.prefix_append _ _⟩
  · rw [hdriverID]
    exact h.started
  · rw [hdriverID]
    exact h.stopped
  · rw [hheld] at hdevice
    split_ifs at hdevice with hid
    · rw [hid]
      exact hnamed device hdevice
    · exact h.held id device hdevice
  · have hsent := filterMap_switchOf hsignals id
    rw [actOn]
    split_ifs with hid
    · subst hid
      rw [if_pos rfl] at hsent
      simp [view, hheld, hsent]
    · rw [if_neg hid] at hsent
      simp [view, hheld, hid, h.drivers, hsent]

/-- The manager after one device has moved between the containers. -/
lemma OneDriver.setContainers (h : m.OneDriver driver) {s t u : StdMap δ (USBDeviceID δ)}
    {x y z : Option (USBDeviceID δ)}
    (hs : ∀ id, s[id]? = if id = devID then x else m.startedDevices[id]?)
    (ht : ∀ id, t[id]? = if id = devID then y else m.stoppedDevices[id]?)
    (hu : ∀ id, u[id]? = if id = devID then z else m.unpluggedDevices[id]?)
    (hx : ∀ det, x = some det → det.devID = devID ∧ det.driverID = driver.driverID)
    (hy : ∀ det, y = some det → det.devID = devID ∧ det.driverID = driver.driverID) :
    Acts (actOn (· = devID) fun _ v => { v with started := x, stopped := y, unplugged := z }) m
      { m with startedDevices := s, stoppedDevices := t, unpluggedDevices := u } := by
  refine ⟨⟨driver, h.drivers, fun id det hdet => ?_, fun id det hdet => ?_, h.held⟩, rfl,
    fun id => ?_, rfl, rfl, rfl, List.prefix_refl _⟩
  · rw [hs] at hdet
    split_ifs at hdet with hid
    · rw [hid]
      exact hx det hdet
    · exact h.started id det hdet
  · rw [ht] at hdet
    split_ifs at hdet with hid
    · rw [hid]
      exact hy det hdet
    · exact h.stopped id det hdet
  · rw [actOn]
    split_ifs with hid
    · simp [view, hs, ht, hu, hid]
    · simp [view, hs, ht, hu, hid]

/-- Nothing changes where the map already is as it will be. -/
lemma getElem?_self_eq (map : StdMap δ (USBDeviceID δ)) (devID id : δ) :
    map[id]? = if id = devID then map[devID]? else map[id]? := by
  split_ifs with hid
  · rw [hid]
  · rfl

/-! ### Stopping a device -/

lemma OneDriver.named_closeDevice (h : m.OneDriver driver) (det : USBDeviceID δ) :
    ∀ signal ∈ (driver.closeDevice det).2, signal.devID = det.devID := by
  rw [KeyboardDriver.closeDevice_signals]
  cases hdevice : driver.initializedDevices[det.devID]? with
  | none => simp
  | some device =>
    intro signal hsignal
    rw [(KeyboardDriver.announces_joinDeviceThreads device).named signal hsignal,
      h.held _ _ hdevice]

lemma stopDevice_of_not_started (hdet : m.startedDevices[devID]? = none) :
    m.stopDevice devID = (m, false) := by
  simp [stopDevice, hdet]

lemma OneDriver.stopDevice_eq (h : m.OneDriver driver) (hdet : m.startedDevices[devID]? = some det) :
    m.stopDevice devID =
      ({ m with
          drivers := [(driver.closeDevice det).1]
          sent := m.sent ++ (driver.closeDevice det).2.map .device
          stoppedDevices := m.stoppedDevices.insert devID det
          startedDevices := m.startedDevices.erase devID }, true) := by
  simp only [stopDevice, hdet, closeWithDriver, h.drivers,
    firstDriver_singleton (h.started _ _ hdet).2]
  rfl

theorem OneDriver.acts_stopDevice (h : m.OneDriver driver) (devID : δ) :
    Acts (actOn (· = devID) fun _ v => v.stop) m (m.stopDevice devID).1 := by
  cases hdet : m.startedDevices[devID]? with
  | none =>
    rw [stopDevice_of_not_started hdet]
    refine h.acts_refl.congr fun id => ?_
    rw [actOn]
    split_ifs with hid
    · simp [DeviceView.stop, view, hid, hdet]
    · rfl
  | some det =>
    obtain ⟨hid, hdriverID⟩ := h.started _ _ hdet
    subst hid
    rw [h.stopDevice_eq hdet]
    have hclosed := h.setHeld (KeyboardDriver.closeDevice_held det)
      (KeyboardDriver.closeDevice_driverID det) (fun _ hnone => by cases hnone)
      (h.named_closeDevice det)
    obtain ⟨driver', h'⟩ := hclosed.oneDriver
    have hdriver : driver' = (driver.closeDevice det).1 := by simpa using h'.drivers.symm
    have hmoved := h'.setContainers (getElem?_erase_eq _ det.devID)
      (getElem?_insert_eq _ det.devID · det) (getElem?_self_eq m.unpluggedDevices det.devID)
      (fun _ hnone => by cases hnone)
      fun det' hdet' => by
        cases hdet'
        exact ⟨rfl, by rw [hdriver, KeyboardDriver.closeDevice_driverID, hdriverID]⟩
    refine (hclosed.trans hmoved).congr fun id => ?_
    simp only [actOn]
    split_ifs with heq
    · subst heq
      cases hdevice : driver.initializedDevices[det.devID]? <;>
        simp [view, DeviceView.stop, DeviceView.close, hdet, h.drivers, hdevice,
          KeyboardDriver.closeDevice_signals]
    · rfl

/-! ### Initializing and opening a device -/

lemma OneDriver.named_getD (h : m.OneDriver driver) (det : USBDeviceID δ) :
    (driver.initializedDevices[det.devID]?.getD (newUSBDevice det)).devID = det.devID := by
  cases hdevice : driver.initializedDevices[det.devID]? with
  | none => rfl
  | some device => exact h.held _ _ hdevice

/-- What `initializeWithDriver` does when it opens the device. -/
lemma OneDriver.acts_initAndOpen (h : m.OneDriver driver) (hdriverID : det.driverID = driver.driverID)
    (result : OpenResult) :
    ∃ m' driver', m.initializeWithDriver det true result = some (m', decide (result = .opened)) ∧
      m'.OneDriver driver' ∧ driver'.driverID = driver.driverID ∧
      Acts (actOn (· = det.devID) fun _ v => v.initAndOpen det result) m m' ∧
      m'.startedDevices = m.startedDevices ∧ m'.stoppedDevices = m.stoppedDevices ∧
      m'.unpluggedDevices = m.unpluggedDevices := by
  have hinit : (driver.initializeDevice det).initializedDevices[det.devID]? =
      some (driver.initializedDevices[det.devID]?.getD (newUSBDevice det)) := by
    rw [KeyboardDriver.initializeDevice_held, if_pos rfl]
  obtain ⟨hheld, hid, hresult⟩ := KeyboardDriver.openDevice_held hinit result
  have hnamed := h.named_getD det
  have hacts := h.setHeld
    (fun id => show _ = if id = det.devID then (KeyboardDriver.opening
        (driver.initializedDevices[det.devID]?.getD (newUSBDevice det)) result).1 else _ by
      rw [hheld, KeyboardDriver.initializeDevice_held]
      split_ifs <;> rfl)
    (hid.trans (KeyboardDriver.initializeDevice_driverID det))
    (fun device hdevice => (KeyboardDriver.opening_id hdevice).trans hnamed)
    (fun signal hsignal => (KeyboardDriver.opening_named _ result signal hsignal).trans hnamed)
  obtain ⟨driver', h'⟩ := hacts.oneDriver
  have hdriver : driver' = _ := (List.singleton_inj.mp h'.drivers).symm
  refine ⟨_, driver', ?_, h', ?_, hacts.congr fun id => ?_, rfl, rfl, rfl⟩
  · simp only [initializeWithDriver, if_true, h.drivers, firstDriver_singleton hdriverID, hresult]
    rfl
  · rw [hdriver, hid, KeyboardDriver.initializeDevice_driverID]
  · simp only [actOn]
    split_ifs with heq
    · subst heq
      simp [view, DeviceView.initAndOpen, h.drivers]
    · rfl

lemma startDevice_of_not_stopped (hdet : m.stoppedDevices[devID]? = none) (result : OpenResult) :
    m.startDevice devID result = (m, false) := by
  simp [startDevice, hdet]

theorem OneDriver.acts_startDevice (h : m.OneDriver driver) (devID : δ) (result : OpenResult) :
    Acts (actOn (· = devID) fun _ v => v.start result) m (m.startDevice devID result).1 := by
  cases hdet : m.stoppedDevices[devID]? with
  | none =>
    rw [startDevice_of_not_stopped hdet]
    refine h.acts_refl.congr fun id => ?_
    rw [actOn]
    split_ifs with hid
    · simp [DeviceView.start, view, hid, hdet]
    · rfl
  | some det =>
    obtain ⟨hid, hdriverID⟩ := h.stopped _ _ hdet
    subst hid
    obtain ⟨m', driver', heq, h', hdriverID', hacts, hstarted, hstopped, hunplugged⟩ :=
      h.acts_initAndOpen hdriverID result
    by_cases hresult : result = .opened
    · have hmoved := h'.setContainers (getElem?_insert_eq _ det.devID · det)
        (getElem?_erase_eq _ det.devID) (getElem?_self_eq m'.unpluggedDevices det.devID)
        (fun det' hdet' => by
          cases hdet'
          exact ⟨rfl, hdriverID.trans hdriverID'.symm⟩)
        (fun _ hnone => by cases hnone)
      rw [decide_eq_true hresult] at heq
      simp only [startDevice, hdet, heq]
      refine (hacts.trans hmoved).congr fun id => ?_
      simp only [actOn]
      split_ifs with hid
      · simp [DeviceView.start, DeviceView.initAndOpen, view, hid, hdet, hresult, hunplugged]
      · rfl
    · rw [decide_eq_false hresult] at heq
      simp only [startDevice, hdet, heq]
      refine hacts.congr fun id => ?_
      simp only [actOn]
      split_ifs with hid
      · simp [DeviceView.start, view, hid, hdet, hresult]
      · rfl

/-! ### Detected devices -/

lemma isFree_view (m : DevicesManager δ) (devID : δ) : (m.view devID).isFree =
    !(m.startedDevices.contains devID || m.stoppedDevices.contains devID) := by
  simp [DeviceView.isFree, view, ← Option.not_isSome]

/-- A device that is initialized and not opened. -/
lemma OneDriver.acts_init (h : m.OneDriver driver) (hdriverID : det.driverID = driver.driverID)
    (result : OpenResult) :
    ∃ m' driver', m.initializeWithDriver det false result = some (m', true) ∧
      m'.OneDriver driver' ∧ driver'.driverID = driver.driverID ∧
      Acts (actOn (· = det.devID) fun _ v => { v with
        held := some (v.held.getD (newUSBDevice det)) }) m m' ∧
      m'.startedDevices = m.startedDevices ∧ m'.stoppedDevices = m.stoppedDevices ∧
      m'.unpluggedDevices = m.unpluggedDevices := by
  have hacts := h.setHeld (KeyboardDriver.initializeDevice_held det)
    (KeyboardDriver.initializeDevice_driverID det)
    (fun device hdevice => by
      cases hdevice
      exact h.named_getD det)
    (List.forall_mem_nil _)
  obtain ⟨driver', h'⟩ := hacts.oneDriver
  have hdriver : driver' = _ := (List.singleton_inj.mp h'.drivers).symm
  refine ⟨_, driver', ?_, h', ?_, hacts.congr fun id => ?_, rfl, rfl, rfl⟩
  · simp [initializeWithDriver, h.drivers, firstDriver_singleton hdriverID, send]
  · rw [hdriver, KeyboardDriver.initializeDevice_driverID]
  · simp only [actOn]
    split_ifs with heq
    · subst heq
      simp [view, h.drivers]
    · rfl

/-- A detected device is filed as started or stopped. -/
lemma acts_initializeDetected (openDevices : Bool) (opens : δ → OpenResult)
    {r : DevicesManager δ × List δ} (h : r.1.OneDriver driver)
    (hdriverID : det.driverID = driver.driverID) :
    Acts (actOn (· = det.devID) fun _ v => v.detect openDevices det (opens det.devID)) r.1
        (initializeDetected openDevices opens r (det.devID, det)).1 ∧
      (initializeDetected openDevices opens r (det.devID, det)).2 =
        if (r.1.view det.devID).isFree && (!openDevices || decide (opens det.devID = .opened))
        then r.2 ++ [det.devID] else r.2 := by
  have hfree := isFree_view r.1 det.devID
  rw [initializeDetected]
  cases hknown : r.1.startedDevices.contains det.devID || r.1.stoppedDevices.contains det.devID with
  | true =>
    rw [hknown] at hfree
    refine ⟨h.acts_refl.congr fun id => ?_, by simp [hfree]⟩
    rw [actOn]
    split_ifs with hid
    · subst hid
      exact (DeviceView.detect_of_not_free hfree _ _ _).symm
    · rfl
  | false =>
    rw [hknown] at hfree
    cases openDevices with
    | false =>
      obtain ⟨m', driver', heq, h', hdriverID', hacts, hstarted, hstopped, hunplugged⟩ :=
        h.acts_init hdriverID (opens det.devID)
      have hmoved := h'.setContainers (getElem?_self_eq m'.startedDevices det.devID)
        (getElem?_insert_eq _ det.devID · det) (getElem?_self_eq m'.unpluggedDevices det.devID)
        (fun det' hdet' => h'.started _ det' hdet')
        (fun det' hdet' => by
          cases hdet'
          exact ⟨rfl, hdriverID.trans hdriverID'.symm⟩)
      simp only [Bool.false_eq_true, if_false, heq]
      refine ⟨(hacts.trans hmoved).congr fun id => ?_, by simp [hfree]⟩
      simp only [actOn]
      split_ifs with hid
      · have hs : m'.startedDevices[det.devID]? = (r.1.view det.devID).started := by rw [hstarted]; rfl
        have hu : m'.unpluggedDevices[det.devID]? = (r.1.view det.devID).unplugged := by
          rw [hunplugged]
          rfl
        simp [DeviceView.detect, show id = det.devID from hid, hfree, hs, hu]
      · rfl
    | true =>
      obtain ⟨m', driver', heq, h', hdriverID', hacts, hstarted, hstopped, hunplugged⟩ :=
        h.acts_initAndOpen hdriverID (opens det.devID)
      simp only [Bool.false_eq_true, if_false]
      by_cases hresult : opens det.devID = .opened
      · rw [decide_eq_true hresult] at heq
        have hmoved := h'.setContainers (getElem?_insert_eq _ det.devID · det)
          (getElem?_self_eq m'.stoppedDevices det.devID)
          (getElem?_self_eq m'.unpluggedDevices det.devID)
          (fun det' hdet' => by
            cases hdet'
            exact ⟨rfl, hdriverID.trans hdriverID'.symm⟩)
          (fun det' hdet' => h'.stopped _ det' hdet')
        simp only [heq, if_true]
        refine ⟨(hacts.trans hmoved).congr fun id => ?_, by simp [hfree, hresult]⟩
        simp only [actOn]
        split_ifs with hid
        · have hs : m'.stoppedDevices[det.devID]? = (r.1.view det.devID).stopped := by
            rw [hstopped]
            rfl
          have hu : m'.unpluggedDevices[det.devID]? = (r.1.view det.devID).unplugged := by
            rw [hunplugged]
            rfl
          simp [DeviceView.detect, DeviceView.initAndOpen, show id = det.devID from hid, hfree,
            hresult, hs, hu]
        · rfl
      · rw [decide_eq_false hresult] at heq
        simp only [heq]
        refine ⟨hacts.congr fun id => ?_, by simp [hresult]⟩
        simp only [actOn]
        split_ifs with hid
        · simp [DeviceView.detect, show id = det.devID from hid, hfree, hresult]
        · rfl

end DevicesManager

end GLogiK
