import GLogiK.Daemon.Drivers

/-!
# Unplugged devices

What `checkForUnpluggedDevices` does to the containers. The devices that were unplugged while they
were started are stopped first, which puts them into the container that the second loop reads.
-/

namespace GLogiK

variable {δ : Type*} [LinearOrder δ]

namespace DevicesManager

/-- The devices of `ids` went to the unplugged container, as `dets` has them. -/
structure UnplugsTo (ids : List δ) (dets : δ → Option (USBDeviceID δ)) (m m' : DevicesManager δ) :
    Prop where
  work : DriversWork m m'
  started : ∀ a, m'.startedDevices[a]? = if a ∈ ids then none else m.startedDevices[a]?
  stopped : ∀ a, m'.stoppedDevices[a]? = if a ∈ ids then none else m.stoppedDevices[a]?
  unplugged : ∀ a, m'.unpluggedDevices[a]? = if a ∈ ids then dets a else m.unpluggedDevices[a]?

variable {m m' m'' : DevicesManager δ} {devID : δ} {det : USBDeviceID δ} {ids ids' : List δ}
  {dets : δ → Option (USBDeviceID δ)}

lemma UnplugsTo.refl (m : DevicesManager δ) : UnplugsTo [] dets m m :=
  ⟨.refl m, fun _ => rfl, fun _ => rfl, fun _ => rfl⟩

lemma UnplugsTo.trans (h : UnplugsTo ids dets m m') (h' : UnplugsTo ids' dets m' m'') :
    UnplugsTo (ids ++ ids') dets m m'' := by
  refine ⟨h.work.trans h'.work, fun a => ?_, fun a => ?_, fun a => ?_⟩
  · rw [h'.started, h.started]
    by_cases ha : a ∈ ids <;> simp [ha]
  · rw [h'.stopped, h.stopped]
    by_cases ha : a ∈ ids <;> simp [ha]
  · rw [h'.unplugged, h.unplugged]
    by_cases ha : a ∈ ids <;> simp [ha]

lemma UnplugsTo.congr {dets' : δ → Option (USBDeviceID δ)} (h : UnplugsTo ids dets m m')
    (hdets : ∀ a ∈ ids, dets a = dets' a) : UnplugsTo ids dets' m m' := by
  refine ⟨h.work, h.started, h.stopped, fun a => ?_⟩
  rw [h.unplugged]
  split_ifs with ha
  · exact hdets a ha
  · rfl

/-! ### The loops -/

/-- A loop over different devices that unplugs each device that is ready for it, where a device
stays ready while others are unplugged. -/
lemma foldl_unplug {body : DevicesManager δ × List δ → δ → DevicesManager δ × List δ}
    {ready : DevicesManager δ → δ → Prop}
    (hbody : ∀ r devID, ready r.1 devID →
      ∃ m', body r devID = (m', r.2 ++ [devID]) ∧ UnplugsTo [devID] dets r.1 m')
    (hready : ∀ m m' a devID, UnplugsTo [devID] dets m m' → a ≠ devID → ready m a → ready m' a)
    (hnodup : ids.Nodup) (r : DevicesManager δ × List δ) (hids : ∀ a ∈ ids, ready r.1 a) :
    UnplugsTo ids dets r.1 (ids.foldl body r).1 ∧ (ids.foldl body r).2 = r.2 ++ ids := by
  induction ids generalizing r with
  | nil => exact ⟨.refl r.1, (List.append_nil _).symm⟩
  | cons devID ids ih =>
    obtain ⟨hnotMem, hnodup⟩ := List.nodup_cons.mp hnodup
    obtain ⟨hhead, htail⟩ := List.forall_mem_cons.mp hids
    obtain ⟨m', hstep, hunplugs⟩ := hbody r devID hhead
    rw [List.foldl_cons, hstep]
    have hrest := ih hnodup (m', r.2 ++ [devID]) fun a ha =>
      hready r.1 m' a devID hunplugs (ne_of_mem_of_not_mem ha hnotMem) (htail a ha)
    refine ⟨hunplugs.trans hrest.1, ?_⟩
    rw [hrest.2, List.append_assoc, List.singleton_append]

/-- A started device is stopped, and moves on. -/
lemma unplugStarted_of_loaded {r : DevicesManager δ × List δ}
    (hdet : r.1.startedDevices[devID]? = some det) (hloaded : r.1.Loaded det)
    (hdets : dets devID = some det) :
    ∃ m', unplugStarted r devID = (m', r.2 ++ [devID]) ∧ UnplugsTo [devID] dets r.1 m' := by
  obtain ⟨m₁, hstop, hstops⟩ := stopDevice_of_loaded hdet hloaded
  have hdet₁ : m₁.stoppedDevices[devID]? = some det := by
    rw [hstops.stopped, getElem?_insert_eq, if_pos rfl]
  let m' := { m₁ with
    unpluggedDevices := m₁.unpluggedDevices.insert devID det
    stoppedDevices := m₁.stoppedDevices.erase devID }
  have hwork : DriversWork r.1 m' := hstops.work.refile _ _ _
  refine ⟨m', ?_, hwork, fun a => ?_, fun a => ?_, fun a => ?_⟩
  · simp only [unplugStarted, hstop, hdet₁]
    rfl
  · have hstarted : m'.startedDevices = r.1.startedDevices.erase devID := hstops.started
    rw [hstarted, getElem?_erase_eq]
    simp only [List.mem_singleton]
  · have hstopped : m'.stoppedDevices = (r.1.stoppedDevices.insert devID det).erase devID :=
      congrArg (·.erase devID) hstops.stopped
    rw [hstopped, getElem?_erase_eq, getElem?_insert_eq]
    simp only [List.mem_singleton]
    split_ifs <;> rfl
  · have hunplugged : m'.unpluggedDevices = r.1.unpluggedDevices.insert devID det :=
      congrArg (·.insert devID det) hstops.unplugged
    rw [hunplugged, getElem?_insert_eq]
    simp only [List.mem_singleton]
    split_ifs with ha
    · rw [ha, hdets]
    · rfl

/-- A stopped device, which is not started, moves on. -/
lemma unplugStopped_of_stopped {r : DevicesManager δ × List δ}
    (hdet : r.1.stoppedDevices[devID]? = some det) (hnot : r.1.startedDevices[devID]? = none)
    (hdets : dets devID = some det) :
    ∃ m', unplugStopped r devID = (m', r.2 ++ [devID]) ∧ UnplugsTo [devID] dets r.1 m' := by
  refine ⟨_, ?_, (DriversWork.refl r.1).refile r.1.startedDevices
    (r.1.stoppedDevices.erase devID) (r.1.unpluggedDevices.insert devID det),
    fun a => ?_, fun a => ?_, fun a => ?_⟩
  · simp only [unplugStopped, hdet]
  · simp only [List.mem_singleton]
    exact getElem?_of_eq hnot a
  · rw [getElem?_erase_eq]
    simp only [List.mem_singleton]
  · rw [getElem?_insert_eq]
    simp only [List.mem_singleton]
    split_ifs with ha
    · rw [ha, hdets]
    · rfl

/-! ### Both loops -/

/-- The device is started or stopped, and was not detected. -/
def Gone (m : DevicesManager δ) (devID : δ) : Prop :=
  (m.startedDevices.contains devID ∨ m.stoppedDevices.contains devID) ∧
    ¬ m.detectedDevices.contains devID

/-- The started devices that were not detected. -/
def goneStarted (m : DevicesManager δ) : List δ :=
  m.startedDevices.keys.filter fun devID => !m.detectedDevices.contains devID

/-- The stopped devices that were not detected. -/
def goneStopped (m : DevicesManager δ) : List δ :=
  m.stoppedDevices.keys.filter fun devID => !m.detectedDevices.contains devID

lemma mem_goneStarted : devID ∈ m.goneStarted ↔
    m.startedDevices.contains devID ∧ ¬ m.detectedDevices.contains devID := by
  rw [goneStarted, List.mem_filter, Std.ExtTreeMap.mem_keys, Std.ExtTreeMap.contains_iff_mem,
    Bool.not_eq_true', Bool.not_eq_true]

lemma mem_goneStopped : devID ∈ m.goneStopped ↔
    m.stoppedDevices.contains devID ∧ ¬ m.detectedDevices.contains devID := by
  rw [goneStopped, List.mem_filter, Std.ExtTreeMap.mem_keys, Std.ExtTreeMap.contains_iff_mem,
    Bool.not_eq_true', Bool.not_eq_true]

/-- Every started device has a driver that is loaded. -/
def StartedLoaded (m : DevicesManager δ) : Prop :=
  ∀ (devID : δ) (det : USBDeviceID δ), m.startedDevices[devID]? = some det → m.Loaded det

lemma unplugsTo_goneStarted (hloaded : m.StartedLoaded) :
    UnplugsTo m.goneStarted (m.startedDevices[·]?) m (m.goneStarted.foldl unplugStarted (m, [])).1 ∧
      (m.goneStarted.foldl unplugStarted (m, [])).2 = m.goneStarted := by
  have hnodup : m.goneStarted.Nodup := Std.ExtTreeMap.nodup_keys.filter _
  -- a device is ready as long as it is filed as before, and the same drivers are loaded
  let ready : DevicesManager δ → δ → Prop := fun m₁ a =>
    m₁.startedDevices[a]? = m.startedDevices[a]? ∧ m₁.startedDevices[a]?.isSome ∧
      ∀ det, m₁.Loaded det ↔ m.Loaded det
  refine @foldl_unplug δ _ m.goneStarted (m.startedDevices[·]?) unplugStarted ready ?_ ?_ hnodup
    (m, []) ?_
  · rintro r a ⟨heq, hsome, hiff⟩
    obtain ⟨det, hdet⟩ := Option.isSome_iff_exists.mp hsome
    rw [hdet] at heq
    exact unplugStarted_of_loaded hdet ((hiff det).mpr (hloaded a det heq.symm)) heq.symm
  · rintro m₁ m₂ a devID hunplugs hne ⟨heq, hsome, hiff⟩
    have hsame : m₂.startedDevices[a]? = m₁.startedDevices[a]? := by
      rw [hunplugs.started, if_neg (by simpa using hne)]
    refine ⟨hsame.trans heq, ?_, fun det => hunplugs.work.loaded.trans (hiff det)⟩
    rw [hsame]
    exact hsome
  · intro a ha
    refine ⟨rfl, ?_, fun det => Iff.rfl⟩
    rw [← Std.ExtTreeMap.contains_eq_isSome_getElem?]
    exact (mem_goneStarted.mp ha).1

lemma unplugsTo_goneStopped (hnot : ∀ a ∈ m.goneStopped, m.startedDevices[a]? = none)
    (sent : List δ) :
    UnplugsTo m.goneStopped (m.stoppedDevices[·]?) m
        (m.goneStopped.foldl unplugStopped (m, sent)).1 ∧
      (m.goneStopped.foldl unplugStopped (m, sent)).2 = sent ++ m.goneStopped := by
  have hnodup : m.goneStopped.Nodup := Std.ExtTreeMap.nodup_keys.filter _
  let ready : DevicesManager δ → δ → Prop := fun m₁ a =>
    m₁.stoppedDevices[a]? = m.stoppedDevices[a]? ∧ m₁.stoppedDevices[a]?.isSome ∧
      m₁.startedDevices[a]? = none
  refine @foldl_unplug δ _ m.goneStopped (m.stoppedDevices[·]?) unplugStopped ready ?_ ?_ hnodup
    (m, sent) ?_
  · rintro r a ⟨heq, hsome, hnone⟩
    obtain ⟨det, hdet⟩ := Option.isSome_iff_exists.mp hsome
    rw [hdet] at heq
    exact unplugStopped_of_stopped hdet hnone heq.symm
  · rintro m₁ m₂ a devID hunplugs hne ⟨heq, hsome, hnone⟩
    have hsame : m₂.stoppedDevices[a]? = m₁.stoppedDevices[a]? := by
      rw [hunplugs.stopped, if_neg (by simpa using hne)]
    refine ⟨hsame.trans heq, ?_, ?_⟩
    · rw [hsame]
      exact hsome
    · rw [hunplugs.started, hnone, ite_self]
  · intro a ha
    refine ⟨rfl, ?_, hnot a ha⟩
    rw [← Std.ExtTreeMap.contains_eq_isSome_getElem?]
    exact (mem_goneStopped.mp ha).1

/-- The devices of `toSend`. -/
def goneDevices (m : DevicesManager δ) : List δ :=
  m.goneStarted ++ (m.goneStarted.foldl unplugStarted (m, [])).1.goneStopped

/-- What the two loops do, one after the other. -/
lemma unplugsTo_goneDevices (hloaded : m.StartedLoaded) :
    ∃ m', UnplugsTo m.goneDevices m.knownDevice m m' ∧ m.goneDevices.Nodup ∧
      (∀ devID, devID ∈ m.goneDevices ↔ m.Gone devID) ∧
      m.checkForUnpluggedDevices = if m.goneDevices = [] then { m' with detectedDevices := ∅ }
        else { m' with detectedDevices := ∅ }.send
          (sendStatusSignalArrayToClients m.numClients (.devicesUnplugged m.goneDevices)) := by
  have hcheck : m.checkForUnpluggedDevices =
      let r := m.goneStarted.foldl unplugStarted (m, [])
      let r := r.1.goneStopped.foldl unplugStopped r
      if r.2 = [] then { r.1 with detectedDevices := ∅ }
      else { r.1 with detectedDevices := ∅ }.send
        (sendStatusSignalArrayToClients r.1.numClients (.devicesUnplugged r.2)) := rfl
  obtain ⟨hfirst, hsent⟩ := unplugsTo_goneStarted hloaded
  rw [goneDevices]
  rcases hr : m.goneStarted.foldl unplugStarted (m, []) with ⟨m₁, sent⟩
  rw [hr] at hfirst hsent hcheck
  obtain rfl : sent = m.goneStarted := hsent
  -- a device of the second loop was not started, or the first loop would have moved it
  have hlater : ∀ a ∈ m₁.goneStopped, a ∉ m.goneStarted ∧ m.startedDevices[a]? = none := by
    intro a ha
    obtain ⟨hstopped, hdetected⟩ := mem_goneStopped.mp ha
    rw [hfirst.work.detected] at hdetected
    have hnotMem : a ∉ m.goneStarted := by
      intro hmem
      rw [Std.ExtTreeMap.contains_eq_isSome_getElem?, hfirst.stopped, if_pos hmem] at hstopped
      cases hstopped
    refine ⟨hnotMem, ?_⟩
    rw [mem_goneStarted, Std.ExtTreeMap.contains_eq_isSome_getElem?, not_and_not_right] at hnotMem
    rw [← Option.not_isSome_iff_eq_none]
    exact fun hstarted => hdetected (hnotMem hstarted)
  have hnot : ∀ a ∈ m₁.goneStopped, m₁.startedDevices[a]? = none := by
    intro a ha
    rw [hfirst.started, if_neg (hlater a ha).1]
    exact (hlater a ha).2
  obtain ⟨hsecond, hsent⟩ := unplugsTo_goneStopped hnot m.goneStarted
  rcases hr' : m₁.goneStopped.foldl unplugStopped (m₁, m.goneStarted) with ⟨m₂, sent⟩
  rw [hr'] at hsecond hsent
  simp only [hr'] at hcheck
  obtain rfl : sent = m.goneStarted ++ m₁.goneStopped := hsent
  refine ⟨m₂, ?_, ?_, fun devID => ?_, ?_⟩
  · refine (hfirst.congr fun a ha => ?_).trans (hsecond.congr fun a ha => ?_)
    · have hstarted := (mem_goneStarted.mp ha).1
      rw [Std.ExtTreeMap.contains_eq_isSome_getElem?] at hstarted
      obtain ⟨det, hdet⟩ := Option.isSome_iff_exists.mp hstarted
      simp only [knownDevice, hdet]
    · simp only [knownDevice, (hlater a ha).2, hfirst.stopped, if_neg (hlater a ha).1]
  · refine List.nodup_append'.mpr ⟨Std.ExtTreeMap.nodup_keys.filter _,
      Std.ExtTreeMap.nodup_keys.filter _, ?_⟩
    intro a ha ha'
    exact (hlater a ha').1 ha
  · have hstopped : m₁.stoppedDevices.contains devID ↔
        devID ∉ m.goneStarted ∧ m.stoppedDevices.contains devID := by
      rw [Std.ExtTreeMap.contains_eq_isSome_getElem?, Std.ExtTreeMap.contains_eq_isSome_getElem?,
        hfirst.stopped]
      split_ifs with hmem <;> simp [hmem]
    rw [List.mem_append, mem_goneStopped, Gone, hfirst.work.detected, hstopped, mem_goneStarted]
    tauto
  · rw [hcheck, hsecond.work.numClients, hfirst.work.numClients]

/-- Exactly the started and stopped devices that are not detected are unplugged afterwards, each of
them is in the signal once, and all other devices stay where they are. -/
theorem checkForUnpluggedDevices_moves (m : DevicesManager δ) (hloaded : m.StartedLoaded) :
    let m' := m.checkForUnpluggedDevices
    (∀ devID, m.Gone devID → m'.getDeviceStatus devID = .unplugged ∧
      m'.unpluggedDevices[devID]? = m.knownDevice devID) ∧
    (∀ devID, ¬ m.Gone devID → m'.getDeviceStatus devID = m.getDeviceStatus devID ∧
      m'.startedDevices[devID]? = m.startedDevices[devID]? ∧
      m'.stoppedDevices[devID]? = m.stoppedDevices[devID]? ∧
      m'.unpluggedDevices[devID]? = m.unpluggedDevices[devID]?) ∧
    ∃ (signals : List (DeviceSignal δ)) (devIDs : List δ), devIDs.Nodup ∧
      (∀ devID, devID ∈ devIDs ↔ m.Gone devID) ∧
      m'.sent = m.sent ++ signals.map .device ++ if devIDs = [] then []
        else sendStatusSignalArrayToClients m.numClients (.devicesUnplugged devIDs) := by
  intro m'
  obtain ⟨m₂, hunplugs, hnodup, hmem, hcheck⟩ := unplugsTo_goneDevices hloaded
  have hcheck : m' = _ := hcheck
  have hstarted : m'.startedDevices = m₂.startedDevices := by
    rw [hcheck]
    split_ifs <;> rfl
  have hstopped : m'.stoppedDevices = m₂.stoppedDevices := by
    rw [hcheck]
    split_ifs <;> rfl
  have hunplugged : m'.unpluggedDevices = m₂.unpluggedDevices := by
    rw [hcheck]
    split_ifs <;> rfl
  refine ⟨fun devID hgone => ?_, fun devID hstays => ?_, ?_⟩
  · have hmem' : devID ∈ m.goneDevices := (hmem devID).mpr hgone
    have hnone : m'.startedDevices[devID]? = none := by
      rw [hstarted, hunplugs.started, if_pos hmem']
    have hnone' : m'.stoppedDevices[devID]? = none := by
      rw [hstopped, hunplugs.stopped, if_pos hmem']
    have hknown : m'.unpluggedDevices[devID]? = m.knownDevice devID := by
      rw [hunplugged, hunplugs.unplugged, if_pos hmem']
    refine ⟨?_, hknown⟩
    have hsome : (m.knownDevice devID).isSome := by
      simp only [Gone, Std.ExtTreeMap.contains_eq_isSome_getElem?] at hgone
      rw [knownDevice]
      cases hdet : m.startedDevices[devID]? with
      | some det => rfl
      | none =>
        rw [hdet] at hgone
        simpa using hgone.1
    simp only [getDeviceStatus, Std.ExtTreeMap.contains_eq_isSome_getElem?, hnone, hnone', hknown,
      hsome, Option.isSome_none, Bool.false_eq_true, if_false, if_true]
  · have hmem' : devID ∉ m.goneDevices := fun h => hstays ((hmem devID).mp h)
    have hsame : m'.startedDevices[devID]? = m.startedDevices[devID]? := by
      rw [hstarted, hunplugs.started, if_neg hmem']
    have hsame' : m'.stoppedDevices[devID]? = m.stoppedDevices[devID]? := by
      rw [hstopped, hunplugs.stopped, if_neg hmem']
    have hsame'' : m'.unpluggedDevices[devID]? = m.unpluggedDevices[devID]? := by
      rw [hunplugged, hunplugs.unplugged, if_neg hmem']
    refine ⟨?_, hsame, hsame', hsame''⟩
    simp only [getDeviceStatus, Std.ExtTreeMap.contains_eq_isSome_getElem?, hsame, hsame', hsame'']
  · obtain ⟨signals, hsent⟩ := hunplugs.work.sent
    refine ⟨signals, m.goneDevices, hnodup, hmem, ?_⟩
    rw [hcheck]
    split_ifs
    · rw [List.append_nil]
      exact hsent
    · rw [send, hsent]

/-- Of two devices with their drivers loaded, the started one is unplugged. -/
theorem checkForUnpluggedDevices_moves_two :
    let g510 : USBDeviceID ℕ :=
      { devID := 1, capabilities := 15, driverID := 7, GKeysTransferLength := 5 }
    let other : USBDeviceID ℕ := { g510 with devID := 2, driverID := 9 }
    let m : DevicesManager ℕ :=
      { detectedDevices := (∅ : StdMap ℕ _).insert 2 other
        startedDevices := (∅ : StdMap ℕ _).insert 1 g510
        stoppedDevices := (∅ : StdMap ℕ _).insert 2 other
        drivers := [{ driverID := 9 }, { driverID := 7 }]
        numClients := 1 }
    m.checkForUnpluggedDevices.getDeviceStatus 1 = .unplugged ∧
      m.checkForUnpluggedDevices.getDeviceStatus 2 = .stopped := by
  intro g510 other m
  have hloaded : m.StartedLoaded := by
    intro devID det hdet
    rw [getElem?_insert_eq] at hdet
    split_ifs at hdet
    · cases hdet
      exact ⟨{ driverID := 7 }, List.mem_cons_of_mem _ List.mem_cons_self, rfl⟩
    · rw [Std.ExtTreeMap.getElem?_empty] at hdet
      cases hdet
  have hgone : m.Gone 1 := ⟨Or.inl (by decide +kernel), by decide +kernel⟩
  have hstays : ¬ m.Gone 2 := by
    rintro ⟨-, hdetected⟩
    exact hdetected (by decide +kernel)
  obtain ⟨hunplugged, hkept, -⟩ := checkForUnpluggedDevices_moves m hloaded
  refine ⟨(hunplugged 1 hgone).1, (hkept 2 hstays).1.trans ?_⟩
  decide +kernel

end DevicesManager

end GLogiK
