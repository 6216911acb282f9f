import GLogiK.Daemon.WellFiled

/-!
# Suspend and resume

Before the computer sleeps, the started devices are stopped and their IDs are kept; after it, these
devices are started again, unless they were unplugged meanwhile.
-/

namespace GLogiK

variable {δ : Type*} [LinearOrder δ]

namespace DevicesManager

variable {m m' m'' : DevicesManager δ} {devID : δ} {det : USBDeviceID δ} {ids : List δ}

/-! ### Both loops -/

lemma stopsAll_foldl (hnodup : ids.Nodup)
    (hstarted : ∀ a ∈ ids, ∃ det, m.startedDevices[a]? = some det ∧ m.Loaded det) :
    StopsAll ids m (ids.foldl (fun m devID => (m.stopDevice devID).1) m) := by
  induction ids generalizing m with
  | nil => exact .refl m
  | cons devID ids ih =>
    obtain ⟨hnotMem, hnodup⟩ := List.nodup_cons.mp hnodup
    obtain ⟨⟨det, hdet, hloaded⟩, hstarted⟩ := List.forall_mem_cons.mp hstarted
    obtain ⟨m₁, hstop, hstops⟩ := stopDevice_of_loaded hdet hloaded
    rw [List.foldl_cons, hstop]
    apply StopsAll.cons hdet hstops hnotMem
    apply ih hnodup
    intro a ha
    have hne : a ≠ devID := ne_of_mem_of_not_mem ha hnotMem
    obtain ⟨det', hdet', hloaded'⟩ := hstarted a ha
    exact ⟨det', (hstops.started_of_ne hne).trans hdet', hstops.work.loaded.mpr hloaded'⟩

/-- The devices of `ids` that were stopped are started. -/
structure StartsAll (ids : List δ) (m m' : DevicesManager δ) : Prop where
  started : ∀ a, m'.startedDevices[a]? =
    if a ∈ ids then m.stoppedDevices[a]?.or m.startedDevices[a]? else m.startedDevices[a]?
  stopped : ∀ a, m'.stoppedDevices[a]? = if a ∈ ids then none else m.stoppedDevices[a]?

lemma startsAll_foldl (hloaded : ∀ (a : δ) (det : USBDeviceID δ),
      m.stoppedDevices[a]? = some det → m.Loaded det) :
    StartsAll ids m (ids.foldl (fun m devID => (m.startDevice devID .opened).1) m) := by
  induction ids generalizing m with
  | nil => exact ⟨fun _ => rfl, fun _ => rfl⟩
  | cons devID ids ih =>
    rw [List.foldl_cons]
    cases hdet : m.stoppedDevices[devID]? with
    | none =>
      have hstart : m.startDevice devID .opened = (m, false) := by
        simp only [startDevice, hdet]
      rw [hstart]
      refine ⟨fun a => ?_, fun a => ?_⟩
      · rw [(ih hloaded).started]
        by_cases ha : a = devID
        · rw [ha, hdet, Option.none_or, ite_self, ite_self]
        · simp [ha]
      · rw [(ih hloaded).stopped]
        by_cases ha : a = devID
        · rw [ha, hdet, ite_self, ite_self]
        · simp [ha]
    | some det =>
      obtain ⟨m₁, hstart, hstarts⟩ := startDevice_of_opened hdet (hloaded devID det hdet)
      rw [hstart]
      have hloaded₁ : ∀ (a : δ) (det : USBDeviceID δ), m₁.stoppedDevices[a]? = some det →
          m₁.Loaded det := by
        intro a det' hdet'
        rw [hstarts.stopped, getElem?_erase_eq] at hdet'
        split_ifs at hdet'
        exact hstarts.work.loaded.mpr (hloaded a det' hdet')
      refine ⟨fun a => ?_, fun a => ?_⟩
      · rw [(ih hloaded₁).started, hstarts.started, hstarts.stopped, getElem?_insert_eq,
          getElem?_erase_eq]
        by_cases ha : a = devID
        · simp [ha, hdet]
        · simp [ha]
      · rw [(ih hloaded₁).stopped, hstarts.stopped, getElem?_erase_eq]
        by_cases ha : a = devID
        · simp [ha]
        · simp [ha]

/-! ### While the computer sleeps -/

/-- `m'` sleeps since it was `m`, and of the devices it had then those of `there` are left. -/
structure Sleeps (m : DevicesManager δ) (there : δ → Prop) (m' : DevicesManager δ) : Prop where
  driverIDs : m'.drivers.map (·.driverID) = m.drivers.map (·.driverID)
  started : ∀ a : δ, m'.startedDevices[a]? = none
  left : ∀ a : δ, there a → m'.stoppedDevices[a]? = m.knownDevice a
  gone : ∀ a : δ, ¬ there a → m'.stoppedDevices[a]? = none
  sleeping : m'.sleepingDevices = m.startedDevices.keys

lemma knownDevice_of_started (hdet : m.startedDevices[devID]? = some det) :
    m.knownDevice devID = some det := by
  simp only [knownDevice, hdet]

lemma knownDevice_of_not_started (hdet : m.startedDevices[devID]? = none) :
    m.knownDevice devID = m.stoppedDevices[devID]? := by
  simp only [knownDevice, hdet]

lemma not_known (hnot : ¬ (m.knownDevice devID).isSome) :
    m.startedDevices[devID]? = none ∧ m.stoppedDevices[devID]? = none := by
  cases hdet : m.startedDevices[devID]? with
  | some det =>
    rw [knownDevice_of_started hdet] at hnot
    exact absurd rfl hnot
  | none =>
    rw [knownDevice_of_not_started hdet, Option.not_isSome_iff_eq_none] at hnot
    exact ⟨rfl, hnot⟩

lemma sleeps_stopInitializedDevices (h : m.Settled) :
    Sleeps m (fun _ => True) m.stopInitializedDevices := by
  have hstops : StopsAll m.startedDevices.keys { m with sleepingDevices := m.startedDevices.keys }
      (m.startedDevices.keys.foldl (fun m devID => (m.stopDevice devID).1)
        { m with sleepingDevices := m.startedDevices.keys }) := by
    apply stopsAll_foldl Std.ExtTreeMap.nodup_keys
    intro a ha
    obtain ⟨det, hdet⟩ := Option.isSome_iff_exists.mp (mem_keys.mp ha)
    exact ⟨det, hdet, h.started a det hdet⟩
  refine ⟨hstops.work.driverIDs, fun a => Std.ExtTreeMap.getElem?_empty, ?_, ?_,
    hstops.work.sleeping⟩
  · intro a _
    refine (hstops.stopped a).trans ?_
    split_ifs with ha
    · obtain ⟨det, hdet⟩ := Option.isSome_iff_exists.mp (mem_keys.mp ha)
      exact hdet.trans (knownDevice_of_started hdet).symm
    · rw [mem_keys, Option.not_isSome_iff_eq_none] at ha
      exact (knownDevice_of_not_started ha).symm
  · exact fun a hnot => absurd trivial hnot

/-- The devices of an ID that are found and supported. -/
lemma contains_searchSupportedDevices (h : m.Settled) (found : List (USBDeviceID δ)) :
    (m.searchSupportedDevices found).detectedDevices.contains devID ↔
      ∃ det ∈ found, det.devID = devID ∧ m.Loaded det := by
  rw [Std.ExtTreeMap.contains_eq_isSome_getElem?, getElem?_searchSupportedDevices, h.detected,
    Std.ExtTreeMap.getElem?_empty, Option.none_or, List.find?_isSome]
  constructor
  · rintro ⟨det, hmem, hid⟩
    obtain ⟨hfound, hloaded⟩ := List.mem_filter.mp hmem
    exact ⟨det, hfound, of_decide_eq_true hid, by simpa [Loaded] using hloaded⟩
  · rintro ⟨det, hfound, hid, hloaded⟩
    exact ⟨det, List.mem_filter.mpr ⟨hfound, by simpa [Loaded] using hloaded⟩, by simpa using hid⟩

/-- Devices are unplugged in the sleep. -/
lemma Sleeps.checkForUnpluggedDevices {there : δ → Prop} (h : Sleeps m there m')
    (hsettled : m'.Settled) (found : List (USBDeviceID δ)) :
    Sleeps m (fun devID => there devID ∧ ∃ det ∈ found, det.devID = devID ∧ m.Loaded det)
      (m'.searchSupportedDevices found).checkForUnpluggedDevices := by
  have hloaded : (m'.searchSupportedDevices found).StartedLoaded := hsettled.started
  obtain ⟨m₂, hunplugs, -, hmem, hcheck⟩ := unplugsTo_goneDevices hloaded
  have hfound : ∀ a, (m'.searchSupportedDevices found).detectedDevices.contains a ↔
      ∃ det ∈ found, det.devID = a ∧ m.Loaded det := by
    intro a
    rw [contains_searchSupportedDevices hsettled]
    simp only [loaded_iff, h.driverIDs]
  have hgone : ∀ a, a ∈ (m'.searchSupportedDevices found).goneDevices ↔
      m'.stoppedDevices[a]?.isSome ∧ ¬ ∃ det ∈ found, det.devID = a ∧ m.Loaded det := by
    intro a
    have hstarted : (m'.searchSupportedDevices found).startedDevices.contains a = false := by
      rw [Std.ExtTreeMap.contains_eq_isSome_getElem?]
      exact congrArg Option.isSome (h.started a)
    rw [hmem, Gone, hfound, hstarted, Bool.false_eq_true, false_or,
      Std.ExtTreeMap.contains_eq_isSome_getElem?]
    exact Iff.rfl
  have hstopped : ∀ a, m₂.stoppedDevices[a]? =
      if a ∈ (m'.searchSupportedDevices found).goneDevices then none
      else m'.stoppedDevices[a]? := hunplugs.stopped
  have hfiles : SameFiles m₂ (m'.searchSupportedDevices found).checkForUnpluggedDevices := by
    rw [hcheck]
    split_ifs <;> exact ⟨rfl, rfl, rfl⟩
  refine ⟨?_, fun a => ?_, fun a hthere => ?_, fun a hnot => ?_, ?_⟩
  · rw [← h.driverIDs]
    refine Eq.trans ?_ hunplugs.work.driverIDs
    rw [hcheck]
    split_ifs <;> rfl
  · rw [hfiles.started, hunplugs.started]
    split_ifs
    · rfl
    · exact h.started a
  · rw [hfiles.stopped, hstopped, if_neg fun hmem => ((hgone a).mp hmem).2 hthere.2]
    exact h.left a hthere.1
  · rw [hfiles.stopped, hstopped]
    split_ifs with ha
    · rfl
    · rw [hgone] at ha
      by_cases hthere : there a
      · have hlost : ¬ ∃ det ∈ found, det.devID = a ∧ m.Loaded det :=
          fun hdet => hnot ⟨hthere, hdet⟩
        rw [← Option.not_isSome_iff_eq_none]
        exact fun hsome => ha ⟨hsome, hlost⟩
      · exact h.gone a hthere
  · rw [← h.sleeping]
    refine Eq.trans ?_ hunplugs.work.sleeping
    rw [hcheck]
    split_ifs <;> rfl

/-- The device is supported, and was there each time. -/
def SeenIn (m : DevicesManager δ) (founds : List (List (USBDeviceID δ))) (devID : δ) : Prop :=
  ∀ found ∈ founds, ∃ det ∈ found, det.devID = devID ∧ m.Loaded det

lemma Sleeps.congr {there there' : δ → Prop} (h : Sleeps m there m')
    (hthere : ∀ a, there a ↔ there' a) : Sleeps m there' m' :=
  ⟨h.driverIDs, h.started, fun a ha => h.left a ((hthere a).mpr ha),
    fun a ha => h.gone a fun hnot => ha ((hthere a).mp hnot), h.sleeping⟩

lemma Sleeps.run {there : δ → Prop} (h : Sleeps m there m') (hsettled : m'.Settled)
    (founds : List (List (USBDeviceID δ))) :
    Sleeps m (fun devID => there devID ∧ m.SeenIn founds devID)
      (Run.run operate m' (founds.map .checkForUnpluggedDevices)) := by
  induction founds generalizing m' there with
  | nil => exact h.congr fun a => by simp [SeenIn]
  | cons found founds ih =>
    have hstep := h.checkForUnpluggedDevices hsettled found
    have hrun := ih hstep (hsettled.checkForUnpluggedDevices found)
    refine hrun.congr fun a => ?_
    simp only [SeenIn, List.forall_mem_cons, and_assoc]

/-! ### After the sleep -/

/-- The devices that were started and are left are started again; the others stay stopped. -/
lemma Sleeps.resume {there : δ → Prop} (h : Sleeps m there m') (hsettled : m.Settled)
    (hsettled' : m'.Settled) :
    let resumed := m'.startSleepingDevices fun _ => .opened
    (∀ a, there a → resumed.startedDevices[a]? = m.startedDevices[a]? ∧
      resumed.stoppedDevices[a]? = m.stoppedDevices[a]?) ∧
      ∀ a, ¬ there a → resumed.startedDevices[a]? = none ∧ resumed.stoppedDevices[a]? = none := by
  intro resumed
  have hstarts : StartsAll m'.sleepingDevices m' (m'.sleepingDevices.foldl
      (fun m devID => (m.startDevice devID .opened).1) m') := startsAll_foldl hsettled'.stopped
  have hstarted : ∀ a, resumed.startedDevices[a]? = if a ∈ m.startedDevices.keys
      then m'.stoppedDevices[a]?.or m'.startedDevices[a]? else m'.startedDevices[a]? := by
    rw [← h.sleeping]
    exact hstarts.started
  have hstopped : ∀ a, resumed.stoppedDevices[a]? =
      if a ∈ m.startedDevices.keys then none else m'.stoppedDevices[a]? := by
    rw [← h.sleeping]
    exact hstarts.stopped
  refine ⟨fun a hthere => ⟨(hstarted a).trans ?_, (hstopped a).trans ?_⟩,
    fun a hnot => ⟨(hstarted a).trans ?_, (hstopped a).trans ?_⟩⟩
  · rw [h.left a hthere, h.started, Option.or_none]
    split_ifs with ha
    · obtain ⟨det, hdet⟩ := Option.isSome_iff_exists.mp (mem_keys.mp ha)
      rw [knownDevice_of_started hdet, hdet]
    · rw [mem_keys, Option.not_isSome_iff_eq_none] at ha
      exact ha.symm
  · split_ifs with ha
    · exact (hsettled.apart a (mem_keys.mp ha)).symm
    · rw [mem_keys, Option.not_isSome_iff_eq_none] at ha
      rw [h.left a hthere, knownDevice_of_not_started ha]
  · rw [h.gone a hnot, h.started, Option.or_none, ite_self]
  · rw [h.gone a hnot, ite_self]

/-- In any state that the manager reaches, a suspend and a resume where all devices open lead back.
In between no device is started. When devices are unplugged then, exactly those that are known still
are as before. -/
theorem suspend_resume (drivers : List (KeyboardDriver δ)) (operations : List (ManagerOperation δ))
    (founds : List (List (USBDeviceID δ))) :
    let m := Run.run operate { drivers := drivers } operations
    let suspended := m.stopInitializedDevices
    let resumed := suspended.startSleepingDevices fun _ => .opened
    let unplugged := Run.run operate suspended (founds.map .checkForUnpluggedDevices)
    let resumedLater := unplugged.startSleepingDevices fun _ => .opened
    ((∀ devID : δ, suspended.startedDevices[devID]? = none) ∧
      suspended.sleepingDevices = m.startedDevices.keys) ∧
    (resumed.startedDevices = m.startedDevices ∧ resumed.stoppedDevices = m.stoppedDevices ∧
      resumed.sleepingDevices = []) ∧
    (∀ devID, (unplugged.knownDevice devID).isSome ↔
      (m.knownDevice devID).isSome ∧ m.SeenIn founds devID) ∧
    (∀ devID, resumedLater.startedDevices[devID]? =
      if (unplugged.knownDevice devID).isSome then m.startedDevices[devID]? else none) ∧
    (∀ devID, resumedLater.stoppedDevices[devID]? =
      if (unplugged.knownDevice devID).isSome then m.stoppedDevices[devID]? else none) ∧
    (∀ devID, m.stoppedDevices.contains devID → ¬ resumedLater.startedDevices.contains devID) ∧
    resumedLater.sleepingDevices = [] := by
  intro m suspended resumed unplugged resumedLater
  have hsettled : m.Settled := settled_run drivers operations
  have hsuspended : suspended.Settled := hsettled.refiles (refiles_stopInitializedDevices m)
  have hsleeps := sleeps_stopInitializedDevices hsettled
  have hrun := hsleeps.run hsuspended founds
  have hunplugged : unplugged.Settled :=
    (Run.steps_true _).induction hsuspended fun _ operation h _ => h.operate operation
  obtain ⟨hback, -⟩ := hsleeps.resume hsettled hsuspended
  obtain ⟨hleft, hgone⟩ := hrun.resume hsettled hunplugged
  have hknown : ∀ devID, unplugged.knownDevice devID = unplugged.stoppedDevices[devID]? :=
    fun devID => knownDevice_of_not_started (hrun.started devID)
  have hstill : ∀ devID, (unplugged.knownDevice devID).isSome ↔
      (m.knownDevice devID).isSome ∧ m.SeenIn founds devID := by
    intro devID
    rw [hknown]
    by_cases hseen : m.SeenIn founds devID
    · rw [hrun.left devID ⟨trivial, hseen⟩, and_iff_left hseen]
    · rw [hrun.gone devID fun h => hseen h.2]
      simp [hseen]
  refine ⟨⟨hsleeps.started, hsleeps.sleeping⟩, ⟨?_, ?_, rfl⟩, hstill, fun devID => ?_,
    fun devID => ?_, fun devID hstopped => ?_, rfl⟩
  · exact Std.ExtTreeMap.ext_getElem? fun devID => (hback devID trivial).1
  · exact Std.ExtTreeMap.ext_getElem? fun devID => (hback devID trivial).2
  · by_cases hseen : m.SeenIn founds devID
    · rw [(hleft devID ⟨trivial, hseen⟩).1]
      split_ifs with hsome
      · rfl
      · exact (not_known fun hknown => hsome ((hstill devID).mpr ⟨hknown, hseen⟩)).1
    · rw [(hgone devID fun h => hseen h.2).1, if_neg fun hsome => hseen ((hstill devID).mp hsome).2]
  · by_cases hseen : m.SeenIn founds devID
    · rw [(hleft devID ⟨trivial, hseen⟩).2]
      split_ifs with hsome
      · rfl
      · exact (not_known fun hknown => hsome ((hstill devID).mpr ⟨hknown, hseen⟩)).2
    · rw [(hgone devID fun h => hseen h.2).2, if_neg fun hsome => hseen ((hstill devID).mp hsome).2]
  · rw [Std.ExtTreeMap.contains_eq_isSome_getElem?] at hstopped ⊢
    by_cases hseen : m.SeenIn founds devID
    · rw [(hleft devID ⟨trivial, hseen⟩).1]
      intro hstarted
      rw [hsettled.apart devID hstarted] at hstopped
      cases hstopped
    · rw [(hgone devID fun h => hseen h.2).1]
      exact Bool.false_ne_true

end DevicesManager

end GLogiK
