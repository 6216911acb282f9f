import GLogiK.Daemon.Unplugged

/-!
# The containers, with any drivers

In every state that the devices manager can reach, whatever drivers it has loaded, no device is
both started and stopped, and a driver of each device is loaded.
-/

namespace GLogiK

variable {δ : Type*} [LinearOrder δ]

namespace DevicesManager

/-- No device is both started and stopped, and of each device a driver is loaded. -/
structure WellFiled (m : DevicesManager δ) : Prop where
  apart : ∀ devID : δ, m.startedDevices[devID]?.isSome → m.stoppedDevices[devID]? = none
  started : m.StartedLoaded
  stopped : ∀ (devID : δ) (det : USBDeviceID δ), m.stoppedDevices[devID]? = some det →
    m.Loaded det

/-- From `m` to `m'` devices that were well filed have stayed so. -/
structure Refiles (m m' : DevicesManager δ) : Prop where
  driverIDs : m'.drivers.map (·.driverID) = m.drivers.map (·.driverID)
  detected : m'.detectedDevices = m.detectedDevices
  filed : m.WellFiled → m'.WellFiled

variable {m m' m'' : DevicesManager δ} {devID : δ} {det : USBDeviceID δ} {ids : List δ}

/-! ### What keeps the devices well filed -/

lemma Refiles.refl (m : DevicesManager δ) : Refiles m m := ⟨rfl, rfl, id⟩

lemma Refiles.trans (h : Refiles m m') (h' : Refiles m' m'') : Refiles m m'' :=
  ⟨h'.driverIDs.trans h.driverIDs, h'.detected.trans h.detected, h'.filed ∘ h.filed⟩

/-- Each device of `m'` was a device of `m`, or a driver of it is loaded. -/
lemma Refiles.of_files (hids : m'.drivers.map (·.driverID) = m.drivers.map (·.driverID))
    (hdetected : m'.detectedDevices = m.detectedDevices)
    (hapart : m.WellFiled → ∀ devID : δ, m'.startedDevices[devID]?.isSome →
      m'.stoppedDevices[devID]? = none)
    (hdevices : m.WellFiled → ∀ (devID : δ) (det : USBDeviceID δ),
      m'.startedDevices[devID]? = some det ∨ m'.stoppedDevices[devID]? = some det →
      m.startedDevices[devID]? = some det ∨ m.stoppedDevices[devID]? = some det ∨ m.Loaded det) :
    Refiles m m' := by
  refine ⟨hids, hdetected, fun h => ?_⟩
  have hloaded : ∀ (devID : δ) (det : USBDeviceID δ),
      m'.startedDevices[devID]? = some det ∨ m'.stoppedDevices[devID]? = some det →
      m'.Loaded det := by
    intro devID det hdet
    rw [loaded_iff, hids, ← loaded_iff]
    rcases hdevices h devID det hdet with hstarted | hstopped | hloaded
    · exact h.started devID det hstarted
    · exact h.stopped devID det hstopped
    · exact hloaded
  exact ⟨hapart h, fun devID det hdet => hloaded devID det (Or.inl hdet),
    fun devID det hdet => hloaded devID det (Or.inr hdet)⟩

lemma Refiles.of_sameFiles (hids : m'.drivers.map (·.driverID) = m.drivers.map (·.driverID))
    (hdetected : m'.detectedDevices = m.detectedDevices) (hfiles : SameFiles m m') :
    Refiles m m' := by
  apply Refiles.of_files hids hdetected
  · intro h devID hstarted
    rw [hfiles.started] at hstarted
    rw [hfiles.stopped]
    exact h.apart devID hstarted
  · intro h devID det hdet
    rw [hfiles.started, hfiles.stopped] at hdet
    exact or_assoc.mp (Or.inl hdet)

lemma DriversWork.refiles (h : DriversWork m m') (hfiles : SameFiles m m') : Refiles m m' :=
  .of_sameFiles h.driverIDs h.detected hfiles

/-- The device goes to another container. -/
lemma StopsTo.refiles (hdet : m.startedDevices[devID]? = some det)
    (hstops : StopsTo m devID det m') : Refiles m m' := by
  apply Refiles.of_files hstops.work.driverIDs hstops.work.detected
  · intro h a hstarted
    rw [hstops.started, getElem?_erase_eq] at hstarted
    rw [hstops.stopped, getElem?_insert_eq]
    split_ifs at hstarted ⊢
    · cases hstarted
    · exact h.apart a hstarted
  · intro h a det' hdet'
    rw [hstops.started, hstops.stopped, getElem?_erase_eq, getElem?_insert_eq] at hdet'
    split_ifs at hdet' with ha
    · rcases hdet' with hnone | hsome
      · cases hnone
      · rw [ha, hdet]
        exact Or.inl hsome
    · exact or_assoc.mp (Or.inl hdet')

lemma StartsTo.refiles (hdet : m.stoppedDevices[devID]? = some det)
    (hstarts : StartsTo m devID det m') : Refiles m m' := by
  apply Refiles.of_files hstarts.work.driverIDs hstarts.work.detected
  · intro h a hstarted
    rw [hstarts.started, getElem?_insert_eq] at hstarted
    rw [hstarts.stopped, getElem?_erase_eq]
    split_ifs at hstarted ⊢
    · rfl
    · exact h.apart a hstarted
  · intro h a det' hdet'
    rw [hstarts.started, hstarts.stopped, getElem?_erase_eq, getElem?_insert_eq] at hdet'
    split_ifs at hdet' with ha
    · rcases hdet' with hsome | hnone
      · rw [ha, hdet]
        exact Or.inr (Or.inl hsome)
      · cases hnone
    · exact or_assoc.mp (Or.inl hdet')

/-! ### Loops -/

section

variable {σ β : Type*} (manager : σ → DevicesManager δ)

lemma refiles_foldl {body : σ → β → σ} (hbody : ∀ s b, Refiles (manager s) (manager (body s b)))
    (bs : List β) (s : σ) : Refiles (manager s) (manager (bs.foldl body s)) := by
  induction bs generalizing s with
  | nil => exact .refl _
  | cons b bs ih => exact (hbody s b).trans (ih (body s b))

lemma refiles_foldlM {body : σ → β → Option σ}
    (hbody : ∀ s b s', body s b = some s' → Refiles (manager s) (manager s')) (bs : List β)
    (s s' : σ) (h : bs.foldlM body s = some s') : Refiles (manager s) (manager s') := by
  induction bs generalizing s with
  | nil =>
    cases h
    exact .refl _
  | cons b bs ih =>
    rw [List.foldlM_cons] at h
    obtain ⟨s₁, hstep, hloop⟩ := Option.bind_eq_some_iff.mp h
    exact (hbody s b s₁ hstep).trans (ih s₁ hloop)

end

/-! ### The operations -/

lemma refiles_stopDevice (m : DevicesManager δ) (devID : δ) :
    Refiles m (m.stopDevice devID).1 := by
  rcases m.stopDevice_cases devID with hfail | ⟨det, m', hdet, -, hstop, hstops⟩
  · rw [hfail]
    exact .refl m
  · rw [hstop]
    exact hstops.refiles hdet

lemma refiles_startDevice (m : DevicesManager δ) (devID : δ) (result : OpenResult) :
    Refiles m (m.startDevice devID result).1 := by
  rcases m.startDevice_cases devID result with
    ⟨m', hfail, hwork, hfiles⟩ | ⟨det, m', hdet, -, hstart, hstarts⟩
  · rw [hfail]
    exact hwork.refiles hfiles
  · rw [hstart]
    exact hstarts.refiles hdet

/-- A device that is in no container is started. -/
lemma refiles_insertStarted (hstopped : m.stoppedDevices[devID]? = none) (hloaded : m.Loaded det) :
    Refiles m { m with startedDevices := m.startedDevices.insert devID det } := by
  refine Refiles.of_files rfl rfl ?_ ?_
  · intro h a hsome
    rw [getElem?_insert_eq] at hsome
    split_ifs at hsome with ha
    · exact ha ▸ hstopped
    · exact h.apart a hsome
  · intro h a det' hdet
    rw [getElem?_insert_eq] at hdet
    split_ifs at hdet with ha
    · rcases hdet with hsome | hdet
      · cases hsome
        exact Or.inr (Or.inr hloaded)
      · exact Or.inr (Or.inl hdet)
    · exact or_assoc.mp (Or.inl hdet)

/-- A device that is in no container is stopped. -/
lemma refiles_insertStopped (hstarted : m.startedDevices[devID]? = none) (hloaded : m.Loaded det) :
    Refiles m { m with stoppedDevices := m.stoppedDevices.insert devID det } := by
  refine Refiles.of_files rfl rfl ?_ ?_
  · intro h a hsome
    rw [getElem?_insert_eq, if_neg ?_]
    · exact h.apart a hsome
    · rintro rfl
      rw [hstarted] at hsome
      cases hsome
  · intro h a det' hdet
    rw [getElem?_insert_eq] at hdet
    split_ifs at hdet with ha
    · rcases hdet with hdet | hsome
      · exact Or.inl hdet
      · cases hsome
        exact Or.inr (Or.inr hloaded)
    · exact or_assoc.mp (Or.inl hdet)

/-- A device is taken out of the stopped ones. -/
lemma refiles_unplug (m : DevicesManager δ) (devID : δ) (unplugged : StdMap δ (USBDeviceID δ)) :
    Refiles m { m with
      unpluggedDevices := unplugged
      stoppedDevices := m.stoppedDevices.erase devID } := by
  refine Refiles.of_files rfl rfl ?_ ?_
  · intro h a hsome
    rw [getElem?_erase_eq, h.apart a hsome, ite_self]
  · intro h a det' hdet
    rw [getElem?_erase_eq] at hdet
    split_ifs at hdet
    · rcases hdet with hdet | hnone
      · exact Or.inl hdet
      · cases hnone
    · exact or_assoc.mp (Or.inl hdet)

lemma refiles_initializeDetected (openDevices : Bool) (opens : δ → OpenResult)
    (r : DevicesManager δ × List δ) (entry : δ × USBDeviceID δ) :
    Refiles r.1 (initializeDetected openDevices opens r entry).1 := by
  by_cases hknown : r.1.startedDevices.contains entry.1 || r.1.stoppedDevices.contains entry.1
  · rw [initializeDetected, if_pos hknown]
    exact .refl r.1
  rw [initializeDetected, if_neg hknown]
  rw [Bool.not_eq_true, Bool.or_eq_false_iff, Std.ExtTreeMap.contains_eq_isSome_getElem?,
    Std.ExtTreeMap.contains_eq_isSome_getElem?, Option.isSome_eq_false_iff,
    Option.isSome_eq_false_iff, Option.isNone_iff_eq_none, Option.isNone_iff_eq_none] at hknown
  obtain ⟨hstarted, hstopped⟩ := hknown
  rcases r.1.initializeWithDriver_cases entry.2 openDevices (opens entry.1) with
    ⟨-, hinit⟩ | ⟨m', opened, hloaded, hinit, -, hwork, hfiles⟩
  · rw [hinit]
    exact .refl r.1
  · rw [hinit]
    rw [← hwork.loaded] at hloaded
    cases opened with
    | false => exact hwork.refiles hfiles
    | true =>
      apply (hwork.refiles hfiles).trans
      cases openDevices with
      | true =>
        rw [← hfiles.stopped] at hstopped
        exact refiles_insertStarted hstopped hloaded
      | false =>
        rw [← hfiles.started] at hstarted
        exact refiles_insertStopped hstarted hloaded

lemma refiles_unplugStarted (r : DevicesManager δ × List δ) (devID : δ) :
    Refiles r.1 (unplugStarted r devID).1 := by
  have hstop := refiles_stopDevice r.1 devID
  rw [unplugStarted]
  generalize r.1.stopDevice devID = stop at hstop ⊢
  rcases stop with ⟨m', stopped⟩
  cases stopped with
  | false => exact hstop
  | true =>
    cases hdet : m'.stoppedDevices[devID]? with
    | none =>
      simp only [hdet]
      exact hstop
    | some det =>
      simp only [hdet]
      exact hstop.trans (refiles_unplug m' devID _)

lemma refiles_unplugStopped (r : DevicesManager δ × List δ) (devID : δ) :
    Refiles r.1 (unplugStopped r devID).1 := by
  rw [unplugStopped]
  cases r.1.stoppedDevices[devID]? with
  | none => exact .refl r.1
  | some det => exact refiles_unplug r.1 devID _

lemma refiles_checkThreadsOfDriver (devID : δ) (r : DevicesManager δ × List δ) (index : ℕ)
    (r' : DevicesManager δ × List δ) (h : checkThreadsOfDriver devID r index = some r') :
    Refiles r.1 r'.1 := by
  rw [checkThreadsOfDriver] at h
  cases hdet : r.1.startedDevices[devID]? with
  | none =>
    simp only [hdet] at h
    cases h
  | some det =>
    cases hdriver : r.1.drivers[index]? with
    | none =>
      simp only [hdet, hdriver] at h
      cases h
      exact .refl r.1
    | some driver =>
      simp only [hdet, hdriver] at h
      split_ifs at h
      · cases h
        exact refiles_stopDevice r.1 devID
      · cases h
        exact .refl r.1

/-- What holds between the operations. -/
structure Settled (m : DevicesManager δ) : Prop extends WellFiled m where
  detected : m.detectedDevices = ∅

lemma Settled.refiles (h : m.Settled) (hrefiles : Refiles m m') : m'.Settled :=
  { hrefiles.filed h.toWellFiled with detected := hrefiles.detected.trans h.detected }

/-- The operations that begin with `searchSupportedDevices` forget the devices at their end. -/
lemma Settled.of_search {found : List (USBDeviceID δ)} (h : m.Settled)
    (hrefiles : Refiles (m.searchSupportedDevices found) m'')
    (hids : m'.drivers.map (·.driverID) = m''.drivers.map (·.driverID)) (hfiles : SameFiles m'' m')
    (hdetected : m'.detectedDevices = ∅) : m'.Settled := by
  have hsearch : (m.searchSupportedDevices found).WellFiled := ⟨h.apart, h.started, h.stopped⟩
  have hfiled := hrefiles.filed hsearch
  have hdone : Refiles m'' { m' with detectedDevices := m''.detectedDevices } :=
    .of_sameFiles hids rfl ⟨hfiles.started, hfiles.stopped, hfiles.unplugged⟩
  obtain ⟨hapart, hstarted, hstopped⟩ := hdone.filed hfiled
  exact ⟨⟨hapart, hstarted, hstopped⟩, hdetected⟩

lemma Settled.initializeDevices (h : m.Settled) (found : List (USBDeviceID δ))
    (openDevices : Bool) (opens : δ → OpenResult) :
    ((m.searchSupportedDevices found).initializeDevices openDevices opens).Settled := by
  refine h.of_search (refiles_foldl Prod.fst (refiles_initializeDetected openDevices opens)
    (m.searchSupportedDevices found).detectedDevices.toList (m.searchSupportedDevices found, []))
    ?_ ?_ rfl
  · rw [DevicesManager.initializeDevices]
    split_ifs <;> rfl
  · rw [DevicesManager.initializeDevices]
    split_ifs <;> exact ⟨rfl, rfl, rfl⟩

lemma Settled.checkForUnpluggedDevices (h : m.Settled) (found : List (USBDeviceID δ)) :
    (m.searchSupportedDevices found).checkForUnpluggedDevices.Settled := by
  have hfirst := refiles_foldl Prod.fst refiles_unplugStarted
    (m.searchSupportedDevices found).goneStarted (m.searchSupportedDevices found, [])
  refine h.of_search (hfirst.trans (refiles_foldl Prod.fst refiles_unplugStopped
    (((m.searchSupportedDevices found).goneStarted.foldl unplugStarted
      (m.searchSupportedDevices found, [])).1).goneStopped _)) ?_ ?_ ?_
  · rw [DevicesManager.checkForUnpluggedDevices]
    split_ifs <;> rfl
  · rw [DevicesManager.checkForUnpluggedDevices]
    split_ifs <;> exact ⟨rfl, rfl, rfl⟩
  · rw [DevicesManager.checkForUnpluggedDevices]
    split_ifs <;> rfl

/-- The last loop of a suspend has left no started device. -/
lemma refiles_stopInitializedDevices (m : DevicesManager δ) :
    Refiles m m.stopInitializedDevices := by
  have hsleep : Refiles m { m with sleepingDevices := m.startedDevices.keys } :=
    .of_sameFiles rfl rfl ⟨rfl, rfl, rfl⟩
  refine (hsleep.trans (refiles_foldl id (fun m devID => refiles_stopDevice m devID)
    m.startedDevices.keys _)).trans ?_
  have hnone : ∀ devID : δ, m.stopInitializedDevices.startedDevices[devID]? = none :=
    fun devID => Std.ExtTreeMap.getElem?_empty
  refine Refiles.of_files rfl rfl ?_ ?_
  · intro h devID hsome
    rw [hnone] at hsome
    cases hsome
  · rintro h devID det (hstarted | hstopped)
    · rw [hnone] at hstarted
      cases hstarted
    · exact Or.inr (Or.inl hstopped)

lemma refiles_startSleepingDevices (m : DevicesManager δ) (opens : δ → OpenResult) :
    Refiles m (m.startSleepingDevices opens) := by
  refine (refiles_foldl id (fun m devID => refiles_startDevice m devID (opens devID))
    m.sleepingDevices m).trans ?_
  exact .of_sameFiles rfl rfl ⟨rfl, rfl, rfl⟩

lemma refiles_checkInitializedDevicesThreadsStatus (m : DevicesManager δ) :
    Refiles m (m.checkInitializedDevicesThreadsStatus.getD m) := by
  rw [checkInitializedDevicesThreadsStatus]
  cases hloop : m.startedDevices.keys.foldlM checkThreadsOfDevice (m, []) with
  | none => exact .refl m
  | some r =>
    have hdevice : ∀ (r : DevicesManager δ × List δ) (devID : δ) (r' : DevicesManager δ × List δ),
        checkThreadsOfDevice r devID = some r' → Refiles r.1 r'.1 := fun r devID =>
      refiles_foldlM Prod.fst (refiles_checkThreadsOfDriver devID) _ r
    apply (refiles_foldlM Prod.fst hdevice m.startedDevices.keys (m, []) r hloop).trans
    rw [Option.map_some, Option.getD_some]
    split_ifs
    · exact .refl r.1
    · exact .of_sameFiles rfl rfl ⟨rfl, rfl, rfl⟩

/-- A driver that works keeps its ID. -/
lemma map_driverID_of_firstDriver {ρ : Type*} {driverID : UInt16}
    {op : KeyboardDriver δ → KeyboardDriver δ × ρ} {drivers : List (KeyboardDriver δ)}
    {r : List (KeyboardDriver δ) × ρ} (hop : ∀ driver, (op driver).1.driverID = driver.driverID)
    (h : firstDriver driverID op drivers = some r) :
    r.1.map (·.driverID) = drivers.map (·.driverID) := by
  rcases firstDriver_cases driverID op drivers with
    ⟨-, hnone⟩ | ⟨u, driver, v, hdrivers, -, hsome⟩
  · rw [hnone] at h
    cases h
  · rw [hsome] at h
    cases h
    rw [hdrivers, List.map_append, List.map_append, List.map_cons, List.map_cons, hop]

lemma refiles_setDeviceActiveConfiguration (m : DevicesManager δ) (devID : δ) (c : RGBBytes)
    (LCDPluginsMask1 : UInt64) :
    Refiles m (m.setDeviceActiveConfiguration devID c LCDPluginsMask1) := by
  rw [setDeviceActiveConfiguration]
  cases m.startedDevices[devID]? with
  | none => exact .refl m
  | some det =>
    let op : KeyboardDriver δ → KeyboardDriver δ × Unit := fun driver =>
      (driver.setDeviceActiveConfiguration devID c LCDPluginsMask1, ())
    cases hfirst : firstDriver det.driverID op m.drivers with
    | none =>
      simp only [op] at hfirst
      simp only [hfirst]
      exact .refl m
    | some r =>
      have hids := map_driverID_of_firstDriver (fun driver : KeyboardDriver δ =>
        KeyboardDriver.setDeviceActiveConfiguration_driverID devID c LCDPluginsMask1) hfirst
      simp only [op] at hfirst
      simp only [hfirst]
      exact .of_sameFiles hids rfl ⟨rfl, rfl, rfl⟩

lemma refiles_runThread (m : DevicesManager δ) (devID : δ)
    (op : USBDevice δ → USBDevice δ × List (DeviceSignal δ)) :
    Refiles m (m.runThread devID op) := by
  rw [runThread]
  cases m.startedDevices[devID]? with
  | none => exact .refl m
  | some det =>
    cases hfirst : firstDriver det.driverID (·.runThread devID op) m.drivers with
    | none =>
      simp only [hfirst]
      exact .refl m
    | some r =>
      have hids := map_driverID_of_firstDriver (fun driver : KeyboardDriver δ =>
        KeyboardDriver.runThread_driverID devID op) hfirst
      simp only [hfirst]
      exact .of_sameFiles hids rfl ⟨rfl, rfl, rfl⟩

lemma refiles_resetDevicesStates (m : DevicesManager δ) : Refiles m m.resetDevicesStates := by
  rw [resetDevicesStates_eq]
  refine refiles_foldl id (fun m det => ?_) m.startedDevices.toList m
  refine .of_sameFiles ?_ rfl ⟨rfl, rfl, rfl⟩
  rw [id, id, resetStarted, List.map_map]
  refine List.map_congr_left fun driver _ => ?_
  rw [Function.comp_apply]
  split_ifs
  · exact KeyboardDriver.resetDeviceState_driverID det.2.devID
  · rfl

lemma Settled.operate (h : m.Settled) (operation : ManagerOperation δ) :
    (m.operate operation).Settled := by
  cases operation with
  | initializeDevices found openDevices opens => exact h.initializeDevices found openDevices opens
  | startDevice devID result => exact h.refiles (refiles_startDevice m devID result)
  | stopDevice devID => exact h.refiles (refiles_stopDevice m devID)
  | stopInitializedDevices => exact h.refiles (refiles_stopInitializedDevices m)
  | startSleepingDevices opens => exact h.refiles (refiles_startSleepingDevices m opens)
  | checkForUnpluggedDevices found => exact h.checkForUnpluggedDevices found
  | checkInitializedDevicesThreadsStatus =>
    exact h.refiles (refiles_checkInitializedDevicesThreadsStatus m)
  | resetDevicesStates => exact h.refiles (refiles_resetDevicesStates m)
  | setDeviceActiveConfiguration devID c mask =>
    exact h.refiles (refiles_setDeviceActiveConfiguration m devID c mask)
  | keysTurn devID turn => exact h.refiles (refiles_runThread m devID _)
  | stopThreads devID => exact h.refiles (refiles_runThread m devID _)

lemma settled_loaded (drivers : List (KeyboardDriver δ)) :
    ({ drivers := drivers } : DevicesManager δ).Settled := by
  refine ⟨⟨?_, ?_, ?_⟩, rfl⟩
  · exact fun devID _ => Std.ExtTreeMap.getElem?_empty
  · intro devID det hdet
    rw [Std.ExtTreeMap.getElem?_empty] at hdet
    cases hdet
  · intro devID det hdet
    rw [Std.ExtTreeMap.getElem?_empty] at hdet
    cases hdet

/-- Whatever the drivers, and whatever was done. -/
lemma settled_run (drivers : List (KeyboardDriver δ)) (operations : List (ManagerOperation δ)) :
    (Run.run operate { drivers := drivers } operations).Settled :=
  (Run.steps_true operations).induction (settled_loaded drivers)
    fun _ operation h _ => h.operate operation

end DevicesManager

end GLogiK
