import GLogiK.Daemon.Containers

/-!
# Several drivers

The devices manager with any number of drivers. To start or stop a device, its driver is called,
and the device is filed in another container; all else that happens is that drivers work and
broadcast signals of devices.
-/

namespace GLogiK

variable {δ : Type*} [LinearOrder δ]

/-- Either no driver has the ID, or the loop leaves at the first one that has. -/
lemma firstDriver_cases {ρ : Type*} (driverID : UInt16)
    (op : KeyboardDriver δ → KeyboardDriver δ × ρ) (drivers : List (KeyboardDriver δ)) :
    ((∀ driver ∈ drivers, driver.driverID ≠ driverID) ∧ firstDriver driverID op drivers = none) ∨
      ∃ u driver v, drivers = u ++ driver :: v ∧ driver.driverID = driverID ∧
        firstDriver driverID op drivers = some (u ++ (op driver).1 :: v, (op driver).2) := by
  induction drivers with
  | nil => exact Or.inl ⟨List.forall_mem_nil _, rfl⟩
  | cons driver drivers ih =>
    by_cases hid : driver.driverID = driverID
    · refine Or.inr ⟨[], driver, drivers, rfl, hid, ?_⟩
      rw [firstDriver, if_pos hid]
      rfl
    · rcases ih with ⟨hnone, hfirst⟩ | ⟨u, driver', v, rfl, hid', hfirst⟩
      · refine Or.inl ⟨List.forall_mem_cons.mpr ⟨hid, hnone⟩, ?_⟩
        rw [firstDriver, if_neg hid, hfirst, Option.map_none]
      · refine Or.inr ⟨driver :: u, driver', v, rfl, hid', ?_⟩
        rw [firstDriver, if_neg hid, hfirst, Option.map_some]
        rfl

lemma KeyboardDriver.openDevice_driverID (driver : KeyboardDriver δ) (det : USBDeviceID δ)
    (result : OpenResult) : (driver.openDevice det result).1.driverID = driver.driverID := by
  rw [openDevice]
  cases driver.initializedDevices[det.devID]? with
  | none => rfl
  | some device =>
    cases result with
    | spawnFails => exact closeDevice_driverID det
    | _ => rfl

/-- A device that was initialized opens when the system lets it. -/
lemma KeyboardDriver.openDevice_opened (driver : KeyboardDriver δ) (det : USBDeviceID δ) :
    ((driver.initializeDevice det).openDevice det .opened).2.2 = true := by
  have hheld : (driver.initializeDevice det).initializedDevices[det.devID]? =
      some (driver.initializedDevices[det.devID]?.getD (newUSBDevice det)) := by
    rw [initializeDevice_held, if_pos rfl]
  simp only [openDevice, hheld]

namespace DevicesManager

/-- A driver of the device is loaded. -/
def Loaded (m : DevicesManager δ) (det : USBDeviceID δ) : Prop :=
  ∃ driver ∈ m.drivers, driver.driverID = det.driverID

/-- From `m` to `m'` drivers have worked, which keep their IDs and broadcast signals. The
containers of the devices are left open. -/
structure DriversWork (m m' : DevicesManager δ) : Prop where
  driverIDs : m'.drivers.map (·.driverID) = m.drivers.map (·.driverID)
  detected : m'.detectedDevices = m.detectedDevices
  sleeping : m'.sleepingDevices = m.sleepingDevices
  numClients : m'.numClients = m.numClients
  sent : ∃ signals : List (DeviceSignal δ), m'.sent = m.sent ++ signals.map .device

/-- The devices are filed as before. -/
structure SameFiles (m m' : DevicesManager δ) : Prop where
  started : m'.startedDevices = m.startedDevices
  stopped : m'.stoppedDevices = m.stoppedDevices
  unplugged : m'.unpluggedDevices = m.unpluggedDevices

variable {m m' m'' : DevicesManager δ} {devID : δ} {det : USBDeviceID δ}

lemma loaded_iff : m.Loaded det ↔ det.driverID ∈ m.drivers.map (·.driverID) := by
  rw [Loaded, List.mem_map]

lemma DriversWork.refl (m : DevicesManager δ) : DriversWork m m :=
  ⟨rfl, rfl, rfl, rfl, [], (List.append_nil _).symm⟩

lemma DriversWork.trans (h : DriversWork m m') (h' : DriversWork m' m'') : DriversWork m m'' := by
  obtain ⟨signals, hsent⟩ := h.sent
  obtain ⟨signals', hsent'⟩ := h'.sent
  refine ⟨h'.driverIDs.trans h.driverIDs, h'.detected.trans h.detected,
    h'.sleeping.trans h.sleeping, h'.numClients.trans h.numClients, signals ++ signals', ?_⟩
  rw [hsent', hsent, List.append_assoc, List.map_append]

/-- Devices may be filed anew. -/
lemma DriversWork.refile (h : DriversWork m m') (s t u : StdMap δ (USBDeviceID δ)) :
    DriversWork m { m' with startedDevices := s, stoppedDevices := t, unpluggedDevices := u } :=
  ⟨h.driverIDs, h.detected, h.sleeping, h.numClients, h.sent⟩

lemma DriversWork.loaded (h : DriversWork m m') : m'.Loaded det ↔ m.Loaded det := by
  rw [loaded_iff, loaded_iff, h.driverIDs]

lemma SameFiles.refl (m : DevicesManager δ) : SameFiles m m := ⟨rfl, rfl, rfl⟩

/-- One driver has worked. -/
lemma driversWork_of_driver {u v : List (KeyboardDriver δ)} {driver driver' : KeyboardDriver δ}
    (hdrivers : m.drivers = u ++ driver :: v) (hid : driver'.driverID = driver.driverID)
    (signals : List (DeviceSignal δ)) :
    DriversWork m { m with
      drivers := u ++ driver' :: v
      sent := m.sent ++ signals.map .device } := by
  refine ⟨?_, rfl, rfl, rfl, signals, rfl⟩
  rw [hdrivers, List.map_append, List.map_append, List.map_cons, List.map_cons, hid]

/-! ### Stopping a device -/

lemma closeWithDriver_cases (m : DevicesManager δ) (det : USBDeviceID δ) :
    (¬ m.Loaded det ∧ m.closeWithDriver det = none) ∨
      ∃ m', m.Loaded det ∧ m.closeWithDriver det = some m' ∧ DriversWork m m' ∧ SameFiles m m' := by
  rcases firstDriver_cases det.driverID (·.closeDevice det) m.drivers with
    ⟨hnone, hfirst⟩ | ⟨u, driver, v, hdrivers, hid, hfirst⟩
  · refine Or.inl ⟨fun ⟨driver, hmem, hid⟩ => hnone driver hmem hid, ?_⟩
    rw [closeWithDriver, hfirst, Option.map_none]
  · refine Or.inr ⟨_, ⟨driver, by simp [hdrivers], hid⟩, ?_,
      driversWork_of_driver hdrivers (KeyboardDriver.closeDevice_driverID det)
        (driver.closeDevice det).2, ⟨rfl, rfl, rfl⟩⟩
    rw [closeWithDriver, hfirst, Option.map_some]
    rfl

/-- The device was stopped. -/
structure StopsTo (m : DevicesManager δ) (devID : δ) (det : USBDeviceID δ)
    (m' : DevicesManager δ) : Prop where
  work : DriversWork m m'
  started : m'.startedDevices = m.startedDevices.erase devID
  stopped : m'.stoppedDevices = m.stoppedDevices.insert devID det
  unplugged : m'.unpluggedDevices = m.unpluggedDevices

/-- A device is stopped just when it is started and a driver of it is loaded. -/
lemma stopDevice_cases (m : DevicesManager δ) (devID : δ) :
    m.stopDevice devID = (m, false) ∨
      ∃ det m', m.startedDevices[devID]? = some det ∧ m.Loaded det ∧
        m.stopDevice devID = (m', true) ∧ StopsTo m devID det m' := by
  cases hdet : m.startedDevices[devID]? with
  | none =>
    left
    simp only [stopDevice, hdet]
  | some det =>
    rcases m.closeWithDriver_cases det with ⟨hnot, hclose⟩ | ⟨m', hloaded, hclose, hwork, hfiles⟩
    · left
      simp only [stopDevice, hdet, hclose]
    · let m'' := { m' with
        stoppedDevices := m'.stoppedDevices.insert devID det
        startedDevices := m'.startedDevices.erase devID }
      have hstops : StopsTo m devID det m'' :=
        ⟨hwork.refile _ _ _, congrArg (·.erase devID) hfiles.started,
          congrArg (·.insert devID det) hfiles.stopped, hfiles.unplugged⟩
      refine Or.inr ⟨det, m'', rfl, hloaded, ?_, hstops⟩
      simp only [stopDevice, hdet, hclose]
      rfl

lemma stopDevice_of_loaded (hdet : m.startedDevices[devID]? = some det) (hloaded : m.Loaded det) :
    ∃ m', m.stopDevice devID = (m', true) ∧ StopsTo m devID det m' := by
  rcases m.closeWithDriver_cases det with ⟨hnot, -⟩ | ⟨m', -, hclose, -, -⟩
  · exact absurd hloaded hnot
  · rcases m.stopDevice_cases devID with hfail | ⟨det', m', hdet', -, hstop, hstops⟩
    · simp only [stopDevice, hdet, hclose] at hfail
      cases hfail
    · rw [hdet] at hdet'
      cases hdet'
      exact ⟨m', hstop, hstops⟩

/-- The devices of `ids`, all of them started, were stopped. -/
structure StopsAll (ids : List δ) (m m' : DevicesManager δ) : Prop where
  work : DriversWork m m'
  started : ∀ a, m'.startedDevices[a]? = if a ∈ ids then none else m.startedDevices[a]?
  stopped : ∀ a, m'.stoppedDevices[a]? =
    if a ∈ ids then m.startedDevices[a]? else m.stoppedDevices[a]?
  unplugged : m'.unpluggedDevices = m.unpluggedDevices

lemma StopsAll.refl (m : DevicesManager δ) : StopsAll [] m m :=
  ⟨.refl m, fun _ => rfl, fun _ => rfl, rfl⟩

lemma StopsTo.started_of_ne {a : δ} (h : StopsTo m devID det m') (ha : a ≠ devID) :
    m'.startedDevices[a]? = m.startedDevices[a]? := by
  rw [h.started, getElem?_erase_eq, if_neg ha]

/-- One device was stopped, then others. -/
lemma StopsAll.cons {ids : List δ} (hdet : m.startedDevices[devID]? = some det)
    (hstops : StopsTo m devID det m') (hids : devID ∉ ids) (h : StopsAll ids m' m'') :
    StopsAll (devID :: ids) m m'' := by
  refine ⟨hstops.work.trans h.work, fun a => ?_, fun a => ?_,
    h.unplugged.trans hstops.unplugged⟩
  · rw [h.started]
    by_cases ha : a = devID
    · rw [ha, hstops.started, getElem?_erase_eq, if_pos rfl, ite_self, if_pos List.mem_cons_self]
    · rw [hstops.started_of_ne ha]
      simp [ha]
  · rw [h.stopped]
    by_cases ha : a = devID
    · rw [ha, if_neg hids, hstops.stopped, getElem?_insert_eq, if_pos rfl,
        if_pos List.mem_cons_self, hdet]
    · rw [hstops.started_of_ne ha, hstops.stopped, getElem?_insert_eq, if_neg ha]
      simp [ha]

/-! ### Starting a device -/

/-- The driver initializes the device, and opens it when it is asked to. -/
lemma initializeWithDriver_cases (m : DevicesManager δ) (det : USBDeviceID δ) (openDevice : Bool)
    (result : OpenResult) :
    (¬ m.Loaded det ∧ m.initializeWithDriver det openDevice result = none) ∨
      ∃ m' opened, m.Loaded det ∧
        m.initializeWithDriver det openDevice result = some (m', opened) ∧
        (openDevice = false ∨ result = .opened → opened = true) ∧ DriversWork m m' ∧
        SameFiles m m' := by
  cases openDevice with
  | false =>
    rcases firstDriver_cases det.driverID (fun driver : KeyboardDriver δ =>
        (driver.initializeDevice det, ([] : List (DeviceSignal δ)), true)) m.drivers with
      ⟨hnone, hfirst⟩ | ⟨u, driver, v, hdrivers, hid, hfirst⟩
    · refine Or.inl ⟨fun ⟨driver, hmem, hid⟩ => hnone driver hmem hid, ?_⟩
      simp only [initializeWithDriver, Bool.false_eq_true, if_false, hfirst, Option.map_none]
    · refine Or.inr ⟨_, true, ⟨driver, by simp [hdrivers], hid⟩, ?_, fun _ => rfl,
        driversWork_of_driver hdrivers (KeyboardDriver.initializeDevice_driverID det) [],
        ⟨rfl, rfl, rfl⟩⟩
      simp only [initializeWithDriver, Bool.false_eq_true, if_false, hfirst, Option.map_some]
      rfl
  | true =>
    rcases firstDriver_cases det.driverID (fun driver : KeyboardDriver δ =>
        (driver.initializeDevice det).openDevice det result) m.drivers with
      ⟨hnone, hfirst⟩ | ⟨u, driver, v, hdrivers, hid, hfirst⟩
    · refine Or.inl ⟨fun ⟨driver, hmem, hid⟩ => hnone driver hmem hid, ?_⟩
      simp only [initializeWithDriver, if_true, hfirst, Option.map_none]
    · have hkeeps : ((driver.initializeDevice det).openDevice det result).1.driverID =
          driver.driverID := by
        rw [KeyboardDriver.openDevice_driverID, KeyboardDriver.initializeDevice_driverID]
      refine Or.inr ⟨_, ((driver.initializeDevice det).openDevice det result).2.2,
        ⟨driver, by simp [hdrivers], hid⟩, ?_, ?_, driversWork_of_driver hdrivers hkeeps
          ((driver.initializeDevice det).openDevice det result).2.1, ⟨rfl, rfl, rfl⟩⟩
      · simp only [initializeWithDriver, if_true, hfirst, Option.map_some]
        rfl
      · rintro (hfalse | rfl)
        · cases hfalse
        · exact driver.openDevice_opened det

/-- The device was started. -/
structure StartsTo (m : DevicesManager δ) (devID : δ) (det : USBDeviceID δ)
    (m' : DevicesManager δ) : Prop where
  work : DriversWork m m'
  started : m'.startedDevices = m.startedDevices.insert devID det
  stopped : m'.stoppedDevices = m.stoppedDevices.erase devID

/-- A device that is not started stays where it is. -/
lemma startDevice_cases (m : DevicesManager δ) (devID : δ) (result : OpenResult) :
    (∃ m', m.startDevice devID result = (m', false) ∧ DriversWork m m' ∧ SameFiles m m') ∨
      ∃ det m', m.stoppedDevices[devID]? = some det ∧ m.Loaded det ∧
        m.startDevice devID result = (m', true) ∧ StartsTo m devID det m' := by
  cases hdet : m.stoppedDevices[devID]? with
  | none =>
    refine Or.inl ⟨m, ?_, .refl m, .refl m⟩
    simp only [startDevice, hdet]
  | some det =>
    rcases m.initializeWithDriver_cases det true result with
      ⟨-, hinit⟩ | ⟨m', opened, hloaded, hinit, -, hwork, hfiles⟩
    · refine Or.inl ⟨m, ?_, .refl m, .refl m⟩
      simp only [startDevice, hdet, hinit]
    · cases opened with
      | false =>
        refine Or.inl ⟨m', ?_, hwork, hfiles⟩
        simp only [startDevice, hdet, hinit]
      | true =>
        let m'' := { m' with
          startedDevices := m'.startedDevices.insert devID det
          stoppedDevices := m'.stoppedDevices.erase devID }
        have hstarts : StartsTo m devID det m'' :=
          ⟨hwork.refile _ _ _, congrArg (·.insert devID det) hfiles.started,
            congrArg (·.erase devID) hfiles.stopped⟩
        refine Or.inr ⟨det, m'', rfl, hloaded, ?_, hstarts⟩
        simp only [startDevice, hdet, hinit]
        rfl

lemma startDevice_of_opened (hdet : m.stoppedDevices[devID]? = some det)
    (hloaded : m.Loaded det) :
    ∃ m', m.startDevice devID .opened = (m', true) ∧ StartsTo m devID det m' := by
  rcases m.startDevice_cases devID .opened with
    ⟨m', hfail, -, -⟩ | ⟨det', m', hdet', -, hstart, hstarts⟩
  · rcases m.initializeWithDriver_cases det true .opened with
      ⟨hnot, -⟩ | ⟨m₁, opened, -, hinit, hopened, -, -⟩
    · exact absurd hloaded hnot
    · rw [hopened (Or.inr rfl)] at hinit
      simp only [startDevice, hdet, hinit] at hfail
      cases hfail
  · rw [hdet] at hdet'
    cases hdet'
    exact ⟨m', hstart, hstarts⟩

end DevicesManager

end GLogiK
