import GLogiK.Daemon.Drivers

/-!
# Hard stops with several drivers

`checkInitializedDevicesThreadsStatus` goes through all drivers for each started device, and looks
the device up for each of them. When it has stopped the device, the next driver finds it no more,
and the exception ends the daemon.
-/

namespace GLogiK

variable {δ : Type*} [LinearOrder δ]

namespace DevicesManager

/-- The device is started, and its driver tells that its threads have ended. -/
def threadsEnded (m : DevicesManager δ) (devID : δ) : Bool :=
  m.startedDevices[devID]?.any fun det => m.drivers.any fun driver =>
    driver.driverID = det.driverID && !driver.getDeviceThreadsStatus devID

/-- The started devices whose threads have ended. -/
def endedDevices (m : DevicesManager δ) : List δ := m.startedDevices.keys.filter m.threadsEnded

/-- No driver comes after the one of the device. -/
def LastDriver (m : DevicesManager δ) (det : USBDeviceID δ) : Prop :=
  m.drivers.getLast?.map (·.driverID) = some det.driverID

variable {m m' : DevicesManager δ} {devID a : δ} {det : USBDeviceID δ}

/-! ### What a stop leaves -/

/-- What the drivers tell about a device. -/
def statuses (m : DevicesManager δ) (devID : δ) : List (UInt16 × Bool) :=
  m.drivers.map fun driver => (driver.driverID, driver.getDeviceThreadsStatus devID)

lemma threadsEnded_eq (m : DevicesManager δ) (devID : δ) :
    m.threadsEnded devID = m.startedDevices[devID]?.any fun det =>
      (m.statuses devID).any fun status => status.1 = det.driverID && !status.2 := by
  simp only [threadsEnded, statuses, List.any_map]
  rfl

lemma status_closeDevice (driver : KeyboardDriver δ) (det : USBDeviceID δ) (ha : a ≠ det.devID) :
    (driver.closeDevice det).1.getDeviceThreadsStatus a = driver.getDeviceThreadsStatus a := by
  simp only [KeyboardDriver.getDeviceThreadsStatus, KeyboardDriver.closeDevice_held, if_neg ha]

/-- The drivers tell the same about other devices. -/
lemma statuses_stopDevice (hdet : m.startedDevices[devID]? = some det) (ha : a ≠ det.devID) :
    (m.stopDevice devID).1.statuses a = m.statuses a := by
  rcases firstDriver_cases det.driverID (·.closeDevice det) m.drivers with
    ⟨-, hfirst⟩ | ⟨u, driver, v, hdrivers, -, hfirst⟩
  · simp only [stopDevice, hdet, closeWithDriver, hfirst, Option.map_none]
  · rw [hdrivers] at hfirst
    simp only [stopDevice, hdet, closeWithDriver, hfirst, Option.map_some, send, statuses,
      hdrivers, List.map_append, List.map_cons, KeyboardDriver.closeDevice_driverID,
      status_closeDevice driver det ha]

lemma StopsTo.lastDriver {det' : USBDeviceID δ} (h : StopsTo m devID det' m') :
    m'.LastDriver det ↔ m.LastDriver det := by
  rw [LastDriver, LastDriver, ← List.getLast?_map, ← List.getLast?_map, h.work.driverIDs]

/-! ### One device -/

lemma checkThreadsOfDriver_of_gone {r : DevicesManager δ × List δ}
    (hdet : r.1.startedDevices[devID]? = none) (index : ℕ) :
    checkThreadsOfDriver devID r index = none := by
  simp only [checkThreadsOfDriver, hdet]

lemma checkThreadsOfDriver_of_running {r : DevicesManager δ × List δ} {index : ℕ}
    {driver : KeyboardDriver δ} (hdet : r.1.startedDevices[devID]? = some det)
    (hdriver : r.1.drivers[index]? = some driver)
    (hrunning : driver.driverID = det.driverID → driver.getDeviceThreadsStatus devID) :
    checkThreadsOfDriver devID r index = some r := by
  simp only [checkThreadsOfDriver, hdet, hdriver]
  exact if_neg fun h => h.2 (hrunning h.1.symm)

lemma checkThreadsOfDriver_of_ended {r : DevicesManager δ × List δ} {index : ℕ}
    {driver : KeyboardDriver δ} (hdet : r.1.startedDevices[devID]? = some det)
    (hdriver : r.1.drivers[index]? = some driver) (hid : driver.driverID = det.driverID)
    (hended : ¬ driver.getDeviceThreadsStatus devID) :
    checkThreadsOfDriver devID r index = some ((r.1.stopDevice devID).1, r.2 ++ [devID]) := by
  simp only [checkThreadsOfDriver, hdet, hdriver]
  exact if_pos ⟨hid.symm, hended⟩

/-- The loop over drivers that have nothing to tell. -/
lemma foldlM_of_running {r : DevicesManager δ × List δ} (indexes : List ℕ)
    (h : ∀ index ∈ indexes, checkThreadsOfDriver devID r index = some r) :
    indexes.foldlM (checkThreadsOfDriver devID) r = some r := by
  induction indexes with
  | nil => rfl
  | cons index indexes ih =>
    obtain ⟨hhead, htail⟩ := List.forall_mem_cons.mp h
    rw [List.foldlM_cons, hhead]
    exact ih htail

lemma checkThreadsOfDevice_of_running {r : DevicesManager δ × List δ}
    (hdet : r.1.startedDevices[devID]? = some det) (hended : ¬ r.1.threadsEnded devID) :
    checkThreadsOfDevice r devID = some r := by
  refine foldlM_of_running _ fun index hindex => ?_
  obtain ⟨driver, hdriver⟩ : ∃ driver, r.1.drivers[index]? = some driver :=
    ⟨_, List.getElem?_eq_getElem (List.mem_range.mp hindex)⟩
  refine checkThreadsOfDriver_of_running hdet hdriver fun hid => ?_
  by_contra hstatus
  refine hended ?_
  rw [threadsEnded, hdet, Option.any_some, List.any_eq_true]
  exact ⟨driver, List.mem_of_getElem? hdriver, by simp [hid, hstatus]⟩

/-- A device whose threads have ended is stopped by its driver. The look-up for the next driver
throws. -/
lemma checkThreadsOfDevice_of_ended {r : DevicesManager δ × List δ}
    (hdistinct : (r.1.drivers.map (·.driverID)).Nodup)
    (hdet : r.1.startedDevices[devID]? = some det) (hended : r.1.threadsEnded devID) :
    (r.1.LastDriver det → checkThreadsOfDevice r devID =
      some ((r.1.stopDevice devID).1, r.2 ++ [devID])) ∧
      (¬ r.1.LastDriver det → checkThreadsOfDevice r devID = none) := by
  rw [threadsEnded, hdet, Option.any_some, List.any_eq_true] at hended
  obtain ⟨driver, hmem, htells⟩ := hended
  rw [Bool.and_eq_true, decide_eq_true_eq, Bool.not_eq_true'] at htells
  obtain ⟨hid, hstatus⟩ := htells
  obtain ⟨u, v, hdrivers⟩ := List.append_of_mem hmem
  rw [hdrivers, List.map_append, List.map_cons, List.nodup_append', List.nodup_cons] at hdistinct
  obtain ⟨-, ⟨hafter, -⟩, hbefore⟩ := hdistinct
  have hrange : List.range r.1.drivers.length =
      List.range u.length ++ u.length :: List.range' (u.length + 1) v.length := by
    rw [hdrivers, List.length_append, List.length_cons, List.range_eq_range', List.range_eq_range',
      ← List.range'_append_1, Nat.zero_add, List.range'_succ]
  -- the drivers before the one of the device have another ID
  have hfirst : (List.range u.length).foldlM (checkThreadsOfDriver devID) r = some r := by
    refine foldlM_of_running _ fun index hindex => ?_
    have hlt := List.mem_range.mp hindex
    have hother : r.1.drivers[index]? = some u[index] := by
      rw [hdrivers, List.getElem?_append_left hlt, List.getElem?_eq_getElem hlt]
    refine checkThreadsOfDriver_of_running hdet hother fun hsame => ?_
    exact absurd (List.mem_map.mpr ⟨_, List.getElem_mem hlt, hsame.trans hid.symm⟩)
      fun h => hbefore h List.mem_cons_self
  have hat : r.1.drivers[u.length]? = some driver := by
    rw [hdrivers, List.getElem?_append_right le_rfl, Nat.sub_self, List.getElem?_cons_zero]
  have hstop := checkThreadsOfDriver_of_ended hdet hat hid (by simp [hstatus])
  have hloop : checkThreadsOfDevice r devID = (List.range' (u.length + 1) v.length).foldlM
      (checkThreadsOfDriver devID) ((r.1.stopDevice devID).1, r.2 ++ [devID]) := by
    rw [checkThreadsOfDevice, hrange, List.foldlM_append, hfirst, Option.bind_eq_bind,
      Option.bind_some, List.foldlM_cons, hstop, Option.bind_eq_bind, Option.bind_some]
  rw [hloop, LastDriver, hdrivers]
  cases v with
  | nil =>
    have hlast : (u ++ [driver]).getLast?.map (·.driverID) = some det.driverID := by
      rw [List.getLast?_concat, Option.map_some, hid]
    exact ⟨fun _ => rfl, fun hnot => absurd hlast hnot⟩
  | cons next v =>
    have hnot : (u ++ driver :: next :: v).getLast?.map (·.driverID) ≠ some det.driverID := by
      rw [List.getLast?_append, List.getLast?_cons_cons, List.getLast?_cons, Option.some_or,
        Option.map_some, ne_eq, Option.some_inj, ← hid]
      intro hlast
      refine hafter (List.mem_map.mpr ⟨_, ?_, hlast⟩)
      cases hv : v.getLast? with
      | none => exact List.mem_cons_self
      | some last => exact List.mem_cons_of_mem _ (List.mem_of_getLast? hv)
    obtain ⟨m', hstopped, hstops⟩ := stopDevice_of_loaded hdet ⟨driver, hmem, hid⟩
    have hgone : m'.startedDevices[devID]? = none := by
      rw [hstops.started, getElem?_erase_eq, if_pos rfl]
    refine ⟨fun hlast => absurd hlast hnot, fun _ => ?_⟩
    rw [hstopped, List.length_cons, List.range'_succ, List.foldlM_cons,
      checkThreadsOfDriver_of_gone hgone]
    rfl

/-! ### All devices -/

/-- What is known of the manager while the loop runs. -/
structure LoopInv (m : DevicesManager δ) : Prop where
  distinct : (m.drivers.map (·.driverID)).Nodup
  filed : ∀ (devID : δ) (det : USBDeviceID δ), m.startedDevices[devID]? = some det →
    det.devID = devID

lemma threadsEnded_of_none (hdet : m.startedDevices[devID]? = none) : ¬ m.threadsEnded devID := by
  rw [threadsEnded, hdet]
  exact Bool.false_ne_true

lemma exists_of_threadsEnded (h : m.threadsEnded devID) :
    ∃ det, m.startedDevices[devID]? = some det ∧ m.Loaded det := by
  cases hdet : m.startedDevices[devID]? with
  | none => exact absurd h (threadsEnded_of_none hdet)
  | some det =>
    rw [threadsEnded, hdet, Option.any_some, List.any_eq_true] at h
    obtain ⟨driver, hmem, htells⟩ := h
    rw [Bool.and_eq_true, decide_eq_true_eq] at htells
    exact ⟨det, rfl, driver, hmem, htells.1⟩

/-- One device was stopped: the others have not noticed. -/
lemma LoopInv.stopDevice (h : m.LoopInv) (hdet : m.startedDevices[devID]? = some det)
    (hstop : m.stopDevice devID = (m', true)) (hstops : StopsTo m devID det m') :
    m'.LoopInv ∧ ∀ a ≠ devID, m'.threadsEnded a = m.threadsEnded a := by
  refine ⟨⟨?_, ?_⟩, fun a ha => ?_⟩
  · rw [hstops.work.driverIDs]
    exact h.distinct
  · intro a det' hdet'
    rw [hstops.started, getElem?_erase_eq] at hdet'
    split_ifs at hdet'
    exact h.filed a det' hdet'
  · have hne : a ≠ det.devID := by
      rw [h.filed devID det hdet]
      exact ha
    have hstatuses := statuses_stopDevice hdet hne
    rw [hstop] at hstatuses
    rw [threadsEnded_eq, threadsEnded_eq, hstatuses, hstops.started, getElem?_erase_eq, if_neg ha]

/-- What the loop does with a started device: nothing, end the daemon, or stop the device. -/
lemma checkThreadsOfDevice_cases {r : DevicesManager δ × List δ} (h : r.1.LoopInv)
    (hdet : r.1.startedDevices[devID]? = some det) :
    (¬ r.1.threadsEnded devID ∧ checkThreadsOfDevice r devID = some r) ∨
      (r.1.threadsEnded devID ∧ ¬ r.1.LastDriver det ∧ checkThreadsOfDevice r devID = none) ∨
      (r.1.threadsEnded devID ∧ r.1.LastDriver det ∧ ∃ m',
        checkThreadsOfDevice r devID = some (m', r.2 ++ [devID]) ∧ StopsTo r.1 devID det m' ∧
        m'.LoopInv ∧ ∀ a ≠ devID, m'.threadsEnded a = r.1.threadsEnded a) := by
  by_cases hended : r.1.threadsEnded devID
  · obtain ⟨hlast, hthrow⟩ := checkThreadsOfDevice_of_ended h.distinct hdet hended
    by_cases hdriver : r.1.LastDriver det
    · obtain ⟨det', hdet', hloaded⟩ := exists_of_threadsEnded hended
      obtain rfl : det = det' := Option.some_inj.mp (hdet.symm.trans hdet')
      obtain ⟨m', hstop, hstops⟩ := stopDevice_of_loaded hdet hloaded
      have hstep := hlast hdriver
      rw [hstop] at hstep
      exact .inr (.inr ⟨hended, hdriver, m', hstep, hstops, h.stopDevice hdet hstop hstops⟩)
    · exact .inr (.inl ⟨hended, hdriver, hthrow hdriver⟩)
  · exact .inl ⟨hended, checkThreadsOfDevice_of_running hdet hended⟩

lemma foldlM_of_last {ids : List δ} {r : DevicesManager δ × List δ} (h : r.1.LoopInv)
    (hnodup : ids.Nodup) (hstarted : ∀ a ∈ ids, r.1.startedDevices[a]?.isSome)
    (hlast : ∀ a ∈ ids, ∀ det : USBDeviceID δ, r.1.startedDevices[a]? = some det →
      r.1.threadsEnded a → r.1.LastDriver det) :
    ∃ m', ids.foldlM checkThreadsOfDevice r = some (m', r.2 ++ ids.filter r.1.threadsEnded) ∧
      StopsAll (ids.filter r.1.threadsEnded) r.1 m' := by
  induction ids generalizing r with
  | nil =>
    refine ⟨r.1, ?_, .refl r.1⟩
    simp
  | cons devID ids ih =>
    obtain ⟨hnotMem, hnodup⟩ := List.nodup_cons.mp hnodup
    obtain ⟨hsome, hstarted⟩ := List.forall_mem_cons.mp hstarted
    obtain ⟨hlastID, hlast⟩ := List.forall_mem_cons.mp hlast
    obtain ⟨det, hdet⟩ := Option.isSome_iff_exists.mp hsome
    rcases checkThreadsOfDevice_cases h hdet with ⟨hended, hstep⟩ | ⟨hended, hdriver, -⟩ |
      ⟨hended, -, m₁, hstep, hstops, h₁, hsame⟩
    · obtain ⟨m', hloop, hstopped⟩ := ih h hnodup hstarted hlast
      rw [List.filter_cons_of_neg hended]
      refine ⟨m', ?_, hstopped⟩
      rw [List.foldlM_cons, hstep, Option.bind_eq_bind, Option.bind_some, hloop]
    · exact absurd (hlastID det hdet hended) hdriver
    · have hne : ∀ a ∈ ids, a ≠ devID := fun a ha => ne_of_mem_of_not_mem ha hnotMem
      obtain ⟨m', hloop, hstopped⟩ := @ih (m₁, r.2 ++ [devID]) h₁ hnodup
        (fun a ha => by rw [hstops.started_of_ne (hne a ha)]; exact hstarted a ha)
        (fun a ha det' hdet' hended' => by
          rw [hstops.started_of_ne (hne a ha)] at hdet'
          rw [hsame a (hne a ha)] at hended'
          exact hstops.lastDriver.mpr (hlast a ha det' hdet' hended'))
      have hfilter : ids.filter m₁.threadsEnded = ids.filter r.1.threadsEnded :=
        List.filter_congr fun a ha => hsame a (hne a ha)
      rw [hfilter] at hloop hstopped
      rw [List.filter_cons_of_pos hended]
      refine ⟨m', ?_, hstopped.cons hdet hstops fun hmem => hnotMem (List.mem_of_mem_filter hmem)⟩
      rw [List.foldlM_cons, hstep, Option.bind_eq_bind, Option.bind_some, hloop,
        List.append_assoc, List.singleton_append]

/-- A device that is stopped before the last driver ends the daemon. -/
lemma foldlM_of_not_last {ids : List δ} {r : DevicesManager δ × List δ} (h : r.1.LoopInv)
    (hnodup : ids.Nodup) (hstarted : ∀ a ∈ ids, r.1.startedDevices[a]?.isSome) (ha : a ∈ ids)
    (hdet : r.1.startedDevices[a]? = some det) (hended : r.1.threadsEnded a)
    (hlast : ¬ r.1.LastDriver det) : ids.foldlM checkThreadsOfDevice r = none := by
  induction ids generalizing r with
  | nil => cases ha
  | cons devID ids ih =>
    obtain ⟨hnotMem, hnodup⟩ := List.nodup_cons.mp hnodup
    obtain ⟨hsome, hstarted⟩ := List.forall_mem_cons.mp hstarted
    rw [List.foldlM_cons]
    rcases List.mem_cons.mp ha with rfl | ha
    · rw [(checkThreadsOfDevice_of_ended h.distinct hdet hended).2 hlast]
      rfl
    · obtain ⟨det', hdet'⟩ := Option.isSome_iff_exists.mp hsome
      rcases checkThreadsOfDevice_cases h hdet' with ⟨-, hstep⟩ | ⟨-, -, hstep⟩ |
        ⟨-, -, m₁, hstep, hstops, h₁, hsame⟩
      · rw [hstep, Option.bind_eq_bind, Option.bind_some]
        exact ih h hnodup hstarted ha hdet hended hlast
      · rw [hstep]
        rfl
      · have hne : ∀ b ∈ ids, b ≠ devID := fun b hb => ne_of_mem_of_not_mem hb hnotMem
        rw [hstep, Option.bind_eq_bind, Option.bind_some]
        refine @ih (m₁, r.2 ++ [devID]) h₁ hnodup (fun b hb => ?_) ha ?_ ?_ ?_
        · rw [hstops.started_of_ne (hne b hb)]
          exact hstarted b hb
        · rw [hstops.started_of_ne (hne a ha), hdet]
        · rw [hsame a (hne a ha)]
          exact hended
        · rw [hstops.lastDriver]
          exact hlast

/-- The function returns, and has stopped and reported exactly the devices whose threads have
ended. -/
def StopsEnded (m : DevicesManager δ) : Prop :=
  ∃ m', m.checkInitializedDevicesThreadsStatus = some m' ∧
    (∀ devID, m'.startedDevices[devID]? =
      if m.threadsEnded devID then none else m.startedDevices[devID]?) ∧
    (∀ devID, m'.stoppedDevices[devID]? =
      if m.threadsEnded devID then m.startedDevices[devID]? else m.stoppedDevices[devID]?) ∧
    ∃ signals : List (DeviceSignal δ), m'.sent = m.sent ++ signals.map .device ++
      if m.endedDevices = [] then []
      else sendStatusSignalArrayToClients m.numClients (.devicesStopped m.endedDevices)

/-- With drivers of different IDs, the function does what it should exactly when the threads of
devices of the last driver only have ended. -/
theorem stopsEnded_iff (m : DevicesManager δ) (hdistinct : (m.drivers.map (·.driverID)).Nodup)
    (hfiled : ∀ (devID : δ) (det : USBDeviceID δ), m.startedDevices[devID]? = some det →
      det.devID = devID) :
    m.StopsEnded ↔ ∀ (devID : δ) (det : USBDeviceID δ), m.startedDevices[devID]? = some det →
      m.threadsEnded devID → m.LastDriver det := by
  have hinv : m.LoopInv := ⟨hdistinct, hfiled⟩
  have hnodup : m.startedDevices.keys.Nodup := Std.ExtTreeMap.nodup_keys
  have hkeys : ∀ a, a ∈ m.startedDevices.keys ↔ m.startedDevices[a]?.isSome := fun a => by
    rw [Std.ExtTreeMap.mem_keys, Std.ExtTreeMap.mem_iff_isSome_getElem?]
  constructor
  · rintro ⟨m', hcheck, -⟩ devID det hdet hended
    by_contra hlast
    have hthrows : m.startedDevices.keys.foldlM checkThreadsOfDevice (m, []) = none :=
      @foldlM_of_not_last δ _ devID det m.startedDevices.keys (m, []) hinv hnodup
        (fun a => (hkeys a).mp) ((hkeys devID).mpr (by rw [hdet]; rfl)) hdet hended hlast
    rw [checkInitializedDevicesThreadsStatus, hthrows] at hcheck
    cases hcheck
  · intro hlast
    obtain ⟨m', hloop, hstopped⟩ := @foldlM_of_last δ _ m.startedDevices.keys (m, []) hinv hnodup
      (fun a => (hkeys a).mp) (fun a _ det => hlast a det)
    have hmem : ∀ a, a ∈ m.startedDevices.keys.filter m.threadsEnded ↔ m.threadsEnded a := by
      refine fun a => List.mem_filter.trans (and_iff_right_of_imp fun hended => (hkeys a).mpr ?_)
      obtain ⟨det, hdet, -⟩ := exists_of_threadsEnded hended
      rw [hdet]
      rfl
    rw [List.nil_append] at hloop
    obtain ⟨signals, hsent⟩ := hstopped.work.sent
    rw [StopsEnded, checkInitializedDevicesThreadsStatus, hloop, Option.map_some]
    refine ⟨_, rfl, fun devID => ?_, fun devID => ?_, signals, ?_⟩
    · rw [← if_congr (hmem devID) rfl rfl, ← hstopped.started]
      split_ifs <;> rfl
    · rw [← if_congr (hmem devID) rfl rfl, ← hstopped.stopped]
      split_ifs <;> rfl
    · rw [endedDevices]
      split_ifs
      · rw [List.append_nil]
        exact hsent
      · rw [send, hsent, hstopped.work.numClients]

/-- The driver 7 holds a device, whose threads have ended. -/
def hardStopOf (driverIDs : List UInt16) : DevicesManager ℕ :=
  let g510 : USBDeviceID ℕ :=
    { devID := 1, capabilities := 15, driverID := 7, GKeysTransferLength := 5 }
  { startedDevices := (∅ : StdMap ℕ _).insert 1 g510
    drivers := driverIDs.map fun driverID =>
      { driverID := driverID
        initializedDevices := if driverID = 7 then
          (∅ : StdMap ℕ _).insert 1 { newUSBDevice g510 with threadsStatus := false } else ∅ }
    numClients := 1 }

lemma hardStopOf_filed (driverIDs : List UInt16) (devID : ℕ) (det : USBDeviceID ℕ)
    (hdet : (hardStopOf driverIDs).startedDevices[devID]? = some det) :
    det.devID = devID ∧ det.driverID = 7 := by
  rw [hardStopOf, getElem?_insert_eq] at hdet
  split_ifs at hdet with h
  · cases hdet
    exact ⟨h.symm, rfl⟩
  · rw [Std.ExtTreeMap.getElem?_empty] at hdet
    cases hdet

/-- The driver of the device is the last one. -/
theorem stopsEnded_of_last : (hardStopOf [9, 7]).StopsEnded := by
  have hfiled := hardStopOf_filed [9, 7]
  refine (stopsEnded_iff (hardStopOf [9, 7]) (by decide +kernel)
    fun devID det hdet => (hfiled devID det hdet).1).mpr fun devID det hdet _ => ?_
  rw [LastDriver, (hfiled devID det hdet).2]
  decide +kernel

/-- Another driver comes after the one of the device: the daemon ends. -/
theorem not_stopsEnded_of_first : ¬ ∀ m : DevicesManager ℕ, (m.drivers.map (·.driverID)).Nodup →
    (∀ (devID : ℕ) (det : USBDeviceID ℕ), m.startedDevices[devID]? = some det →
      det.devID = devID) → m.StopsEnded := by
  intro hall
  obtain ⟨m', hcheck, -⟩ := hall (hardStopOf [7, 9]) (by decide +kernel)
    fun devID det hdet => (hardStopOf_filed [7, 9] devID det hdet).1
  have hthrows : (hardStopOf [7, 9]).checkInitializedDevicesThreadsStatus.isNone := by
    decide +kernel
  rw [hcheck] at hthrows
  cases hthrows

end DevicesManager

end GLogiK
