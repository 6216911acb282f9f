import GLogiK.DBus.StringArrays
import GLogiK.Service.Devices

/-!
# The list of devices

The service tells the GUI its devices in one array of strings, six for each device. The GUI puts
them together again.
-/

namespace GLogiK

/-! ### In the service -/

/-- The strings of a device, with its status. -/
def DeviceRecord.strings (status : String) (entry : String × DeviceRecord) : List String :=
  [entry.1, status, entry.2.vendor, entry.2.product, entry.2.name, entry.2.configFilePath]

def ServiceDevices.getDevicesList (s : ServiceDevices String) : List String :=
  s.startedDevices.toList.flatMap (DeviceRecord.strings "started") ++
    s.stoppedDevices.toList.flatMap (DeviceRecord.strings "stopped")

/-! ### In the GUI -/

structure DeviceID where
  vendor : String
  product : String
  name : String
  status : String
  filePath : String
  deriving DecidableEq, Repr

abbrev DevicesMap := StdMap String DeviceID

def DEVICE_ID_NUM_PROPERTIES : ℕ := 5

/-- The `while` loop. Of two devices with one ID the first is kept. -/
def rebuildDevicesMap (devicesMap : DevicesMap) : List String → DevicesMap
  | devID :: status :: vendor :: product :: name :: filePath :: stringArray =>
    rebuildDevicesMap
      (devicesMap.insertIfNew devID ⟨vendor, product, name, status, filePath⟩) stringArray
  | _ => devicesMap

def getNextDevicesMapArgument : ArgReader DevicesMap := do
  let stringArray ← getNextStringArray
  if stringArray.length % (DEVICE_ID_NUM_PROPERTIES + 1) ≠ 0 then
    throw (.other "wrong string array size")
  else return rebuildDevicesMap ∅ stringArray

/-! ### From one to the other -/

/-- What the GUI should know of a device of the service. -/
def DeviceRecord.toDeviceID (status : String) (device : DeviceRecord) : DeviceID where
  vendor := device.vendor
  product := device.product
  name := device.name
  status := status
  filePath := device.configFilePath

/-- No string of the device is empty. -/
def DeviceRecord.Named (devID : String) (device : DeviceRecord) : Prop :=
  devID ≠ "" ∧ device.vendor ≠ "" ∧ device.product ≠ "" ∧ device.name ≠ "" ∧
    device.configFilePath ≠ ""

variable {s : ServiceDevices String}

lemma rebuildDevicesMap_strings (status : String) (entries : List (String × DeviceRecord))
    (rest : List String) (devicesMap : DevicesMap) :
    rebuildDevicesMap devicesMap (entries.flatMap (DeviceRecord.strings status) ++ rest) =
      rebuildDevicesMap (entries.foldl (fun devicesMap entry =>
        devicesMap.insertIfNew entry.1 (entry.2.toDeviceID status)) devicesMap) rest := by
  induction entries generalizing devicesMap with
  | nil => rfl
  | cons entry entries ih =>
    rw [List.flatMap_cons, List.append_assoc, List.foldl_cons, ← ih]
    rfl

/-- Each device is inserted under its ID, the started ones first. -/
lemma getElem?_rebuildDevicesMap (s : ServiceDevices String) (devID : String) :
    (rebuildDevicesMap ∅ s.getDevicesList)[devID]? =
      (s.startedDevices[devID]?.map (DeviceRecord.toDeviceID "started")).or
        (s.stoppedDevices[devID]?.map (DeviceRecord.toDeviceID "stopped")) := by
  have hlast : ∀ devicesMap : DevicesMap, rebuildDevicesMap devicesMap [] = devicesMap :=
    fun _ => rfl
  rw [ServiceDevices.getDevicesList, rebuildDevicesMap_strings,
    ← List.append_nil (s.stoppedDevices.toList.flatMap _), rebuildDevicesMap_strings, hlast,
    getElem?_foldl_insertIfNew, getElem?_foldl_insertIfNew, find?_toList, find?_toList,
    Std.ExtTreeMap.getElem?_empty, Option.none_or, Option.map_map, Option.map_map]
  rfl

lemma length_getDevicesList (s : ServiceDevices String) :
    s.getDevicesList.length % (DEVICE_ID_NUM_PROPERTIES + 1) = 0 := by
  have hsix : ∀ (status : String) (entries : List (String × DeviceRecord)),
      (entries.flatMap (DeviceRecord.strings status)).length = 6 * entries.length := by
    intro status entries
    induction entries with
    | nil => rfl
    | cons entry entries ih =>
      rw [List.flatMap_cons, List.length_append, ih, List.length_cons, DeviceRecord.strings]
      simp only [List.length_cons, List.length_nil]
      omega
  rw [ServiceDevices.getDevicesList, List.length_append, hsix, hsix, DEVICE_ID_NUM_PROPERTIES]
  omega

lemma ne_empty_of_mem_getDevicesList
    (hstarted : ∀ (devID : String) (device : DeviceRecord), s.startedDevices[devID]? = some device →
      device.Named devID)
    (hstopped : ∀ (devID : String) (device : DeviceRecord), s.stoppedDevices[devID]? = some device →
      device.Named devID) :
    ∀ text ∈ s.getDevicesList, text ≠ "" := by
  have hstrings : ∀ (status : String) (map : StdMap String DeviceRecord), status ≠ "" →
      (∀ (devID : String) (device : DeviceRecord), map[devID]? = some device →
        device.Named devID) →
      ∀ text ∈ map.toList.flatMap (DeviceRecord.strings status), text ≠ "" := by
    intro status map hstatus hnamed text htext
    obtain ⟨entry, hentry, htext⟩ := List.mem_flatMap.mp htext
    obtain ⟨hid, hvendor, hproduct, hname, hpath⟩ := hnamed entry.1 entry.2
      (Std.ExtTreeMap.mem_toList_iff_getElem?_eq_some.mp hentry)
    simp only [DeviceRecord.strings, List.mem_cons, List.not_mem_nil, or_false] at htext
    rcases htext with rfl | rfl | rfl | rfl | rfl | rfl
    · exact hid
    · exact hstatus
    · exact hvendor
    · exact hproduct
    · exact hname
    · exact hpath
  intro text htext
  rcases List.mem_append.mp htext with htext | htext
  · exact hstrings "started" _ (by decide) hstarted text htext
  · exact hstrings "stopped" _ (by decide) hstopped text htext

/-- The GUI reads each device of the service under its ID, with its status, and no other device. -/
theorem getNextDevicesMapArgument_getDevicesList (before : Arguments) (s : ServiceDevices String)
    (hdisjoint : ∀ devID : String, s.startedDevices[devID]?.isSome →
      s.stoppedDevices[devID]? = none)
    (hstarted : ∀ (devID : String) (device : DeviceRecord), s.startedDevices[devID]? = some device →
      device.Named devID)
    (hstopped : ∀ (devID : String) (device : DeviceRecord), s.stoppedDevices[devID]? = some device →
      device.Named devID) :
    ∃ decoded devicesMap rest,
      before.fillInArguments (some (appendStringArray s.getDevicesList)) = some decoded ∧
      getNextDevicesMapArgument decoded = (.ok devicesMap, rest) ∧
      (∀ (devID : String) (device : DeviceRecord), s.startedDevices[devID]? = some device →
        devicesMap[devID]? = some (device.toDeviceID "started")) ∧
      (∀ (devID : String) (device : DeviceRecord), s.stoppedDevices[devID]? = some device →
        devicesMap[devID]? = some (device.toDeviceID "stopped")) ∧
      ∀ devID : String, s.startedDevices[devID]? = none → s.stoppedDevices[devID]? = none →
        devicesMap[devID]? = none := by
  obtain ⟨decoded, rest, hfill, hread⟩ := getNextStringArray_of_message before
    (ne_empty_of_mem_getDevicesList hstarted hstopped)
  refine ⟨decoded, rebuildDevicesMap ∅ s.getDevicesList, rest, hfill, ?_, ?_, ?_, ?_⟩
  · rw [getNextDevicesMapArgument, ArgReader.bind_eq_of_ok hread,
      if_neg (not_not_intro (length_getDevicesList s))]
    rfl
  · intro devID device hdevice
    rw [getElem?_rebuildDevicesMap, hdevice, Option.map_some, Option.some_or]
  · intro devID device hdevice
    have hnone : s.startedDevices[devID]? = none := by
      rw [← Option.not_isSome_iff_eq_none]
      intro hsome
      rw [hdisjoint devID hsome] at hdevice
      cases hdevice
    rw [getElem?_rebuildDevicesMap, hnone, hdevice, Option.map_none, Option.none_or,
      Option.map_some]
  · intro devID hnone hnone'
    rw [getElem?_rebuildDevicesMap, hnone, hnone', Option.map_none, Option.map_none,
      Option.none_or]

/-- One device is started, and one is stopped. -/
theorem getNextDevicesMapArgument_getDevicesList_two :
    let g510 : DeviceRecord :=
      { vendor := "Logitech", product := "Logitech G510", name := "G510 Gaming Keyboard" }
    let s : ServiceDevices String :=
      { directory := id
        startedDevices := (∅ : StdMap String _).insert "[b1d3]" g510
        stoppedDevices := (∅ : StdMap String _).insert "[b1d4]" g510 }
    ∃ decoded devicesMap rest,
      Arguments.fillInArguments {} (some (appendStringArray s.getDevicesList)) = some decoded ∧
      getNextDevicesMapArgument decoded = (.ok devicesMap, rest) ∧
      devicesMap["[b1d4]"]? = some (g510.toDeviceID "stopped") := by
  intro g510 s
  have hnamed : ∀ (id devID : String) (device : DeviceRecord), id ≠ "" →
      ((∅ : StdMap String DeviceRecord).insert id g510)[devID]? = some device →
      device.Named devID := by
    intro id devID device hid hdevice
    rw [getElem?_insert_eq] at hdevice
    split_ifs at hdevice with heq
    · cases hdevice
      rw [heq]
      exact ⟨hid, by decide, by decide, by decide, by decide⟩
    · rw [Std.ExtTreeMap.getElem?_empty] at hdevice
      cases hdevice
  have hdisjoint : ∀ devID : String, s.startedDevices[devID]?.isSome →
      s.stoppedDevices[devID]? = none := by
    intro devID hsome
    rw [getElem?_insert_eq] at hsome ⊢
    split_ifs at hsome with heq
    · rw [heq]
      decide +kernel
    · rw [Std.ExtTreeMap.getElem?_empty] at hsome
      cases hsome
  obtain ⟨decoded, devicesMap, rest, hfill, hread, -, hstopped, -⟩ :=
    getNextDevicesMapArgument_getDevicesList {} s hdisjoint
      (fun devID device => hnamed "[b1d3]" devID device (by decide))
      (fun devID device => hnamed "[b1d4]" devID device (by decide))
  refine ⟨decoded, devicesMap, rest, hfill, hread, hstopped "[b1d4]" g510 ?_⟩
  rw [getElem?_insert_eq, if_pos rfl]

end GLogiK
