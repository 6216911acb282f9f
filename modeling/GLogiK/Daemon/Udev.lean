import GLogiK.Daemon.Daemon
import GLogiK.LCD.PBMFile
import GLogiK.Lib.Handles
import Mathlib.Data.String.Basic

/-!
# Monitoring with udev

`DevicesManager::startMonitoring` with the objects of libudev: the context, the monitor, and for
each search an enumerator and an object for each device that is looked at. What libudev answers is
an argument. Each of the objects has to be given back with its `unref` function.
-/

namespace GLogiK

open Actions Handles

namespace Udev

variable {κ π : Type} [LinearOrder κ] [DecidableEq π]

/-! ### Supported devices -/

structure SupportedDevice where
  vendor : String
  product : String
  name : String
  vendorID : String
  productID : String
  capabilities : UInt64
  GKeysTransferLength : ℕ
  deriving DecidableEq, Repr

def GLOGIKD_DRIVER_ID_G510 : UInt16 := 1

/-- The G510s, without and with its onboard audio. -/
def knownDevices : List SupportedDevice :=
  ["c22d", "c22e"].map fun productID =>
    { vendor := "Logitech"
      product := "G510s"
      name := "Gaming Keyboard"
      vendorID := "046d"
      productID := productID
      capabilities := 15
      GKeysTransferLength := 5 }

def getSupportedDevices (driverID : UInt16) : List SupportedDevice :=
  if driverID = GLOGIKD_DRIVER_ID_G510 then knownDevices else []

/-- The devices of the loaded drivers, with the ID of the driver. -/
def supportedDevices (m : DevicesManager String) : List (UInt16 × SupportedDevice) :=
  m.drivers.flatMap fun driver => (getSupportedDevices driver.driverID).map (driver.driverID, ·)

def getDeviceID (bus num : UInt8) : String :=
  "[b" ++ toString bus.toNat ++ "d" ++ toString num.toNat ++ "]"

/-- The device that is found at a bus, with a number. -/
def foundDevice (supported : UInt16 × SupportedDevice) (n : UInt8 × UInt8) : USBDeviceID String where
  devID := getDeviceID n.1 n.2
  capabilities := supported.2.capabilities
  driverID := supported.1
  GKeysTransferLength := supported.2.GKeysTransferLength
  vendor := supported.2.vendor
  product := supported.2.product
  name := supported.2.name

/-! ### Devices of udev -/

/-- A property that the device does not have is empty. -/
structure UdevDevice where
  vendorID : String
  productID : String
  devnode : String
  devpath : String
  busnum : Bytes
  devnum : Bytes
  deriving DecidableEq, Repr

/-- `std::stoi`. -/
def stoi (s : Bytes) : Except StdExcept ℤ :=
  let signed := dropSign (s.dropWhile isspace)
  let digits := signed.2.takeWhile isdigit
  let value : ℤ := if signed.1 then -decimalValue digits else decimalValue digits
  if digits = [] then .error .invalid_argument
  else if value < -2 ^ 31 ∨ 2 ^ 31 ≤ value then .error .out_of_range
  else .ok value

/-- The text of the exception. -/
def stoiFailure : StdExcept → String
  | .invalid_argument => "stoi invalid argument"
  | .out_of_range     => "stoi out of range"

namespace UdevDevice

variable (dev : UdevDevice)

/-- The numbers are narrowed to bytes. -/
def numbers : Except StdExcept (UInt8 × UInt8) := do
  let bus ← stoi dev.busnum
  let num ← stoi dev.devnum
  pure (.ofInt bus, .ofInt num)

def Matches (device : SupportedDevice) : Prop :=
  device.vendorID = dev.vendorID ∧ device.productID = dev.productID

instance (device : SupportedDevice) : Decidable (dev.Matches device) :=
  inferInstanceAs (Decidable (_ ∧ _))

/-- The properties that are asked first. -/
def Identified : Prop := dev.vendorID ≠ "" ∧ dev.productID ≠ ""

instance : Decidable dev.Identified := inferInstanceAs (Decidable (_ ∧ _))

/-- The device has no node, or it has a node and numbers, but no path. -/
def Incomplete : Prop := dev.devnode = "" ∨ (∃ n, dev.numbers = .ok n) ∧ dev.devpath = ""

end UdevDevice

/-! ### The search -/

/-- The manager, and the counter of the main loop. -/
structure Monitor (κ π : Type) [LinearOrder κ] where
  clients : ClientsManager κ π String
  c : UInt16 := 0

/-- An object of libudev: a device with the devices that are supported then, or another object. What
is done with the context while another object is held is not recorded: it lies before the release
of that object, which is before the one of the context. -/
abbrev UdevObject := Option (UdevDevice × List (UInt16 × SupportedDevice))

abbrev MonitorAction (κ π : Type) [LinearOrder κ] :=
  Action String (Held UdevObject (Monitor κ π))

/-- A failure of libudev is thrown. -/
def check (p : Prop) [Decidable p] (e : String) : MonitorAction κ π Unit :=
  if p then pure () else throw e

def Monitor.changeDevices (s : Monitor κ π) (f : DevicesManager String → DevicesManager String) :
    Monitor κ π :=
  { s with clients := { s.clients with devicesManager := f s.clients.devicesManager } }

/-- A device that was detected before is kept. -/
def detect (det : USBDeviceID String) (m : DevicesManager String) : DevicesManager String :=
  { m with detectedDevices := m.detectedDevices.insertIfNew det.devID det }

/-- The body of the loop over the supported devices. Where a property is missing, `continue` goes on
with the next supported device. -/
def checkSupportedDevice (dev : UdevDevice) (supported : UInt16 × SupportedDevice) :
    MonitorAction κ π Unit :=
  if dev.Matches supported.2 then do
    use
    if dev.devnode = "" then release
    else do
      use
      match dev.numbers with
      | .error e => do
        release
        throw (stoiFailure e)
      | .ok n => do
        use
        if dev.devpath = "" then release
        else change (·.changeDevices (detect (foundDevice supported n)))
  else pure ()

/-- What is done with the object of a device. -/
def examineDevice (dev : UdevDevice) (supported : List (UInt16 × SupportedDevice)) :
    MonitorAction κ π Unit := do
  use
  if dev.Identified then do
    supported.forM (checkSupportedDevice dev)
    release
  else release

/-- A list entry; there may be no device at its path any more. -/
structure UdevEntry where
  path : String
  device : Option UdevDevice
  deriving DecidableEq, Repr

def searchEntry (entry : UdevEntry) : MonitorAction κ π Unit :=
  if entry.path = "" then throw "entry_get_name failure"
  else
    match entry.device with
    | none     => pure ()
    | some dev => fun s =>
      let supported := supportedDevices s.state.clients.devicesManager
      withHandle (some (dev, supported)) (examineDevice dev supported) s

/-- What libudev answers to a search. -/
structure SearchAnswers where
  enumerates : Bool := true
  filters : Bool := true
  scans : Bool := true
  devices : List UdevEntry
  deriving DecidableEq, Repr

def searchSupportedDevices (answers : SearchAnswers) : MonitorAction κ π Unit :=
  if answers.enumerates then
    withHandle none (released do
      use
      check answers.filters "usb enumerate filtering init failure"
      use
      check answers.scans "usb numerate_scan_devices failure"
      use
      check (answers.devices ≠ []) "usb devices empty list or failure"
      answers.devices.forM searchEntry)
  else throw "usb enumerate object creation failure"

/-! ### The main loop -/

/-- A device that the monitor receives, and the search that it brings about. -/
structure ReceivedDevice where
  action : String
  devnode : String
  search : SearchAnswers
  deriving DecidableEq, Repr

/-- The event is filtered. -/
def ReceivedDevice.Filtered (device : ReceivedDevice) : Prop :=
  device.action ≠ "" ∧
    (device.devnode = "" ∨ (device.action ≠ "add" ∧ device.action ≠ "remove"))

instance (device : ReceivedDevice) : Decidable device.Filtered :=
  inferInstanceAs (Decidable (_ ∧ _))

/-- The event is handled. -/
def handleDevice (device : ReceivedDevice) : MonitorAction κ π Unit := do
  use
  check (device.action ≠ "") "device_get_action() failure"
  searchSupportedDevices device.search
  if device.action = "add" then change (·.changeDevices (·.initializeDevices false fun _ => .opened))
  else change (·.changeDevices (·.checkForUnpluggedDevices))

/-- Whether the turn of the loop goes on with the D-Bus messages. -/
def receiveDevice (device : ReceivedDevice) : MonitorAction κ π Bool :=
  withHandle none do
    if device.Filtered then do
      use
      release
      pure false
    else do
      released (handleDevice device)
      pure true

/-- A turn: what the monitor receives, if anything, and what D-Bus messages and the threads of the
devices do. -/
structure MonitorTurn (κ π : Type) where
  received : Option (Option ReceivedDevice) := none
  events : List (DaemonEvent κ π String) := []

def receive : Option (Option ReceivedDevice) → MonitorAction κ π Bool
  | none               => pure true
  | some none          => do
    use
    throw "no device from receive_device(), something is wrong"
  | some (some device) => do
    use
    receiveDevice device

/-- The threads are checked once in eleven turns. -/
def Monitor.checkThreads (s : Monitor κ π) : Monitor κ π :=
  if s.c ≥ 10 then { s with clients := s.clients.step .checkThreads, c := 0 }
  else { s with c := s.c + 1 }

def monitorTurn (turn : MonitorTurn κ π) : MonitorAction κ π Unit := do
  let goesOn ← receive turn.received
  if goesOn then
    change fun s =>
      { s with clients := Run.run ClientsManager.step s.clients turn.events }.checkThreads
  else pure ()

/-- What libudev answers when the monitoring starts. -/
structure MonitorAnswers where
  context : Bool := true
  monitor : Bool := true
  filters : Bool := true
  receives : Bool := true
  fd : Bool := true
  search : SearchAnswers
  opens : String → OpenResult

/-- The driver is loaded. -/
def loadDrivers (m : DevicesManager String) : DevicesManager String :=
  { m with drivers := m.drivers ++ [{ driverID := GLOGIKD_DRIVER_ID_G510 }] }

/-- What is done with the monitor; the loop ends when the daemon does. -/
def monitorDevices (answers : MonitorAnswers) (turns : List (MonitorTurn κ π)) :
    MonitorAction κ π Unit := do
  use
  check answers.filters "usb monitor filtering init failure"
  use
  check answers.receives "monitor enabling failure"
  use
  check answers.fd "can't get the monitor file descriptor"
  change (·.changeDevices loadDrivers)
  searchSupportedDevices answers.search
  change (·.changeDevices fun m =>
    let m := m.initializeDevices true answers.opens
    m.send (sendSignalToClients m.numClients .daemonIsStarting true))
  turns.forM monitorTurn

def startMonitoring (answers : MonitorAnswers) (turns : List (MonitorTurn κ π)) :
    MonitorAction κ π Unit :=
  if answers.context then
    withHandle none (released do
      use
      if answers.monitor then withHandle none (released (monitorDevices answers turns))
      else throw "allocating udev monitor failure")
  else throw "udev context init failure"

/-! ### Objects that are released -/

section

omit [DecidableEq π]

variable {dev : UdevDevice} {s : Held UdevObject (Monitor κ π)}

/-- A device that is supported, but incomplete: its object is released by the loop and after it. -/
def SkipsIncomplete (object : UdevObject) : Prop :=
  ∃ dev supported, object = some (dev, supported) ∧ dev.Identified ∧
    (∃ device ∈ supported, dev.Matches device.2) ∧ dev.Incomplete

/-- What a turn of the loop does with an incomplete device. -/
lemma checkSupportedDevice_of_incomplete (h : dev.Incomplete)
    (supported : UInt16 × SupportedDevice) (s : Held UdevObject (Monitor κ π)) :
    ∃ s', checkSupportedDevice dev supported s = (.ok (), s') ∧
      (.release ∈ s'.calls ↔ .release ∈ s.calls ∨ dev.Matches supported.2) := by
  by_cases hmatches : dev.Matches supported.2
  · rw [checkSupportedDevice, if_pos hmatches]
    by_cases hnode : dev.devnode = ""
    · rw [if_pos hnode]
      refine ⟨_, rfl, iff_of_true ?_ (.inr hmatches)⟩
      exact List.mem_append_right _ List.mem_cons_self
    · obtain ⟨⟨n, hn⟩, hpath⟩ := h.resolve_left hnode
      rw [if_neg hnode]
      simp only [hn, if_pos hpath]
      refine ⟨_, rfl, iff_of_true ?_ (.inr hmatches)⟩
      exact List.mem_append_right _ List.mem_cons_self
  · rw [checkSupportedDevice, if_neg hmatches]
    exact ⟨s, rfl, (or_iff_left hmatches).symm⟩

lemma forM_checkSupportedDevice_of_incomplete (h : dev.Incomplete)
    (supported : List (UInt16 × SupportedDevice)) (s : Held UdevObject (Monitor κ π)) :
    ∃ s', supported.forM (checkSupportedDevice dev) s = (.ok (), s') ∧
      (.release ∈ s'.calls ↔ .release ∈ s.calls ∨ ∃ device ∈ supported, dev.Matches device.2) := by
  induction supported generalizing s with
  | nil => exact ⟨s, rfl, by simp⟩
  | cons device supported ih =>
    obtain ⟨s₁, hfirst, hs₁⟩ := checkSupportedDevice_of_incomplete h device s
    obtain ⟨s₂, hrest, hs₂⟩ := ih s₁
    exact ⟨s₂, (bind_of_ok hfirst).trans hrest, by simp [hs₂, hs₁, or_assoc]⟩

/-- The object is still needed, or it is released and an exception ends the search. -/
def NeededOrThrown (r : Except String Unit × Held UdevObject (Monitor κ π)) : Prop :=
  (r.1 = .ok () ∧ Needed r.2) ∨ (∃ e, r.1 = .error e) ∧ ReleasedOnce r.2.calls

lemma checkSupportedDevice_of_complete (h : ¬ dev.Incomplete) (hs : Needed s)
    (supported : UInt16 × SupportedDevice) :
    NeededOrThrown (checkSupportedDevice dev supported s) := by
  rw [UdevDevice.Incomplete, not_or] at h
  by_cases hmatches : dev.Matches supported.2
  · rw [checkSupportedDevice, if_pos hmatches]
    have hasked : Needed { s with calls := s.calls ++ [.use] ++ [.use] } :=
      needed_append_use (needed_append_use hs)
    rcases hnumbers : dev.numbers with e | n
    · simp only [if_neg h.1]
      exact .inr ⟨⟨_, rfl⟩, releasedOnce_append_release.mpr hasked⟩
    · have hpath : dev.devpath ≠ "" := fun hempty => h.2 ⟨⟨n, hnumbers⟩, hempty⟩
      simp only [if_neg h.1, if_neg hpath]
      exact .inl ⟨rfl, needed_append_use hasked⟩
  · rw [checkSupportedDevice, if_neg hmatches]
    exact .inl ⟨rfl, hs⟩

lemma forM_checkSupportedDevice_of_complete (h : ¬ dev.Incomplete) (hs : Needed s)
    (supported : List (UInt16 × SupportedDevice)) :
    NeededOrThrown (supported.forM (checkSupportedDevice dev) s) := by
  induction supported generalizing s with
  | nil => exact .inl ⟨rfl, hs⟩
  | cons device supported ih =>
    have hfirst := checkSupportedDevice_of_complete h hs device
    rcases hrun : checkSupportedDevice dev device s with ⟨e | _, s₁⟩ <;> rw [hrun] at hfirst
    · rcases hfirst with ⟨hok, -⟩ | hthrown
      · cases hok
      · have hloop : (device :: supported).forM (checkSupportedDevice dev) s = _ :=
          bind_of_error hrun
        rw [hloop]
        exact .inr hthrown
    · rcases hfirst with ⟨-, hneeded⟩ | ⟨⟨e, hthrown⟩, -⟩
      · have hloop : (device :: supported).forM (checkSupportedDevice dev) s = _ :=
          bind_of_ok hrun
        rw [hloop]
        exact ih hneeded
      · cases hthrown

/-- The object of a device, when the search is done with it. -/
lemma releasedOnce_examineDevice (dev : UdevDevice) (supported : List (UInt16 × SupportedDevice))
    (hs : Needed s) :
    ReleasedOnce (examineDevice dev supported s).2.calls ↔
      ¬ SkipsIncomplete (some (dev, supported)) := by
  have hskips : SkipsIncomplete (some (dev, supported)) ↔ dev.Identified ∧
      (∃ device ∈ supported, dev.Matches device.2) ∧ dev.Incomplete := by
    constructor
    · rintro ⟨dev', supported', hobject, h⟩
      cases hobject
      exact h
    · exact fun h => ⟨dev, supported, rfl, h⟩
  have hasked : Needed { s with calls := s.calls ++ [.use] } := needed_append_use hs
  rw [hskips, examineDevice]
  by_cases hidentified : dev.Identified
  · rw [if_pos hidentified, and_iff_right hidentified]
    change ReleasedOnce ((supported.forM (checkSupportedDevice dev) >>= fun _ => release)
      { s with calls := s.calls ++ [.use] }).2.calls ↔ _
    by_cases hincomplete : dev.Incomplete
    · obtain ⟨s', hloop, hs'⟩ :=
        forM_checkSupportedDevice_of_incomplete hincomplete supported
          { s with calls := s.calls ++ [.use] }
      rw [bind_of_ok hloop, and_iff_left hincomplete]
      refine releasedOnce_append_release.trans (not_congr ?_)
      rw [hs', or_iff_right hasked]
    · have hloop := forM_checkSupportedDevice_of_complete hincomplete hasked supported
      refine iff_of_true ?_ fun h => hincomplete h.2
      rcases hrun : supported.forM (checkSupportedDevice dev)
        { s with calls := s.calls ++ [.use] } with ⟨e | _, s'⟩ <;> rw [hrun] at hloop
      · rw [bind_of_error hrun]
        rcases hloop with ⟨hok, -⟩ | ⟨-, hreleased⟩
        · cases hok
        · exact hreleased
      · rw [bind_of_ok hrun]
        rcases hloop with ⟨-, hneeded⟩ | ⟨⟨e, hthrown⟩, -⟩
        · exact releasedOnce_append_release.mpr hneeded
        · cases hthrown
  · rw [if_neg hidentified]
    exact iff_of_true (releasedOnce_append_release.mpr hasked) fun h => hidentified h.1

end

/-- The object is released as it has to be, unless it is the one of a skipped device. -/
def ReleasedUnlessSkipped (object : Handle UdevObject) : Prop :=
  ReleasedOnce object.calls ↔ ¬ SkipsIncomplete object.what

section

omit [DecidableEq π]

variable {inv : Held UdevObject (Monitor κ π) → Prop}

lemma releasedUnlessSkipped_none {calls : List Call} (h : ReleasedOnce calls) :
    ReleasedUnlessSkipped ⟨none, calls⟩ := by
  refine iff_of_true h ?_
  rintro ⟨dev, supported, hobject, -⟩
  cases hobject

/-- All objects that are done with are released, but those of skipped devices. -/
def AllReleased : Held UdevObject (Monitor κ π) → Prop := AllEnded ReleasedUnlessSkipped

lemma keeps_check {p : Prop} [Decidable p] (e : String) :
    Keeps inv (check p e : MonitorAction κ π Unit) :=
  Keeps.ite (fun _ => Keeps.pure _) fun _ => Keeps.throw _

lemma allReleased_checkSupportedDevice (dev : UdevDevice) (supported : UInt16 × SupportedDevice) :
    Keeps AllReleased (checkSupportedDevice dev supported : MonitorAction κ π Unit) := by
  refine Keeps.ite (fun _ => allEnded_use.bind fun _ => ?_) fun _ => Keeps.pure _
  refine Keeps.ite (fun _ => allEnded_release) fun _ => allEnded_use.bind fun _ => ?_
  cases dev.numbers with
  | error e => exact allEnded_release.bind fun _ => Keeps.throw _
  | ok n =>
    exact allEnded_use.bind fun _ =>
      Keeps.ite (fun _ => allEnded_release) fun _ => allEnded_change _

lemma allReleased_examineDevice (dev : UdevDevice) (supported : List (UInt16 × SupportedDevice)) :
    Keeps AllReleased (examineDevice dev supported : MonitorAction κ π Unit) :=
  allEnded_use.bind fun _ => Keeps.ite
    (fun _ => (Keeps.forM fun device _ => allReleased_checkSupportedDevice dev device).bind
      fun _ => allEnded_release)
    fun _ => allEnded_release

lemma allReleased_searchEntry (entry : UdevEntry) :
    Keeps AllReleased (searchEntry entry : MonitorAction κ π Unit) := by
  refine Keeps.ite (fun _ => Keeps.throw _) fun _ => ?_
  cases entry.device with
  | none => exact Keeps.pure _
  | some dev =>
    intro s hs
    refine allEnded_withHandle (allReleased_examineDevice dev _) (fun s' hs' => ?_) s hs
    refine releasedOnce_examineDevice dev _ ?_
    rw [Needed, hs']
    exact List.not_mem_nil

lemma needed_searchEntry (entry : UdevEntry) :
    Keeps Needed (searchEntry entry : MonitorAction κ π Unit) := by
  refine Keeps.ite (fun _ => Keeps.throw _) fun _ => ?_
  cases entry.device with
  | none => exact Keeps.pure _
  | some dev => exact fun _ hs => hs

/-- An object other than a device, which is released at the end. -/
lemma allReleased_released {body : MonitorAction κ π Unit} (hended : Keeps AllReleased body)
    (hneeded : Keeps Needed body) : Keeps AllReleased (withHandle none (released body)) := by
  refine allEnded_withHandle (allEnded_released hended) fun s hs => ?_
  refine releasedUnlessSkipped_none (releasedOnce_released hneeded ?_)
  rw [Needed, hs]
  exact List.not_mem_nil

lemma allReleased_searchSupportedDevices (answers : SearchAnswers) :
    Keeps AllReleased (searchSupportedDevices answers : MonitorAction κ π Unit) := by
  refine Keeps.ite (fun _ => allReleased_released ?_ ?_) fun _ => Keeps.throw _
  · exact allEnded_use.bind fun _ => (keeps_check _).bind fun _ => allEnded_use.bind fun _ =>
      (keeps_check _).bind fun _ => allEnded_use.bind fun _ =>
        (keeps_check _).bind fun _ =>
          Keeps.forM fun entry _ => allReleased_searchEntry entry
  · exact needed_use.bind fun _ => (keeps_check _).bind fun _ => needed_use.bind fun _ =>
      (keeps_check _).bind fun _ => needed_use.bind fun _ =>
        (keeps_check _).bind fun _ =>
          Keeps.forM fun entry _ => needed_searchEntry entry

lemma needed_searchSupportedDevices (answers : SearchAnswers) :
    Keeps Needed (searchSupportedDevices answers : MonitorAction κ π Unit) :=
  Keeps.ite (fun _ => needed_withHandle _) fun _ => Keeps.throw _

lemma allReleased_handleDevice (device : ReceivedDevice) :
    Keeps AllReleased (handleDevice device : MonitorAction κ π Unit) :=
  allEnded_use.bind fun _ => (keeps_check _).bind fun _ =>
    (allReleased_searchSupportedDevices device.search).bind fun _ =>
      Keeps.ite (fun _ => allEnded_change _) fun _ => allEnded_change _

lemma needed_handleDevice (device : ReceivedDevice) :
    Keeps Needed (handleDevice device : MonitorAction κ π Unit) :=
  needed_use.bind fun _ => (keeps_check _).bind fun _ =>
    (needed_searchSupportedDevices device.search).bind fun _ =>
      Keeps.ite (fun _ => needed_change _) fun _ => needed_change _

lemma allReleased_receiveDevice (device : ReceivedDevice) :
    Keeps AllReleased (receiveDevice device : MonitorAction κ π Bool) := by
  refine allEnded_withHandle ?_ fun s hs => releasedUnlessSkipped_none ?_
  · refine Keeps.ite (fun _ => ?_) fun _ => ?_
    · exact allEnded_use.bind fun _ => allEnded_release.bind fun _ => Keeps.pure _
    · exact (allEnded_released (allReleased_handleDevice device)).bind fun _ => Keeps.pure _
  · have hneeded : Needed s := by
      rw [Needed, hs]
      exact List.not_mem_nil
    split_ifs
    · exact releasedOnce_append_release.mpr (needed_append_use hneeded)
    · have hreleased := releasedOnce_released (needed_handleDevice device) hneeded
      rcases hrun : released (handleDevice device) s with ⟨e | _, s'⟩ <;> rw [hrun] at hreleased
      · rw [bind_of_error hrun]
        exact hreleased
      · rw [bind_of_ok hrun]
        exact hreleased

lemma needed_receive (received : Option (Option ReceivedDevice)) :
    Keeps Needed (receive received : MonitorAction κ π Bool) := by
  rcases received with _ | _ | device
  · exact Keeps.pure _
  · exact needed_use.bind fun _ => Keeps.throw _
  · exact needed_use.bind fun _ => needed_withHandle _

lemma allReleased_receive (received : Option (Option ReceivedDevice)) :
    Keeps AllReleased (receive received : MonitorAction κ π Bool) := by
  rcases received with _ | _ | device
  · exact Keeps.pure _
  · exact allEnded_use.bind fun _ => Keeps.throw _
  · exact allEnded_use.bind fun _ => allReleased_receiveDevice device

end

section

variable {inv : Held UdevObject (Monitor κ π) → Prop}

/-- Only what is received works with objects of libudev. -/
lemma keeps_monitorTurn (turn : MonitorTurn κ π) (hreceive : Keeps inv (receive turn.received))
    (hchange : ∀ f, Keeps inv (change f : MonitorAction κ π Unit)) :
    Keeps inv (monitorTurn turn) :=
  hreceive.bind fun _ => Keeps.ite (fun _ => hchange _) fun _ => Keeps.pure _

lemma keeps_monitorDevices (answers : MonitorAnswers) (turns : List (MonitorTurn κ π))
    (huse : Keeps inv (use : MonitorAction κ π Unit))
    (hchange : ∀ f, Keeps inv (change f : MonitorAction κ π Unit))
    (hsearch : Keeps inv (searchSupportedDevices answers.search))
    (hreceive : ∀ received, Keeps inv (receive received : MonitorAction κ π Bool)) :
    Keeps inv (monitorDevices answers turns) :=
  huse.bind fun _ => (keeps_check _).bind fun _ => huse.bind fun _ => (keeps_check _).bind fun _ =>
    huse.bind fun _ => (keeps_check _).bind fun _ => (hchange _).bind fun _ =>
      hsearch.bind fun _ => (hchange _).bind fun _ =>
        Keeps.forM fun turn _ => keeps_monitorTurn turn (hreceive _) hchange

end

/-- However the monitoring goes and ends, each object of libudev is released once and not used after
that, unless it is the one of a supported device that has no node, or numbers but no path. -/
theorem startMonitoring_released (answers : MonitorAnswers) (turns : List (MonitorTurn κ π))
    (s : Monitor κ π) :
    ∀ object ∈ (startMonitoring answers turns { state := s }).2.ended,
      ReleasedOnce object.calls ↔ ¬ SkipsIncomplete object.what := by
  have hmonitor : Keeps AllReleased (withHandle none (released (monitorDevices answers turns))) :=
    allReleased_released
      (keeps_monitorDevices answers turns allEnded_use allEnded_change
        (allReleased_searchSupportedDevices _) allReleased_receive)
      (keeps_monitorDevices answers turns needed_use needed_change
        (needed_searchSupportedDevices _) needed_receive)
  have hall : Keeps AllReleased (startMonitoring answers turns) := by
    refine Keeps.ite (fun _ => allReleased_released ?_ ?_) fun _ => Keeps.throw _
    · exact allEnded_use.bind fun _ => Keeps.ite (fun _ => hmonitor) fun _ => Keeps.throw _
    · exact needed_use.bind fun _ =>
        Keeps.ite (fun _ => needed_withHandle _) fun _ => Keeps.throw _
  exact hall { state := s } fun object hobject => nomatch hobject

/-- A G510s. -/
def keyboardOf (devnode : String) : UdevDevice where
  vendorID := "046d"
  productID := "c22d"
  devnode := devnode
  devpath := "/devices/1-2"
  busnum := [49]
  devnum := [50]

def answersOf (dev : UdevDevice) : MonitorAnswers where
  search := { devices := [⟨"/sys/devices/1-2", some dev⟩] }
  opens := fun _ => .opened

/-- The daemon before its drivers are loaded. -/
def starting : Monitor κ π := { clients := { devicesManager := {} } }

theorem startMonitoring_released_withoutNode :
    ReleasedOnce [.use, .use, .release, .release] ↔
      ¬ SkipsIncomplete (some (keyboardOf "", knownDevices.map (GLOGIKD_DRIVER_ID_G510, ·))) :=
  startMonitoring_released (answersOf (keyboardOf "")) [] (starting : Monitor ℕ Unit)
    ⟨some (keyboardOf "", knownDevices.map (GLOGIKD_DRIVER_ID_G510, ·)),
      [.use, .use, .release, .release]⟩ (by decide +kernel)

/-! ### Devices that are found -/

section

omit [DecidableEq π]

/-- What the loop finds for a supported device. -/
def UdevDevice.found (dev : UdevDevice) (supported : UInt16 × SupportedDevice) :
    Option (USBDeviceID String) :=
  if dev.Matches supported.2 ∧ dev.devnode ≠ "" ∧ dev.devpath ≠ "" then
    dev.numbers.toOption.map (foundDevice supported)
  else none

def UdevEntry.found (supported : List (UInt16 × SupportedDevice)) (entry : UdevEntry) :
    List (USBDeviceID String) :=
  entry.device.elim [] fun dev => if dev.Identified then supported.filterMap dev.found else []

/-- The devices that a search finds. -/
def SearchAnswers.found (answers : SearchAnswers) (m : DevicesManager String) :
    List (USBDeviceID String) :=
  answers.devices.flatMap (UdevEntry.found (supportedDevices m))

lemma mem_devFound_iff {dev : UdevDevice} {supported : UInt16 × SupportedDevice}
    {det : USBDeviceID String} :
    dev.found supported = some det ↔ dev.Matches supported.2 ∧ dev.devnode ≠ "" ∧
      dev.devpath ≠ "" ∧ ∃ n, dev.numbers = .ok n ∧ foundDevice supported n = det := by
  rw [UdevDevice.found]
  split_ifs with hfound
  · rcases hnumbers : dev.numbers with e | n <;> simp [hfound, Except.toOption]
  · constructor
    · intro h
      cases h
    · rintro ⟨hmatches, hnode, hpath, -⟩
      exact absurd ⟨hmatches, hnode, hpath⟩ hfound

/-- What a search finds: each supported device that it enumerates with a node, numbers and path, and
nothing else. -/
lemma mem_found_iff {answers : SearchAnswers} {m : DevicesManager String}
    {det : USBDeviceID String} :
    det ∈ answers.found m ↔ ∃ entry ∈ answers.devices, ∃ dev, entry.device = some dev ∧
      dev.Identified ∧ ∃ supported ∈ supportedDevices m, dev.Matches supported.2 ∧
        dev.devnode ≠ "" ∧ dev.devpath ≠ "" ∧
          ∃ n, dev.numbers = .ok n ∧ foundDevice supported n = det := by
  simp only [SearchAnswers.found, List.mem_flatMap]
  refine exists_congr fun entry => and_congr_right fun _ => ?_
  rw [UdevEntry.found]
  cases hdevice : entry.device with
  | none => simp
  | some dev =>
    by_cases hidentified : dev.Identified
    · simp only [Option.elim_some, hidentified, if_true, List.mem_filterMap, mem_devFound_iff,
        Option.some.injEq, exists_eq_left', true_and]
    · simp [hidentified]

/-- The devices are detected, one after another. -/
def detectAll (dets : List (USBDeviceID String)) (m : DevicesManager String) :
    DevicesManager String :=
  { m with
    detectedDevices := dets.foldl (fun dets det => dets.insertIfNew det.devID det)
      m.detectedDevices }

lemma detectAll_append (dets dets' : List (USBDeviceID String)) (m : DevicesManager String) :
    detectAll (dets ++ dets') m = detectAll dets' (detectAll dets m) := by
  rw [detectAll, List.foldl_append]
  rfl

variable {dev : UdevDevice} {s s' : Held UdevObject (Monitor κ π)}

/-- The action detects the devices and changes nothing else, unless it throws. -/
def Detects (x : MonitorAction κ π Unit) (dets : DevicesManager String → List (USBDeviceID String)) :
    Prop :=
  ∀ s s', x s = (.ok (), s') →
    s'.state = s.state.changeDevices fun m => detectAll (dets m) m

lemma detects_checkSupportedDevice (dev : UdevDevice) (supported : UInt16 × SupportedDevice) :
    Detects (checkSupportedDevice dev supported : MonitorAction κ π Unit)
      fun _ => (dev.found supported).toList := by
  intro s s' h
  rw [checkSupportedDevice] at h
  rw [UdevDevice.found]
  by_cases hmatches : dev.Matches supported.2
  · rw [if_pos hmatches] at h
    by_cases hnode : dev.devnode = ""
    · rw [if_neg fun hfound => hfound.2.1 hnode]
      rw [if_pos hnode] at h
      cases h
      rfl
    · rw [if_neg hnode] at h
      rcases hnumbers : dev.numbers with e | n
      · simp only [hnumbers] at h
        cases h
      · simp only [hnumbers] at h
        by_cases hpath : dev.devpath = ""
        · rw [if_neg fun hfound => hfound.2.2 hpath]
          rw [if_pos hpath] at h
          cases h
          rfl
        · rw [if_pos ⟨hmatches, hnode, hpath⟩]
          rw [if_neg hpath] at h
          cases h
          rfl
  · rw [if_neg fun hfound => hmatches hfound.1]
    rw [if_neg hmatches] at h
    cases h
    rfl

/-- A loop detects what its turns do. The devices are those of the state before the loop, since the
drivers stay. -/
lemma Detects.forM {α : Type} {as : List α} {body : α → MonitorAction κ π Unit}
    {dets : α → DevicesManager String → List (USBDeviceID String)}
    (hbody : ∀ a ∈ as, Detects (body a) (dets a))
    (hdets : ∀ a, ∀ found m, dets a (detectAll found m) = dets a m) :
    Detects (as.forM body) fun m => as.flatMap (dets · m) := by
  intro s s' h
  induction as generalizing s with
  | nil =>
    cases h
    rfl
  | cons a as ih =>
    obtain ⟨ha, has⟩ := List.forall_mem_cons.mp hbody
    obtain ⟨_, s₁, hfirst, hrest⟩ := bind_eq_ok h
    rw [ih has s₁ hrest, ha s s₁ hfirst]
    simp only [Monitor.changeDevices, hdets, List.flatMap_cons, detectAll_append]

lemma detects_examineDevice (dev : UdevDevice) (supported : List (UInt16 × SupportedDevice)) :
    Detects (examineDevice dev supported : MonitorAction κ π Unit)
      fun _ => if dev.Identified then supported.filterMap dev.found else [] := by
  intro s s' h
  obtain ⟨_, s₁, huse, hbody⟩ := bind_eq_ok h
  cases huse
  by_cases hidentified : dev.Identified
  · rw [if_pos hidentified] at hbody ⊢
    obtain ⟨_, s₂, hloop, hrelease⟩ := bind_eq_ok hbody
    cases hrelease
    have hdetects := Detects.forM (fun device _ => detects_checkSupportedDevice dev device)
      (fun _ _ _ => rfl) _ _ hloop
    rw [List.filterMap_eq_flatMap_toList]
    exact hdetects
  · rw [if_neg hidentified] at hbody ⊢
    cases hbody
    rfl

lemma detects_searchEntry (entry : UdevEntry) :
    Detects (searchEntry entry : MonitorAction κ π Unit)
      fun m => entry.found (supportedDevices m) := by
  intro s s' h
  rw [searchEntry] at h
  split_ifs at h with hpath
  · cases h
  · rcases hdevice : entry.device with _ | dev <;> rw [hdevice] at h <;>
      simp only [UdevEntry.found, hdevice, Option.elim_none, Option.elim_some]
    · cases h
      rfl
    · obtain ⟨s'', hbody, hstate⟩ := withHandle_eq_ok h
      have hdetects := detects_examineDevice dev _ _ _ hbody
      rw [hstate, hdetects]
      rfl

/-- Only devices of a loaded driver are found. -/
lemma searchSupportedDevices_found (answers : SearchAnswers) (m : DevicesManager String) :
    m.searchSupportedDevices (answers.found m) = detectAll (answers.found m) m := by
  have hloaded : ∀ det ∈ answers.found m, m.drivers.any (·.driverID = det.driverID) := by
    intro det hdet
    obtain ⟨-, -, -, -, -, supported, hsupported, -, -, -, n, -, rfl⟩ := mem_found_iff.mp hdet
    obtain ⟨driver, hdriver, hdevices⟩ := List.mem_flatMap.mp hsupported
    obtain ⟨device, -, rfl⟩ := List.mem_map.mp hdevices
    exact List.any_eq_true.mpr ⟨driver, hdriver, decide_eq_true rfl⟩
  rw [DevicesManager.searchSupportedDevices, List.filter_eq_self.mpr hloaded]
  rfl

lemma check_eq_ok {p : Prop} [Decidable p] {e : String}
    (h : check p e s = (.ok (), s')) : s' = s := by
  rw [check] at h
  split_ifs at h <;> cases h
  rfl

/-- A search that succeeds is the one of the manager, with the devices it finds. -/
lemma searchSupportedDevices_eq {answers : SearchAnswers}
    (h : searchSupportedDevices answers s = (.ok (), s')) :
    s'.state = s.state.changeDevices fun m => m.searchSupportedDevices (answers.found m) := by
  rw [searchSupportedDevices] at h
  split_ifs at h with henumerates
  case neg => cases h
  obtain ⟨s₁, hreleased, hstate⟩ := withHandle_eq_ok h
  obtain ⟨s₂, hbody, hstate'⟩ := released_eq_ok hreleased
  obtain ⟨_, s₃, huse, hbody⟩ := bind_eq_ok hbody
  cases huse
  obtain ⟨_, s₄, hfilters, hbody⟩ := bind_eq_ok hbody
  obtain rfl := check_eq_ok hfilters
  obtain ⟨_, s₅, huse, hbody⟩ := bind_eq_ok hbody
  cases huse
  obtain ⟨_, s₆, hscans, hbody⟩ := bind_eq_ok hbody
  obtain rfl := check_eq_ok hscans
  obtain ⟨_, s₇, huse, hbody⟩ := bind_eq_ok hbody
  cases huse
  obtain ⟨_, s₈, hdevices, hloop⟩ := bind_eq_ok hbody
  obtain rfl := check_eq_ok hdevices
  have hdetects := Detects.forM (fun entry _ => detects_searchEntry entry) (fun _ _ _ => rfl) _ _
    hloop
  rw [hstate, hstate', hdetects]
  simp only [Monitor.changeDevices, searchSupportedDevices_found]
  rfl

end

/-! ### The main loop as a run of the daemon -/

/-- The event for a device, with the devices that its search finds. -/
def ReceivedDevice.event (device : ReceivedDevice) (m : DevicesManager String) :
    DaemonEvent κ π String :=
  if device.action = "add" then .udevAdd (device.search.found m)
  else .udevRemove (device.search.found m)

/-- After a filtered device the turn is over. -/
def goesOn : Option (Option ReceivedDevice) → Bool
  | some (some device) => !decide device.Filtered
  | _                  => true

/-- The event that is received, if there is any. -/
def receivedEvents (received : Option (Option ReceivedDevice)) (m : DevicesManager String) :
    List (DaemonEvent κ π String) :=
  match received with
  | some (some device) => if device.Filtered then [] else [device.event m]
  | _                  => []

/-- The events of a turn. -/
def Monitor.turnEvents (s : Monitor κ π) (turn : MonitorTurn κ π) :
    List (DaemonEvent κ π String) :=
  receivedEvents turn.received s.clients.devicesManager ++
    if goesOn turn.received then turn.events ++ if s.c ≥ 10 then [.checkThreads] else []
    else []

/-- What a turn is for the daemon. -/
def Monitor.step (s : Monitor κ π) (turn : MonitorTurn κ π) : Monitor κ π where
  clients := Run.run ClientsManager.step s.clients (s.turnEvents turn)
  c := if goesOn turn.received then if s.c ≥ 10 then 0 else s.c + 1 else s.c

section

variable {s s' : Held UdevObject (Monitor κ π)}

lemma receive_eq_ok {received : Option (Option ReceivedDevice)} {on : Bool}
    (h : receive received s = (.ok on, s')) :
    on = goesOn received ∧
      s'.state =
        { s.state with
          clients := Run.run ClientsManager.step s.state.clients
            (receivedEvents received s.state.clients.devicesManager) } := by
  rcases received with _ | _ | device
  · cases h
    exact ⟨rfl, rfl⟩
  · obtain ⟨_, s₁, huse, hthrow⟩ := bind_eq_ok h
    cases hthrow
  · obtain ⟨_, s₀, huse, hreceive⟩ := bind_eq_ok h
    cases huse
    obtain ⟨s₁, hbody, hstate⟩ := withHandle_eq_ok hreceive
    rw [hstate, goesOn, receivedEvents]
    by_cases hfiltered : device.Filtered
    · rw [if_pos hfiltered] at hbody ⊢
      cases hbody
      exact ⟨by simp [hfiltered], rfl⟩
    · rw [if_neg hfiltered] at hbody ⊢
      obtain ⟨_, s₂, hreleased, hpure⟩ := bind_eq_ok hbody
      cases hpure
      refine ⟨by simp [hfiltered], ?_⟩
      obtain ⟨s₃, hhandle, hstate'⟩ := released_eq_ok hreleased
      obtain ⟨_, s₄, huse, hhandle⟩ := bind_eq_ok hhandle
      cases huse
      obtain ⟨_, s₅, hcheck, hhandle⟩ := bind_eq_ok hhandle
      obtain rfl := check_eq_ok hcheck
      obtain ⟨_, s₆, hsearch, hhandle⟩ := bind_eq_ok hhandle
      have hfound := searchSupportedDevices_eq hsearch
      rw [hstate', Run.run_cons, Run.run_nil, ReceivedDevice.event]
      by_cases hadd : device.action = "add"
      · rw [if_pos hadd] at hhandle ⊢
        obtain ⟨-, rfl⟩ := Prod.mk.inj hhandle
        exact congrArg (Monitor.changeDevices · (·.initializeDevices false fun _ => .opened)) hfound
      · rw [if_neg hadd] at hhandle ⊢
        obtain ⟨-, rfl⟩ := Prod.mk.inj hhandle
        exact congrArg (Monitor.changeDevices · (·.checkForUnpluggedDevices)) hfound

lemma monitorTurn_eq_ok {turn : MonitorTurn κ π} (h : monitorTurn turn s = (.ok (), s')) :
    s'.state = s.state.step turn := by
  obtain ⟨on, s₁, hreceive, hrest⟩ := bind_eq_ok h
  obtain ⟨rfl, hreceived⟩ := receive_eq_ok hreceive
  rw [Monitor.step, Monitor.turnEvents, Run.run_append]
  cases hon : goesOn turn.received with
  | false =>
    rw [hon] at hrest
    cases hrest
    rw [hreceived]
    rfl
  | true =>
    rw [hon] at hrest
    obtain ⟨-, rfl⟩ := Prod.mk.inj hrest
    simp only [hreceived, Monitor.checkThreads, if_true, Run.run_append]
    split_ifs
    · rfl
    · rfl

lemma forM_monitorTurn_eq_ok {turns : List (MonitorTurn κ π)}
    (h : turns.forM monitorTurn s = (.ok (), s')) :
    s'.state = Run.run Monitor.step s.state turns := by
  induction turns generalizing s with
  | nil =>
    cases h
    rfl
  | cons turn turns ih =>
    obtain ⟨_, s₁, hfirst, hrest⟩ := bind_eq_ok h
    rw [ih hrest, monitorTurn_eq_ok hfirst, Run.run_cons]

/-- The monitor when the main loop begins. -/
def monitoring (answers : MonitorAnswers) : Monitor κ π where
  clients := GLogiK.startMonitoring GLOGIKD_DRIVER_ID_G510 (answers.search.found (loadDrivers {}))
    answers.opens

lemma monitorDevices_eq_ok {answers : MonitorAnswers} {turns : List (MonitorTurn κ π)}
    (hs : s.state = starting) (h : monitorDevices answers turns s = (.ok (), s')) :
    s'.state = Run.run Monitor.step (monitoring answers) turns := by
  obtain ⟨_, s₁, huse, h⟩ := bind_eq_ok h
  cases huse
  obtain ⟨_, s₂, hfilters, h⟩ := bind_eq_ok h
  obtain rfl := check_eq_ok hfilters
  obtain ⟨_, s₃, huse, h⟩ := bind_eq_ok h
  cases huse
  obtain ⟨_, s₄, hreceives, h⟩ := bind_eq_ok h
  obtain rfl := check_eq_ok hreceives
  obtain ⟨_, s₅, huse, h⟩ := bind_eq_ok h
  cases huse
  obtain ⟨_, s₆, hfd, h⟩ := bind_eq_ok h
  obtain rfl := check_eq_ok hfd
  obtain ⟨_, s₇, hload, h⟩ := bind_eq_ok h
  obtain ⟨-, rfl⟩ := Prod.mk.inj hload
  obtain ⟨_, s₈, hsearch, h⟩ := bind_eq_ok h
  have hsearched : s₈.state = (starting.changeDevices loadDrivers).changeDevices
      fun m => m.searchSupportedDevices (answers.search.found m) := by
    rw [← hs]
    exact searchSupportedDevices_eq hsearch
  obtain ⟨_, s₉, hstarts, hloop⟩ := bind_eq_ok h
  obtain ⟨-, rfl⟩ := Prod.mk.inj hstarts
  have hstart : monitoring answers = s₈.state.changeDevices fun m =>
      let m := m.initializeDevices true answers.opens
      m.send (sendSignalToClients m.numClients .daemonIsStarting true) := by
    rw [hsearched]
    rfl
  rw [hstart]
  exact forM_monitorTurn_eq_ok hloop

end

lemma reachable_run (turns : List (MonitorTurn κ π)) (s : Monitor κ π) :
    Run.Reachable ClientsManager.step s.clients (Run.run Monitor.step s turns).clients := by
  induction turns generalizing s with
  | nil => exact Run.Reachable.refl
  | cons turn turns ih =>
    have hturn : Run.Reachable ClientsManager.step s.clients (s.step turn).clients :=
      ⟨s.turnEvents turn, rfl⟩
    exact hturn.trans (ih (s.step turn))

/-- The monitoring that does not throw is a run of the daemon: it begins with the devices that the
first search finds, and each turn is the udev event with those that its search finds, the D-Bus
messages, and once in eleven turns the check of the threads. -/
theorem startMonitoring_reachable (answers : MonitorAnswers) (turns : List (MonitorTurn κ π))
    (hok : (startMonitoring answers turns { state := starting }).1 = .ok ()) :
    let s := (startMonitoring answers turns { state := starting }).2.state
    s = Run.run Monitor.step (monitoring answers) turns ∧ ReachableDaemon s.clients := by
  intro s
  have hrun : s = Run.run Monitor.step (monitoring answers) turns := by
    rcases h : startMonitoring answers turns { state := starting } with ⟨e | _, s'⟩ <;>
      rw [h] at hok
    · cases hok
    have hs : s = s'.state := congrArg (·.2.state) h
    rw [startMonitoring] at h
    by_cases hcontext : answers.context
    · rw [if_pos hcontext] at h
      obtain ⟨s₁, hreleased, hstate₁⟩ := withHandle_eq_ok h
      obtain ⟨s₂, hbody, hstate₂⟩ := released_eq_ok hreleased
      obtain ⟨_, s₃, huse, hbody⟩ := bind_eq_ok hbody
      cases huse
      by_cases hmonitor : answers.monitor
      · rw [if_pos hmonitor] at hbody
        obtain ⟨s₄, hreleased', hstate₄⟩ := withHandle_eq_ok hbody
        obtain ⟨s₅, hdevices, hstate₅⟩ := released_eq_ok hreleased'
        rw [hs, hstate₁, hstate₂, hstate₄, hstate₅]
        exact monitorDevices_eq_ok rfl hdevices
      · rw [if_neg hmonitor] at hbody
        cases hbody
    · rw [if_neg hcontext] at h
      cases h
  refine ⟨hrun, GLOGIKD_DRIVER_ID_G510, answers.search.found (loadDrivers {}), answers.opens, ?_⟩
  rw [hrun]
  exact reachable_run turns (monitoring answers)

theorem startMonitoring_reachable_G510 :
    let answers := answersOf (keyboardOf "/dev/bus/usb/001/002")
    let s := (startMonitoring answers [] { state := (starting : Monitor ℕ Unit) }).2.state
    s = Run.run Monitor.step (monitoring answers) [] ∧ ReachableDaemon s.clients :=
  startMonitoring_reachable _ _ (by decide +kernel)

end Udev

end GLogiK
