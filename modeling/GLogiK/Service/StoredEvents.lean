import GLogiK.Service.DeviceMoves
import GLogiK.Service.GKeysEventManager

/-!
# The events that are stored

The event of a G-key comes from a file, from a macro that was received, or it is the one of the
constructor. A property that these have is a property of all events in the containers.
-/

namespace GLogiK

open GKeysEventManager

variable {δ : Type*} [LinearOrder δ]

/-- The events of the constructor have the property, and clearing the macro keeps it. -/
structure KeptByClear (P : GKeysEvent → Prop) : Prop where
  default : P {}
  clear : ∀ event : GKeysEvent, P event →
    P { event with GKeyMacro := [], GKeyEventType := .gkeyInactive }

variable {P : GKeysEvent → Prop}

/-! ### Events of the banks -/

namespace BanksByID

variable {banks : BanksByID} {bankID keyID : EnumByte} {events : MacroType} {event : GKeysEvent}

def AllEvents (P : GKeysEvent → Prop) (banks : BanksByID) : Prop :=
  ∀ bankID keyID event, slot banks bankID keyID = some event → P event

lemma slot_insert (bank : MBank) (bankID' keyID' : EnumByte) :
    slot (banks.insert bankID bank) bankID' keyID' =
      if bankID' = bankID then bank[keyID']? else slot banks bankID' keyID' := by
  rw [slot, getElem?_insert_eq]
  split_ifs
  · rfl
  · rfl

lemma allEvents_empty : AllEvents P ∅ := by
  intro bankID keyID event hslot
  simp [slot] at hslot

/-- One event is changed. -/
lemma AllEvents.insert {bank : MBank} (h : banks.AllEvents P) (hbank : banks[bankID]? = some bank)
    (hevent : P event) : AllEvents P (banks.insert bankID (bank.insert keyID event)) := by
  intro bankID' keyID' event' hslot
  rw [slot_insert] at hslot
  split_ifs at hslot with hsame
  · rw [getElem?_insert_eq] at hslot
    split_ifs at hslot
    · cases hslot
      exact hevent
    · exact h bankID keyID' event' (by rwa [slot_eq_of_bank hbank])
  · exact h bankID' keyID' event' hslot

lemma AllEvents.checkBanksKeys (h : banks.AllEvents P) : banks.checkBanksKeys.AllEvents P := by
  intro bankID keyID event hslot
  rw [slot, getElem?_checkBanksKeys] at hslot
  by_cases hID : bankID ≤ MKeyID_MAX
  swap
  · rw [if_neg hID] at hslot
    cases hslot
  rw [if_pos hID] at hslot
  cases hbank : banks[bankID]? with
  | none =>
    rw [hbank] at hslot
    cases hslot
  | some bank =>
    rw [hbank, Option.map_some, Option.bind_some, Std.ExtTreeMap.getElem?_filter',
      Option.filter_eq_some_iff] at hslot
    exact h bankID keyID event (by rw [slot_eq_of_bank hbank, hslot.1])

lemma allEvents_initBanks (hP : KeptByClear P) (MKeysIDArray GKeysIDArray : List EnumByte) :
    AllEvents P ((∅ : BanksByID).initBanks MKeysIDArray GKeysIDArray) := by
  by_cases hne : MKeysIDArray = []
  · rw [initBanks, if_pos hne]
    exact allEvents_empty
  · intro bankID keyID event hslot
    rw [slot, getElem?_initBanks hne] at hslot
    split_ifs at hslot
    · rw [Option.bind_some, initBank,
        ServiceFiles.getElem?_foldl_insertIfNew fun _ => ({} : GKeysEvent)] at hslot
      have hdefault : event = {} := by grind
      rw [hdefault]
      exact hP.default
    · cases hslot

lemma AllEvents.setMacro {banks' : BanksByID} (h : banks.AllEvents P)
    (hP : P (.new (checkMacro events)))
    (hset : banks.setMacro bankID keyID events = .ok banks') : banks'.AllEvents P := by
  rw [BanksByID.setMacro] at hset
  by_cases hkey : keyID = invalidKeyID
  · rw [if_pos hkey] at hset
    cases hset
    exact h
  · rw [if_neg hkey] at hset
    cases hbank : banks[bankID]? with
    | none =>
      rw [hbank] at hset
      cases hset
    | some bank =>
      rw [hbank] at hset
      dsimp only at hset
      split_ifs at hset
      cases hset
      exact h.insert hbank hP

lemma AllEvents.clearMacro {r : BanksByID × Bool} (h : banks.AllEvents P) (hP : KeptByClear P)
    (hclear : banks.clearMacro bankID keyID = .ok r) : r.1.AllEvents P := by
  rw [BanksByID.clearMacro] at hclear
  by_cases hkey : keyID = invalidKeyID
  · rw [if_pos hkey] at hclear
    cases hclear
  · rw [if_neg hkey] at hclear
    cases hbank : banks[bankID]? with
    | none =>
      rw [hbank] at hclear
      cases hclear
    | some bank =>
      rw [hbank] at hclear
      dsimp only at hclear
      cases hevent : bank[keyID]? with
      | none =>
        rw [hevent] at hclear
        cases hclear
      | some event =>
        rw [hevent] at hclear
        dsimp only at hclear
        split_ifs at hclear
        · cases hclear
          exact h
        · cases hclear
          refine h.insert hbank (hP.clear event ?_)
          exact h bankID keyID event (by rw [slot_eq_of_bank hbank, hevent])

end BanksByID

/-! ### Events of a device -/

/-- A file that is read has only such events. -/
def FileBrings (P : GKeysEvent → Prop) (file : Option SavedConfiguration) : Prop :=
  ∀ configuration ∈ file, configuration.GKeysBanks.AllEvents P

namespace DeviceRecord

variable {device : DeviceRecord}

lemma allEvents_load {file : Option SavedConfiguration} (h : device.GKeysBanks.AllEvents P)
    (hfile : FileBrings P file) : (device.load file).GKeysBanks.AllEvents P := by
  cases file with
  | none => exact h.checkBanksKeys
  | some file => exact BanksByID.AllEvents.checkBanksKeys (hfile file rfl)

end DeviceRecord

lemma DeviceAnswers.allEvents_queried (hP : KeptByClear P) (answers : DeviceAnswers) :
    answers.queried.GKeysBanks.AllEvents P := by
  rw [queried]
  cases answers.properties <;> cases answers.LCDPluginsProperties <;> dsimp only <;> split_ifs <;>
    first
    | exact BanksByID.allEvents_initBanks hP _ _
    | exact BanksByID.allEvents_empty

/-! ### Events of the containers -/

namespace ServiceDevices

variable {s s' : ServiceDevices δ} {devID : δ} {device : DeviceRecord}

/-- Every device of a container has only such events. -/
def MapEvents (P : GKeysEvent → Prop) (devices : StdMap δ DeviceRecord) : Prop :=
  ∀ (devID : δ) (device : DeviceRecord), devices[devID]? = some device →
    device.GKeysBanks.AllEvents P

lemma MapEvents.insert {devices : StdMap δ DeviceRecord} (h : MapEvents P devices)
    (hdevice : device.GKeysBanks.AllEvents P) : MapEvents P (devices.insert devID device) := by
  intro devID' device' hget
  rw [getElem?_insert_eq] at hget
  split_ifs at hget
  · cases hget
    exact hdevice
  · exact h devID' device' hget

lemma MapEvents.erase {devices : StdMap δ DeviceRecord} (h : MapEvents P devices) :
    MapEvents P (devices.erase devID) := by
  intro devID' device' hget
  rw [getElem?_erase_eq] at hget
  split_ifs at hget
  exact h devID' device' hget

/-- All events of all devices have the property. -/
structure AllEvents (P : GKeysEvent → Prop) (s : ServiceDevices δ) : Prop where
  started : MapEvents P s.startedDevices
  stopped : MapEvents P s.stoppedDevices

lemma AllEvents.congr (h : s.AllEvents P) (hsame : SameContainers s s') : s'.AllEvents P :=
  ⟨hsame.started ▸ h.started, hsame.stopped ▸ h.stopped⟩

/-- Neither the directory nor the descriptor of its watch is about the events. -/
lemma allEvents_initializeConfigurationDirectory (check : Bool) (answer : DirectoryAnswer)
    (h : device.GKeysBanks.AllEvents P) :
    (s.initializeConfigurationDirectory device check answer).2.GKeysBanks.AllEvents P := by
  rwa [eq_initializeConfigurationDirectory (f := fun device => device.GKeysBanks) fun _ _ => rfl]

lemma allEvents_setDeviceProperties (hP : KeptByClear P) {answers : DeviceAnswers}
    (hanswers : FileBrings P answers.file) :
    (s.setDeviceProperties devID answers).2.GKeysBanks.AllEvents P := by
  have hqueried := answers.allEvents_queried hP
  rw [setDeviceProperties]
  simp only
  split
  · exact DeviceRecord.allEvents_load
      (allEvents_initializeConfigurationDirectory _ _ hqueried) hanswers
  · split
    · exact allEvents_initializeConfigurationDirectory _ _ hqueried
    · exact hqueried

lemma AllEvents.startDevice (h : s.AllEvents P) (hP : KeptByClear P) {answers : DeviceAnswers}
    (hanswers : FileBrings P answers.file) : (s.startDevice devID answers).AllEvents P := by
  rw [ServiceDevices.startDevice]
  cases hstarted : s.startedDevices[devID]? with
  | some device => exact h
  | none =>
    cases hstopped : s.stoppedDevices[devID]? with
    | some device => exact ⟨h.started.insert (h.stopped devID device hstopped), h.stopped.erase⟩
    | none =>
      have hset := h.congr (sameContainers_setDeviceProperties devID answers)
      exact ⟨hset.started.insert (allEvents_setDeviceProperties hP hanswers), hset.stopped⟩

lemma AllEvents.moveToStopped (h : s.AllEvents P) (hdevice : s.startedDevices[devID]? = some device) :
    (s.moveToStopped devID device).AllEvents P :=
  ⟨h.started.erase, h.stopped.insert (h.started devID device hdevice)⟩

lemma AllEvents.stopDevice (h : s.AllEvents P) (hP : KeptByClear P) {answers : DeviceAnswers}
    (hanswers : FileBrings P answers.file) : (s.stopDevice devID answers).AllEvents P := by
  rw [ServiceDevices.stopDevice]
  cases hstopped : s.stoppedDevices[devID]? with
  | some device => exact h
  | none =>
    cases hstarted : s.startedDevices[devID]? with
    | some device => exact h.moveToStopped hstarted
    | none =>
      have hstart : (s.startDevice devID answers).AllEvents P := h.startDevice hP hanswers
      cases hget : (s.startDevice devID answers).startedDevices[devID]? with
      | some device => simpa only [hget] using hstart.moveToStopped hget
      | none => simpa only [hget] using hstart

lemma AllEvents.unrefDevice (h : s.AllEvents P) : (s.unrefDevice devID).AllEvents P := by
  rw [ServiceDevices.unrefDevice]
  cases s.stoppedDevices[devID]? with
  | some device => exact ⟨h.started, h.stopped.erase⟩
  | none => exact h

lemma AllEvents.unplugDevice (h : s.AllEvents P) (hP : KeptByClear P) {answers : DeviceAnswers}
    (hanswers : FileBrings P answers.file) : (s.unplugDevice devID answers).AllEvents P := by
  rw [ServiceDevices.unplugDevice]
  cases s.stoppedDevices[devID]? with
  | some device => exact h.unrefDevice
  | none => exact (h.stopDevice hP hanswers).unrefDevice

lemma allEvents_clearDevices (answers : δ → DeviceAnswers) : (s.clearDevices answers).AllEvents P :=
  ⟨fun _ _ hget => by simp [clearDevices] at hget, fun _ _ hget => by simp [clearDevices] at hget⟩

lemma AllEvents.changeStarted (h : s.AllEvents P) {change : DeviceRecord → Option DeviceRecord}
    (hchange : ∀ device device', device.GKeysBanks.AllEvents P → change device = some device' →
      device'.GKeysBanks.AllEvents P) : (s.changeStarted devID change).AllEvents P := by
  rw [ServiceDevices.changeStarted]
  cases hget : s.startedDevices[devID]?.bind change with
  | none => exact h
  | some device =>
    obtain ⟨before, hbefore, hafter⟩ := Option.bind_eq_some_iff.mp hget
    exact ⟨h.started.insert (hchange before device (h.started devID before hbefore) hafter),
      h.stopped⟩

lemma AllEvents.reloadDeviceConfigurationFile (h : s.AllEvents P)
    {file : Option SavedConfiguration} (hfile : FileBrings P file) :
    (s.reloadDeviceConfigurationFile devID file).AllEvents P := by
  rw [ServiceDevices.reloadDeviceConfigurationFile]
  split_ifs
  · exact ⟨h.started, h.stopped⟩
  · cases hstarted : s.startedDevices[devID]? with
    | some device =>
      have hdevice := DeviceRecord.allEvents_load (h.started devID device hstarted) hfile
      exact ⟨h.started.insert hdevice, h.stopped⟩
    | none =>
      cases hstopped : s.stoppedDevices[devID]? with
      | some device =>
        have hdevice := DeviceRecord.allEvents_load (h.stopped devID device hstopped) hfile
        exact ⟨h.started, h.stopped.insert hdevice⟩
      | none => exact h

lemma AllEvents.checkNotifyEvents (h : s.AllEvents P) (reads : List (List InotifyEvent))
    {files : δ → Option SavedConfiguration} (hfiles : ∀ devID, FileBrings P (files devID)) :
    (s.checkNotifyEvents reads files).AllEvents P := by
  have hfoldl : ∀ (devIDs : List δ) (s : ServiceDevices δ), s.AllEvents P →
      (devIDs.foldl (fun s devID => s.reloadDeviceConfigurationFile devID (files devID))
        s).AllEvents P := by
    intro devIDs
    induction devIDs with
    | nil => exact fun _ hs => hs
    | cons devID devIDs ih => exact fun s hs => ih _ (hs.reloadDeviceConfigurationFile (hfiles devID))
  exact hfoldl _ _ ⟨h.started, h.stopped⟩

lemma AllEvents.saveDeviceConfigurationFile (h : s.AllEvents P) (answer : DirectoryAnswer) :
    (s.saveDeviceConfigurationFile devID answer).AllEvents P := by
  rw [ServiceDevices.saveDeviceConfigurationFile]
  cases hdevice : s.startedDevices[devID]? with
  | none => exact h
  | some device =>
    have hsame := h.congr
      (sameContainers_initializeConfigurationDirectory (s := s) device true answer)
    have hinit := allEvents_initializeConfigurationDirectory (s := s) true answer
      (h.started devID device hdevice)
    exact ⟨hsame.started.insert hinit, hsame.stopped⟩

end ServiceDevices

/-! ### What the events bring -/

/-- The files that are read and the macro that is received have only such events. -/
def DevicesEvent.Brings (P : GKeysEvent → Prop) : DevicesEvent δ → Prop
  | .startDevice _ answers | .stopDevice _ answers | .unplugDevice _ answers =>
    FileBrings P answers.file
  | .setDeviceMacro _ _ events => P (.new (checkMacro events))
  | .checkNotifyEvents _ files => ∀ devID, FileBrings P (files devID)
  | .clearDevices _ | .saveDeviceConfigurationFile _ _ | .setDeviceCurrentBankID _ _ |
    .clearDeviceMacro _ _ => True

lemma eq_ok_of_toOption {ε α : Type*} {result : Except ε α} {a : α}
    (h : result.toOption = some a) : result = .ok a := by
  cases result with
  | error e => cases h
  | ok b =>
    cases h
    rfl

/-- What is brought in is all there is. -/
lemma ServiceDevices.AllEvents.step {s : ServiceDevices δ} {event : DevicesEvent δ}
    (h : s.AllEvents P) (hP : KeptByClear P) (hevent : event.Brings P) :
    (s.step event).AllEvents P := by
  cases event with
  | startDevice devID answers => exact h.startDevice hP hevent
  | stopDevice devID answers => exact h.stopDevice hP hevent
  | unplugDevice devID answers => exact h.unplugDevice hP hevent
  | clearDevices answers => exact ServiceDevices.allEvents_clearDevices answers
  | saveDeviceConfigurationFile devID answer => exact h.saveDeviceConfigurationFile answer
  | setDeviceCurrentBankID devID bankID =>
    refine h.changeStarted fun device device' hdevice hchange => ?_
    cases hchange
    exact hdevice
  | setDeviceMacro devID keyID events =>
    refine h.changeStarted fun device device' hdevice hchange => ?_
    obtain ⟨banks, hbanks, rfl⟩ := Option.map_eq_some_iff.mp hchange
    exact hdevice.setMacro hevent (eq_ok_of_toOption hbanks)
  | clearDeviceMacro devID keyID =>
    refine h.changeStarted fun device device' hdevice hchange => ?_
    obtain ⟨r, hr, rfl⟩ := Option.map_eq_some_iff.mp hchange
    exact hdevice.clearMacro hP (eq_ok_of_toOption hr)
  | checkNotifyEvents reads files => exact h.checkNotifyEvents reads hevent

end GLogiK
