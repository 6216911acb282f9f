import GLogiK.DBus.Containers
import GLogiK.DBus.GKDBusEvent
import GLogiK.DBus.RoundTrip
import GLogiK.Keyboard.Session
import GLogiK.Keyboard.Signals

/-!
# The signals of the devices

The listening thread of the daemon broadcasts a message for each of its signals. The desktop service
reads the arguments with the signature that it declared for the member of the message.
-/

namespace GLogiK

variable {δ : Type*}

/-! ### Messages -/

namespace DeviceSignal

def member : DeviceSignal δ → String
  | .deviceMBankSwitch _ _     => "DeviceMBankSwitch"
  | .deviceMacroRecorded _ _ _ => "DeviceMacroRecorded"
  | .deviceMacroCleared _ _    => "DeviceMacroCleared"
  | .deviceGKeyEvent _ _       => "DeviceGKeyEvent"

/-- What is appended to the broadcast signal. -/
def body : DeviceSignal String → List Value
  | .deviceMBankSwitch devID bankID => [appendString devID, appendUInt8 bankID.toEnumType]
  | .deviceMacroRecorded devID keyID recorded =>
    [appendString devID, appendUInt8 (.ofNat keyID)] ++ appendMacro recorded
  | .deviceMacroCleared devID keyID | .deviceGKeyEvent devID keyID =>
    [appendString devID, appendUInt8 (.ofNat keyID)]

lemma wellFormed_appendMacro (recorded : MacroType) : WellFormedAll (appendMacro recorded) := by
  refine ⟨elementsOf_map.mpr fun keyEvent _ => ⟨rfl, ?_, ?_⟩, trivial⟩
  · exact List.cons_ne_nil _ _
  · exact ⟨trivial, trivial, trivial, trivial⟩

lemma wellFormed_body (signal : DeviceSignal String) : WellFormedAll signal.body := by
  cases signal with
  | deviceMBankSwitch devID bankID => exact ⟨wellFormed_appendString devID, trivial, trivial⟩
  | deviceMacroRecorded devID keyID recorded =>
    exact ⟨wellFormed_appendString devID, trivial, wellFormed_appendMacro recorded⟩
  | deviceMacroCleared devID keyID | deviceGKeyEvent devID keyID =>
    exact ⟨wellFormed_appendString devID, trivial, trivial⟩

/-- The message that reaches the receivers. -/
def message (signal : DeviceSignal String) : DBusMessage where
  type := .signal
  path := "/com/glogik/Daemon/DevicesManager"
  interface := some "com.glogik.Daemon.Device1"
  member := signal.member
  arguments := ⟨signal.body, signal.wellFormed_body⟩

end DeviceSignal

/-- The signal that the callback function of the member is called for. `none` is a message without
a callback function, or one whose decoding breaks a rule of libdbus. -/
def DBusMessage.deviceSignal (message : DBusMessage) (before : Arguments) :
    Option (Except GLogiKExcept (DeviceSignal String)) :=
  if message.member = "DeviceMBankSwitch" then
    (SIG.getArguments message.member message before .sm2v).map fun result =>
      result.map fun args => .deviceMBankSwitch args.1 args.2
  else if message.member = "DeviceMacroRecorded" then
    (SIG.getArguments message.member message before .sGM2v).map fun result =>
      result.map fun args => .deviceMacroRecorded args.1 args.2.1 args.2.2
  else if message.member = "DeviceMacroCleared" then
    (SIG.getArguments message.member message before .sG2v).map fun result =>
      result.map fun args => .deviceMacroCleared args.1 args.2
  else if message.member = "DeviceGKeyEvent" then
    (SIG.getArguments message.member message before .sG2v).map fun result =>
      result.map fun args => .deviceGKeyEvent args.1 args.2
  else none

/-! ### Reading the keys -/

lemma MKeysID.ofEnumType_toEnumType (bankID : MKeysID) :
    MKeysID.ofEnumType bankID.toEnumType = some bankID := by
  cases bankID <;> rfl

lemma reads_getNextMKeysIDArgument (bankID : MKeysID) :
    Reads getNextMKeysIDArgument [.byte bankID.toEnumType] bankID := by
  apply Reads.rebuilding
  refine (reads_getNextByteArgument bankID.toEnumType).bind ?_
  rw [MKeysID.ofEnumType_toEnumType]
  exact reads_pure bankID

lemma reads_getNextGKeysIDArgument {keyID : GKeysID} (h : keyID ≠ GKeyID_INV) :
    Reads getNextGKeysIDArgument [.byte (.ofNat keyID)] keyID := by
  have hvalue : (UInt8.ofNat keyID).toNat = keyID := by
    rw [UInt8.toNat_ofNat']
    exact Nat.mod_eq_of_lt (keyID.isLt.trans (by decide))
  apply Reads.rebuilding
  refine (reads_getNextByteArgument (.ofNat keyID)).bind ?_
  have hlt : (UInt8.ofNat keyID).toNat < 19 := by
    rw [hvalue]
    exact keyID.isLt
  have hkey : (⟨(UInt8.ofNat keyID).toNat, hlt⟩ : GKeysID) = keyID := Fin.ext hvalue
  rw [dif_pos hlt]
  simp only [hkey, if_neg h]
  exact reads_pure keyID

/-! ### What is received -/

/-- Any other key or macro is refused when the message is read. -/
def DeviceSignal.Readable : DeviceSignal δ → Prop
  | .deviceMBankSwitch _ _              => True
  | .deviceMacroRecorded _ keyID events => keyID ≠ GKeyID_INV ∧ events ≠ []
  | .deviceMacroCleared _ keyID         => keyID ≠ GKeyID_INV
  | .deviceGKeyEvent _ keyID            => keyID ≠ GKeyID_INV

/-- The arguments of the message, as a list. -/
def DeviceSignal.args : DeviceSignal String → List Argument
  | .deviceMBankSwitch devID bankID => [.string devID, .byte bankID.toEnumType]
  | .deviceMacroRecorded devID keyID recorded =>
    [.string devID, .byte (.ofNat keyID), .events recorded]
  | .deviceMacroCleared devID keyID | .deviceGKeyEvent devID keyID =>
    [.string devID, .byte (.ofNat keyID)]

lemma DeviceSignal.body_eq (signal : DeviceSignal String) :
    signal.body = signal.args.flatMap Argument.append := by
  cases signal <;> simp [body, args, Argument.append]

open Arguments

lemma leaves_appendString_pair (devID : String) (value : UInt8) (rest : List Value) :
    leavesOf (appendString devID :: appendUInt8 value :: rest) =
      (appendString devID).leaves ++ ([.byte value] ++ leavesOf rest) := by
  rw [leavesOf, leavesOf]
  rfl

/-- A device and a bank are read. -/
lemma readArguments_sm2v (devID : String) (bankID : MKeysID) (under : Arguments) :
    (SIG.readArguments .sm2v
      (ofLeaves (leavesOf [appendString devID, appendUInt8 bankID.toEnumType]) ++ under)).1 =
        .ok (devID, bankID) := by
  have hread : Reads (SIG.readArguments .sm2v)
      ((appendString devID).leaves ++ ([.byte bankID.toEnumType] ++ [])) (devID, bankID) :=
    (reads_getNextStringArgument devID).bind
      ((reads_getNextMKeysIDArgument bankID).bind (reads_pure _))
  rw [leaves_appendString_pair]
  exact congrArg Prod.fst (hread under)

/-- A device and a key are read. -/
lemma readArguments_sG2v (devID : String) {keyID : GKeysID} (h : keyID ≠ GKeyID_INV)
    (under : Arguments) :
    (SIG.readArguments .sG2v
      (ofLeaves (leavesOf [appendString devID, appendUInt8 (.ofNat keyID)]) ++ under)).1 =
        .ok (devID, keyID) := by
  have hread : Reads (SIG.readArguments .sG2v)
      ((appendString devID).leaves ++ ([.byte (.ofNat keyID)] ++ [])) (devID, keyID) :=
    (reads_getNextStringArgument devID).bind
      ((reads_getNextGKeysIDArgument h).bind (reads_pure _))
  rw [leaves_appendString_pair]
  exact congrArg Prod.fst (hread under)

/-- A macro is the last argument, since it takes all bytes that are left. -/
lemma readArguments_sGM2v (devID : String) {keyID : GKeysID} (h : keyID ≠ GKeyID_INV)
    {recorded : MacroType} (hne : recorded ≠ []) {under : Arguments}
    (hunder : under.byteArguments = []) :
    (SIG.readArguments .sGM2v (ofLeaves (leavesOf
      ([appendString devID, appendUInt8 (.ofNat keyID)] ++ appendMacro recorded)) ++ under)).1 =
        .ok (devID, keyID, recorded) := by
  have hmacro := reads_getNextMacroArgument hunder hne
  rw [List.cons_append, List.cons_append, List.nil_append, leaves_appendString_pair,
    ofLeaves_append, ofLeaves_append, SIG.readArguments,
    ArgReader.bind_eq_of_ok (reads_getNextStringArgument devID _),
    ArgReader.bind_eq_of_ok (reads_getNextGKeysIDArgument h _), ArgReader.bind_eq_of_ok hmacro]
  rfl

/-- The signal is received as it was sent, whatever an earlier message left behind. -/
lemma deviceSignal_message {signal : DeviceSignal String} (h : signal.Readable)
    (before : Arguments) : signal.message.deviceSignal before = some (.ok signal) := by
  obtain ⟨stale, hfill⟩ := fillInArguments_flatMap_append before signal.args
  rw [← DeviceSignal.body_eq] at hfill
  have hget : ∀ (sig : SIG) (args : sig.Args),
      (sig.readArguments (ofLeaves (leavesOf signal.body) ++ { int32Arguments := stale })).1 =
        .ok args →
      (before.fillInArguments (some signal.message.arguments.body)).map
        (fun decoded => (sig.readArguments decoded).1) = some (.ok args) := by
    intro sig args hread
    rw [← hread]
    exact congrArg (Option.map fun decoded => (sig.readArguments decoded).1) hfill
  cases signal with
  | deviceMBankSwitch devID bankID =>
    have hargs := hget .sm2v _ (readArguments_sm2v devID bankID _)
    exact congrArg (Option.map fun result => result.map fun args =>
      DeviceSignal.deviceMBankSwitch args.1 args.2) hargs
  | deviceMacroRecorded devID keyID recorded =>
    have hargs := hget .sGM2v _ (readArguments_sGM2v devID h.1 h.2 rfl)
    exact congrArg (Option.map fun result => result.map fun args =>
      DeviceSignal.deviceMacroRecorded args.1 args.2.1 args.2.2) hargs
  | deviceMacroCleared devID keyID =>
    have hargs := hget .sG2v _ (readArguments_sG2v devID h _)
    exact congrArg (Option.map fun result => result.map fun args =>
      DeviceSignal.deviceMacroCleared args.1 args.2) hargs
  | deviceGKeyEvent devID keyID =>
    have hargs := hget .sG2v _ (readArguments_sG2v devID h _)
    exact congrArg (Option.map fun result => result.map fun args =>
      DeviceSignal.deviceGKeyEvent args.1 args.2) hargs

/-! ### What is broadcast -/

section

variable {d : USBDevice δ} {signal : DeviceSignal δ}

lemma ne_invalid_of_checkGKey {keyID : GKeysID} (h : checkGKey d = some keyID) :
    keyID ≠ GKeyID_INV := by
  obtain ⟨n, -, rfl⟩ := Option.map_eq_some_iff.mp h
  exact Fin.succ_ne_zero n

lemma readable_updateDeviceMxKeysLedsMask (disableMR : Bool)
    (h : signal ∈ (updateDeviceMxKeysLedsMask d disableMR).2.2) : signal.Readable := by
  change signal ∈ (updateMxKeyMask d).2 at h
  rw [updateMxKeyMask] at h
  split at h
  · split_ifs at h <;>
    · rw [List.mem_singleton.mp h]
      trivial
  · cases h

lemma readable_leaveMacroRecordMode (h : signal ∈ (leaveMacroRecordMode d).2) :
    signal.Readable := by
  simp only [leaveMacroRecordMode] at h
  split_ifs at h
  · exact readable_updateDeviceMxKeysLedsMask true h
  · cases h

lemma readable_recordProcessed (h : signal ∈ (recordProcessed d).2) : signal.Readable := by
  rw [recordProcessed] at h
  split_ifs at h
  · cases h
  · cases hkey : checkGKey d with
    | none =>
      rw [hkey] at h
      cases h
    | some keyID =>
      rw [hkey] at h
      rw [List.mem_singleton.mp h, macroSignal]
      split_ifs with hempty
      · exact ne_invalid_of_checkGKey hkey
      · exact ⟨ne_invalid_of_checkGKey hkey, hempty⟩

lemma readable_listenProcessed {length now : ℕ} (h : signal ∈ (listenProcessed d length now).2) :
    signal.Readable := by
  simp only [listenProcessed] at h
  split_ifs at h
  · exact readable_updateDeviceMxKeysLedsMask false h
  · cases hkey : checkGKey (updateDeviceMxKeysLedsMask d false).1 with
    | none =>
      rw [hkey] at h
      exact readable_updateDeviceMxKeysLedsMask false h
    | some keyID =>
      rw [hkey] at h
      rcases List.mem_append.mp h with hswitch | hevent
      · exact readable_updateDeviceMxKeysLedsMask false hswitch
      · rw [List.mem_singleton.mp hevent]
        exact ne_invalid_of_checkGKey hkey
  · cases h

lemma readable_checkExit (h : signal ∈ (checkExit d).2) : signal.Readable := by
  rw [checkExit] at h
  split_ifs at h
  · exact readable_leaveMacroRecordMode h
  · cases h

lemma readable_recordTransfer {t : KeysTransfer} (h : signal ∈ (recordTransfer d t).2) :
    signal.Readable := by
  simp only [recordTransfer] at h
  cases hstatus : (processKeyEvent d t).2 with
  | keySkipped =>
    rw [hstatus] at h
    cases h
  | keyProcessed =>
    rw [hstatus] at h
    exact readable_recordProcessed h

lemma readable_listenTransfer {t : KeysTransfer} (h : signal ∈ (listenTransfer d t).2) :
    signal.Readable := by
  simp only [listenTransfer] at h
  cases hstatus : (processKeyEvent d t).2 with
  | keySkipped =>
    rw [hstatus] at h
    cases h
  | keyProcessed =>
    rw [hstatus] at h
    exact readable_listenProcessed h

lemma readable_keysTurn {turn : KeysTurn} (h : signal ∈ (keysTurn d turn).2) :
    signal.Readable := by
  rw [keysTurn.eq_def] at h
  split_ifs at h
  · cases turn with
    | transfer t =>
      rcases List.mem_append.mp h with hrecord | hexit
      · exact readable_recordTransfer hrecord
      · exact readable_checkExit hexit
    | timeout => exact readable_checkExit h
  · cases turn with
    | transfer t => exact readable_listenTransfer h
    | timeout => cases h
  · cases h

lemma readable_deviceStep {event : DeviceEvent} (h : signal ∈ (deviceStep d event).2) :
    signal.Readable := by
  cases event with
  | turn turn => exact readable_keysTurn h
  | resetDeviceState | setDeviceActiveConfiguration | stopThreads => cases h

end

/-- The signals of a run, in their order. -/
def deviceSignals (d : USBDevice δ) : List DeviceEvent → List (DeviceSignal δ)
  | []              => []
  | event :: events => (deviceStep d event).2 ++ deviceSignals (deviceStep d event).1 events

lemma readable_deviceSignals {signal : DeviceSignal δ} (d : USBDevice δ)
    (events : List DeviceEvent) (h : signal ∈ deviceSignals d events) : signal.Readable := by
  induction events generalizing d with
  | nil => cases h
  | cons event events ih =>
    rcases List.mem_append.mp h with hstep | hrest
    · exact readable_deviceStep hstep
    · exact ih _ hrest

/-- Whatever the keyboard does, every signal of its listening thread is received as it was sent: no
switch of a bank, no macro and no G-key is refused or read as another one. -/
theorem deviceSignals_received (d : USBDevice String) (events : List DeviceEvent) :
    ∀ signal ∈ deviceSignals d events, ∀ before : Arguments,
      signal.message.deviceSignal before = some (.ok signal) := by
  intro signal hsignal before
  exact deviceSignal_message (readable_deviceSignals d events hsignal) before

private def listeningKeyboard : USBDevice String where
  devID := "b1d2"
  capabilities := 15
  driverID := 0
  GKeysTransferLength := 5

/-- G1 is pressed; an earlier message has left its bytes. -/
theorem deviceSignals_received_G1 :
    (DeviceSignal.deviceGKeyEvent "b1d2" 1).message.deviceSignal { byteArguments := [7, 7] } =
      some (.ok (.deviceGKeyEvent "b1d2" 1)) :=
  deviceSignals_received listeningKeyboard
    [.turn (.transfer ⟨5, ![3, 1, 0, 0, 0, 0, 0, 0], 400⟩)] _ (by decide +kernel) _

end GLogiK
