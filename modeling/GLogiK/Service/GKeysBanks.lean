import GLogiK.DBus.ArgTypes
import GLogiK.Service.ConfigurationFiles
import Mathlib.Order.Fin.Basic

/-!
# The banks of a device

The maps of `GKeysBanksCapability`, as `initBanks`, `load` and `checkBanksKeys` leave them, and the
functions of `GKeysEventManager` on them. A file may have any byte as the ID of a bank or a key. The
functions of `BanksMap` are what these do on the valid IDs.
-/

namespace GLogiK

/-! ### Maps of banks -/

/-- A value of `MKeysID` or `GKeysID`. -/
abbrev EnumByte := Fin 256

instance EnumByte.neZero : NeZero 256 := ⟨by decide⟩

instance EnumByte.transOrd : Std.TransOrd EnumByte := inferInstance

abbrev MBank := StdMap EnumByte GKeysEvent

/-- `banksMap_type`. -/
abbrev BanksByID := StdMap EnumByte MBank

def MKeyID_M0 : EnumByte := 0

def MKeyID_MAX : EnumByte := 3

def GKeyID_MAX : EnumByte := 18

/-- `GKeyID_INV`. -/
def invalidKeyID : EnumByte := 0

namespace BanksByID

/-- A bank that `initBanks` inserts; a key that is listed twice is inserted once. -/
def initBank (GKeysIDArray : List EnumByte) : MBank :=
  GKeysIDArray.foldl (fun bank keyID => bank.insertIfNew keyID {}) ∅

/-- A bank that is already there is left as it is. -/
def initBanks (banks : BanksByID) (MKeysIDArray GKeysIDArray : List EnumByte) : BanksByID :=
  if MKeysIDArray = [] then banks
  else (MKeyID_M0 :: MKeysIDArray).foldl
    (fun banks bankID => banks.insertIfNew bankID (initBank GKeysIDArray)) banks

def validKeyID (keyID : EnumByte) : Bool := keyID ≠ invalidKeyID ∧ keyID ≤ GKeyID_MAX

/-- The banks with a wrong ID are erased, then in each bank the keys with a wrong ID. -/
def checkBanksKeys (banks : BanksByID) : BanksByID :=
  (banks.filter fun bankID _ => bankID ≤ MKeyID_MAX).map fun _ bank =>
    bank.filter fun keyID _ => validKeyID keyID

/-! ### The functions of the keys -/

/-- What the functions throw, with the text that is logged. -/
inductive KeyFailure
  | invalidGKeyID
  | wrongBankID
  | wrongGKeyID
  | skippingMacro
  deriving DecidableEq, Repr

/-- What an event runs. -/
inductive KeyAction
  | nothing
  | sendMacro (events : MacroType)
  | spawnProcess (command : String)
  deriving DecidableEq, Repr

def runEvent (banks : BanksByID) (bankID keyID : EnumByte) : Except KeyFailure KeyAction :=
  if keyID = invalidKeyID then .ok .nothing
  else
    match banks[bankID]? with
    | none => .error .wrongBankID
    | some bank =>
      match bank[keyID]? with
      | none => .error .wrongGKeyID
      | some event =>
        match event.GKeyEventType with
        | .gkeyMacro                    => .ok (.sendMacro event.GKeyMacro)
        | .gkeyRuncmd                   => .ok (.spawnProcess event.GKeyCommand)
        | .gkeyInactive | .gkeyInvalid  => .ok .nothing

def setMacro (banks : BanksByID) (bankID keyID : EnumByte) (events : MacroType) :
    Except KeyFailure BanksByID :=
  if keyID = invalidKeyID then .ok banks
  else
    match banks[bankID]? with
    | none => .error .wrongBankID
    | some bank =>
      if MACRO_T_MAX_SIZE ≤ (checkMacro events).length then .error .skippingMacro
      else if bank.contains keyID then
        .ok (banks.insert bankID (bank.insert keyID (.new (checkMacro events))))
      else .error .wrongGKeyID

/-- The boolean tells that there was a macro. A wrong key is logged as a wrong bank. -/
def clearMacro (banks : BanksByID) (bankID keyID : EnumByte) :
    Except KeyFailure (BanksByID × Bool) :=
  if keyID = invalidKeyID then .error .invalidGKeyID
  else
    match banks[bankID]? with
    | none => .error .wrongBankID
    | some bank =>
      match bank[keyID]? with
      | none => .error .wrongBankID
      | some event =>
        if event.GKeyMacro = [] then .ok (banks, false)
        else .ok (banks.insert bankID (bank.insert keyID { event with
          GKeyMacro := []
          GKeyEventType := .gkeyInactive }), true)

end BanksByID

/-! ### Properties of a device -/

/-- What a configuration file has. -/
structure SavedConfiguration where
  RGB : RGBBytes := defaultRGB
  LCDPluginsMask1 : UInt64 := 0
  GKeysBanks : BanksByID := ∅

/-- `DeviceProperties`, with all its members. -/
structure DeviceRecord extends SavedConfiguration where
  vendor : String := "unknown"
  product : String := "unknown"
  name : String := "unknown"
  capabilities : UInt64 := 0
  configFilePath : String := "none"
  watchedDescriptor : ℤ := -1
  LCDPluginsProperties : LCDPPArray := []
  currentBankID : MKeysID := .m0

namespace DeviceRecord

variable (device : DeviceRecord)

def initBanks (MKeysIDArray GKeysIDArray : List EnumByte) : DeviceRecord :=
  { device with GKeysBanks := device.GKeysBanks.initBanks MKeysIDArray GKeysIDArray }

/-- `setProperties` from the device that was read. -/
def setProperties (file : SavedConfiguration) : DeviceRecord :=
  { device with
    RGB := file.RGB
    GKeysBanks := file.GKeysBanks
    LCDPluginsMask1 := if file.LCDPluginsMask1 = 0 then GK_LCD_SPLASHSCREEN ||| GK_LCD_SYSTEM_MONITOR
      else file.LCDPluginsMask1 }

def checkBanksKeys : DeviceRecord :=
  { device with GKeysBanks := device.GKeysBanks.checkBanksKeys }

/-- `DeviceConfigurationFile::load`; `none` is a file that can't be read. -/
def load : Option SavedConfiguration → DeviceRecord
  | some file => (device.setProperties file).checkBanksKeys
  | none      => device.checkBanksKeys

variable {device}

@[simp] lemma load_configFilePath (file : Option SavedConfiguration) :
    (device.load file).configFilePath = device.configFilePath := by
  cases file <;> rfl

@[simp] lemma load_watchedDescriptor (file : Option SavedConfiguration) :
    (device.load file).watchedDescriptor = device.watchedDescriptor := by
  cases file <;> rfl

@[simp] lemma load_currentBankID (file : Option SavedConfiguration) :
    (device.load file).currentBankID = device.currentBankID := by
  cases file <;> rfl

end DeviceRecord

/-! ### What the maps contain -/

namespace BanksByID

/-- Only banks up to M3, and in them only the keys G1 to G18. -/
structure ValidIDs (banks : BanksByID) : Prop where
  bank : ∀ (bankID : EnumByte) (bank : MBank), banks[bankID]? = some bank → bankID ≤ MKeyID_MAX
  key : ∀ (bankID keyID : EnumByte) (bank : MBank), banks[bankID]? = some bank →
    bank.contains keyID → validKeyID keyID

/-- The bank is there, with all the keys. -/
def HasBank (banks : BanksByID) (GKeysIDArray : List EnumByte) (bankID : EnumByte) : Prop :=
  ∃ bank : MBank, banks[bankID]? = some bank ∧ ∀ keyID ∈ GKeysIDArray, bank.contains keyID

/-- M0 and every listed bank are there, with every listed key. -/
def HasKeys (banks : BanksByID) (MKeysIDArray GKeysIDArray : List EnumByte) : Prop :=
  ∀ bankID ∈ MKeyID_M0 :: MKeysIDArray, banks.HasBank GKeysIDArray bankID

variable {banks : BanksByID} {MKeysIDArray GKeysIDArray : List EnumByte} {bankID keyID : EnumByte}

@[simp] lemma contains_initBank : (initBank GKeysIDArray).contains keyID ↔ keyID ∈ GKeysIDArray := by
  rw [Std.ExtTreeMap.contains_eq_isSome_getElem?, initBank,
    ServiceFiles.getElem?_foldl_insertIfNew fun _ => ({} : GKeysEvent)]
  simp

/-- The banks of a device that had none. -/
lemma getElem?_initBanks (hne : MKeysIDArray ≠ []) (GKeysIDArray : List EnumByte)
    (bankID : EnumByte) :
    ((∅ : BanksByID).initBanks MKeysIDArray GKeysIDArray)[bankID]? =
      if bankID ∈ MKeyID_M0 :: MKeysIDArray then some (initBank GKeysIDArray) else none := by
  rw [initBanks, if_neg hne, ServiceFiles.getElem?_foldl_insertIfNew fun _ => initBank GKeysIDArray]
  simp

lemma hasKeys_initBanks_iff :
    ((∅ : BanksByID).initBanks MKeysIDArray GKeysIDArray).HasKeys MKeysIDArray GKeysIDArray ↔
      MKeysIDArray ≠ [] := by
  constructor
  · rintro hkeys rfl
    obtain ⟨bank, hbank, _⟩ := hkeys MKeyID_M0 List.mem_cons_self
    simp [initBanks] at hbank
  · intro hne bankID hmem
    refine ⟨initBank GKeysIDArray, ?_, fun keyID hkey => contains_initBank.mpr hkey⟩
    rw [getElem?_initBanks hne, if_pos hmem]

lemma getElem?_checkBanksKeys (banks : BanksByID) (bankID : EnumByte) :
    banks.checkBanksKeys[bankID]? =
      if bankID ≤ MKeyID_MAX then
        banks[bankID]?.map fun bank => bank.filter fun keyID _ => validKeyID keyID
      else none := by
  rw [checkBanksKeys, Std.ExtTreeMap.getElem?_map, Std.ExtTreeMap.getElem?_filter']
  cases banks[bankID]? with
  | none => simp
  | some bank =>
    rw [Option.filter_some]
    by_cases hle : bankID ≤ MKeyID_MAX <;> simp [hle]

lemma contains_filter_validKeyID (bank : MBank) :
    (bank.filter fun keyID _ => validKeyID keyID).contains keyID ↔
      bank.contains keyID ∧ validKeyID keyID := by
  rw [Std.ExtTreeMap.contains_eq_isSome_getElem?, Std.ExtTreeMap.contains_eq_isSome_getElem?,
    Std.ExtTreeMap.getElem?_filter']
  cases bank[keyID]? with
  | none => simp
  | some event =>
    rw [Option.filter_some]
    split_ifs with hvalid
    · simp [hvalid]
    · simp [hvalid]

lemma validIDs_checkBanksKeys (banks : BanksByID) : banks.checkBanksKeys.ValidIDs := by
  constructor
  · intro bankID bank hbank
    rw [getElem?_checkBanksKeys] at hbank
    split_ifs at hbank with hle
    exact hle
  · intro bankID keyID bank hbank hkey
    rw [getElem?_checkBanksKeys] at hbank
    split_ifs at hbank
    obtain ⟨bank', _, rfl⟩ := Option.map_eq_some_iff.mp hbank
    exact ((contains_filter_validKeyID bank').mp hkey).2

/-- A checked bank has the keys exactly when its ID and theirs are valid and it had them before. -/
lemma hasBank_checkBanksKeys_iff :
    banks.checkBanksKeys.HasBank GKeysIDArray bankID ↔
      bankID ≤ MKeyID_MAX ∧ (∀ keyID ∈ GKeysIDArray, validKeyID keyID) ∧
        banks.HasBank GKeysIDArray bankID := by
  rw [HasBank, HasBank, getElem?_checkBanksKeys]
  constructor
  · rintro ⟨checked, hchecked, hkeys⟩
    split_ifs at hchecked with hle
    obtain ⟨bank, hbank, rfl⟩ := Option.map_eq_some_iff.mp hchecked
    simp only [contains_filter_validKeyID] at hkeys
    exact ⟨hle, fun keyID hkey => (hkeys keyID hkey).2, bank, hbank,
      fun keyID hkey => (hkeys keyID hkey).1⟩
  · rintro ⟨hle, hvalid, bank, hbank, hkeys⟩
    refine ⟨bank.filter fun keyID _ => validKeyID keyID, by rw [if_pos hle, hbank]; rfl, ?_⟩
    intro keyID hkey
    exact (contains_filter_validKeyID bank).mpr ⟨hkeys keyID hkey, hvalid keyID hkey⟩

/-- The listed IDs are those of banks and keys. -/
def ListsValid (MKeysIDArray GKeysIDArray : List EnumByte) : Prop :=
  (∀ bankID ∈ MKeysIDArray, bankID ≤ MKeyID_MAX) ∧ ∀ keyID ∈ GKeysIDArray, validKeyID keyID

lemma hasKeys_checkBanksKeys_iff :
    banks.checkBanksKeys.HasKeys MKeysIDArray GKeysIDArray ↔
      ListsValid MKeysIDArray GKeysIDArray ∧ banks.HasKeys MKeysIDArray GKeysIDArray := by
  simp only [HasKeys, hasBank_checkBanksKeys_iff]
  constructor
  · intro h
    refine ⟨⟨fun bankID hmem => (h bankID (List.mem_cons_of_mem _ hmem)).1,
      (h MKeyID_M0 List.mem_cons_self).2.1⟩, fun bankID hmem => (h bankID hmem).2.2⟩
  · rintro ⟨⟨hbanks, hkeys⟩, hhas⟩ bankID hmem
    refine ⟨?_, hkeys, hhas bankID hmem⟩
    rcases List.mem_cons.mp hmem with rfl | hlisted
    · exact Fin.zero_le _
    · exact hbanks bankID hlisted

/-! ### The keys of a device never fail -/

/-- The function does not throw because of the bank or the key. -/
def Accepts {ρ : Type*} (result : Except KeyFailure ρ) : Prop :=
  result ≠ .error .wrongBankID ∧ result ≠ .error .wrongGKeyID

/-- No function of the key throws because of the bank or the key. -/
structure AcceptsKey (banks : BanksByID) (bankID keyID : EnumByte) : Prop where
  runEvent : Accepts (banks.runEvent bankID keyID)
  setMacro : ∀ events, Accepts (banks.setMacro bankID keyID events)
  clearMacro : Accepts (banks.clearMacro bankID keyID)

lemma HasBank.acceptsKey (h : banks.HasBank GKeysIDArray bankID) (hkey : keyID ∈ GKeysIDArray) :
    banks.AcceptsKey bankID keyID := by
  obtain ⟨bank, hbank, hkeys⟩ := h
  have hcontains := hkeys keyID hkey
  obtain ⟨event, hevent⟩ : ∃ event, bank[keyID]? = some event := by
    rwa [Std.ExtTreeMap.contains_eq_isSome_getElem?, Option.isSome_iff_exists] at hcontains
  refine ⟨?_, fun events => ?_, ?_⟩
  · rw [BanksByID.runEvent, hbank]
    simp only [hevent]
    split_ifs
    · simp [Accepts]
    · cases event.GKeyEventType <;> simp [Accepts]
  · rw [BanksByID.setMacro, hbank]
    simp only [hcontains]
    split_ifs <;> simp [Accepts]
  · rw [BanksByID.clearMacro, hbank]
    simp only [hevent]
    split_ifs <;> simp [Accepts]

end BanksByID

/-- The lists and the file leave no gap: the listed IDs are valid, and the file has every listed
bank and key; without a file that can be read, some bank is listed. -/
def NoGap (MKeysIDArray GKeysIDArray : List EnumByte) (file : Option SavedConfiguration) : Prop :=
  BanksByID.ListsValid MKeysIDArray GKeysIDArray ∧
    match file with
    | some file => file.GKeysBanks.HasKeys MKeysIDArray GKeysIDArray
    | none      => MKeysIDArray ≠ []

/-- After a load the IDs are valid. The banks and keys of the device are there, and accepted by the
functions of the keys, exactly when the lists and the file leave no gap. -/
theorem load_initBanks_iff (MKeysIDArray GKeysIDArray : List EnumByte)
    (file : Option SavedConfiguration) :
    let banks := ((({} : DeviceRecord).initBanks MKeysIDArray GKeysIDArray).load file).GKeysBanks
    banks.ValidIDs ∧
      (banks.HasKeys MKeysIDArray GKeysIDArray ∧
          (∀ bankID ∈ MKeyID_M0 :: MKeysIDArray, ∀ keyID ∈ GKeysIDArray,
            banks.AcceptsKey bankID keyID) ↔
        NoGap MKeysIDArray GKeysIDArray file) := by
  intro banks
  have haccepts : banks.HasKeys MKeysIDArray GKeysIDArray → ∀ bankID ∈ MKeyID_M0 :: MKeysIDArray,
      ∀ keyID ∈ GKeysIDArray, banks.AcceptsKey bankID keyID :=
    fun hkeys bankID hmem keyID hkey => (hkeys bankID hmem).acceptsKey hkey
  rw [and_iff_left_of_imp haccepts]
  cases file with
  | some file =>
    refine ⟨BanksByID.validIDs_checkBanksKeys _, ?_⟩
    exact BanksByID.hasKeys_checkBanksKeys_iff
  | none =>
    refine ⟨BanksByID.validIDs_checkBanksKeys _, ?_⟩
    refine BanksByID.hasKeys_checkBanksKeys_iff.trans ?_
    exact and_congr_right fun _ => BanksByID.hasKeys_initBanks_iff

/-- The file has the bank M0 only: the keys of the device are gone from the other banks. -/
theorem not_hasKeys_load :
    ¬ ∀ (MKeysIDArray GKeysIDArray : List EnumByte) (file : Option SavedConfiguration),
      let banks := ((({} : DeviceRecord).initBanks MKeysIDArray GKeysIDArray).load file).GKeysBanks
      banks.ValidIDs ∧ banks.HasKeys MKeysIDArray GKeysIDArray := by
  intro h
  let file : SavedConfiguration :=
    { GKeysBanks := (∅ : BanksByID).insert 0 ((∅ : MBank).insert 1 {}) }
  obtain ⟨_, hkeys⟩ := h [1, 2, 3] [1] (some file)
  obtain ⟨bank, hbank, _⟩ := hkeys 1 (by decide)
  have hnone : ((({} : DeviceRecord).initBanks [1, 2, 3] [1]).load
      (some file)).GKeysBanks[(1 : EnumByte)]?.isSome = false := by
    decide +kernel
  rw [hbank] at hnone
  cases hnone

/-! ### The banks as a function of the valid IDs -/

def MKeysID.byte : MKeysID → EnumByte
  | .m0 => 0
  | .m1 => 1
  | .m2 => 2
  | .m3 => 3

def GKeysID.byte (keyID : GKeysID) : EnumByte := keyID.castLE (by omega)

namespace BanksByID

def toBanksMap (banks : BanksByID) : BanksMap :=
  fun bankID keyID => banks[bankID.byte]?.bind (·[GKeysID.byte keyID]?)

variable {banks : BanksByID}

lemma byte_le (bankID : MKeysID) : bankID.byte ≤ MKeyID_MAX := by
  cases bankID <;> decide

lemma byte_inj {bankID bankID' : MKeysID} : bankID.byte = bankID'.byte ↔ bankID = bankID' := by
  cases bankID <;> cases bankID' <;> decide

lemma keyByte_inj {keyID keyID' : GKeysID} :
    GKeysID.byte keyID = GKeysID.byte keyID' ↔ keyID = keyID' :=
  Fin.castLE_inj

lemma keyByte_eq_invalid_iff {keyID : GKeysID} :
    GKeysID.byte keyID = invalidKeyID ↔ keyID = GKeyID_INV := by
  revert keyID
  decide

lemma validKeyID_byte_iff {keyID : GKeysID} :
    validKeyID (GKeysID.byte keyID) ↔ keyID ≠ GKeyID_INV := by
  revert keyID
  decide

lemma toBanksMap_checkBanksKeys :
    banks.checkBanksKeys.toBanksMap = GLogiK.checkBanksKeys banks.toBanksMap := by
  funext bankID keyID
  rw [toBanksMap, getElem?_checkBanksKeys, if_pos (byte_le bankID), GLogiK.checkBanksKeys, toBanksMap]
  cases banks[bankID.byte]? with
  | none => simp
  | some bank =>
    simp only [Option.map_some, Option.bind_some, Std.ExtTreeMap.getElem?_filter']
    split_ifs with hinv
    · have hnot : validKeyID (GKeysID.byte keyID) = false := by
        rw [← Bool.not_eq_true, validKeyID_byte_iff]
        exact not_not_intro hinv
      cases bank[GKeysID.byte keyID]? <;> simp [hnot]
    · have hvalid : validKeyID (GKeysID.byte keyID) := validKeyID_byte_iff.mpr hinv
      cases bank[GKeysID.byte keyID]? <;> simp [hvalid]

/-- An event is written to a key that is there. -/
lemma toBanksMap_insert {bankID : MKeysID} {bank : MBank} (hbank : banks[bankID.byte]? = some bank)
    (keyID : GKeysID) (event : GKeysEvent) :
    toBanksMap (banks.insert bankID.byte (bank.insert (GKeysID.byte keyID) event)) =
      setKey banks.toBanksMap bankID keyID event := by
  funext bankID' keyID'
  rw [toBanksMap, setKey, getElem?_insert_eq, toBanksMap]
  by_cases hbankID : bankID' = bankID
  · subst hbankID
    rw [if_pos rfl, Option.bind_some, getElem?_insert_eq, hbank, Option.bind_some]
    simp only [keyByte_inj, true_and]
  · simp [hbankID, byte_inj]

lemma toBanksMap_eq_bind {bankID : MKeysID} {bank : MBank} (hbank : banks[bankID.byte]? = some bank)
    (keyID : GKeysID) : banks.toBanksMap bankID keyID = bank[GKeysID.byte keyID]? := by
  rw [toBanksMap, hbank, Option.bind_some]

lemma toBanksMap_eq_none {bankID : MKeysID} (hbank : banks[bankID.byte]? = none)
    (keyID : GKeysID) : banks.toBanksMap bankID keyID = none := by
  rw [toBanksMap, hbank, Option.bind_none]

lemma toBanksMap_setMacro (bankID : MKeysID) (keyID : GKeysID) (events : MacroType) :
    (banks.setMacro bankID.byte (GKeysID.byte keyID) events).toOption.map toBanksMap =
      GLogiK.setMacro banks.toBanksMap bankID keyID events := by
  simp only [BanksByID.setMacro, GLogiK.setMacro, keyByte_eq_invalid_iff]
  by_cases hinv : keyID = GKeyID_INV
  · simp only [if_pos hinv]
    rfl
  · simp only [if_neg hinv]
    cases hbank : banks[bankID.byte]? with
    | none =>
      rw [toBanksMap_eq_none hbank]
      exact (ite_self none).symm
    | some bank =>
      rw [toBanksMap_eq_bind hbank]
      simp only [Std.ExtTreeMap.contains_eq_isSome_getElem?]
      by_cases hlen : MACRO_T_MAX_SIZE ≤ (checkMacro events).length
      · simp only [if_pos hlen]
        rfl
      · simp only [if_neg hlen]
        cases hevent : bank[GKeysID.byte keyID]? with
        | none => rfl
        | some event => exact congrArg some (toBanksMap_insert hbank keyID _)

/-- Without a macro the banks stay as they are. -/
lemma eq_of_clearMacro_false {banks' : BanksByID} {bankID keyID : EnumByte}
    (h : banks.clearMacro bankID keyID = .ok (banks', false)) : banks' = banks := by
  rw [BanksByID.clearMacro] at h
  split_ifs at h
  cases hbank : banks[bankID]? with
  | none =>
    rw [hbank] at h
    cases h
  | some bank =>
    rw [hbank] at h
    simp only at h
    cases hevent : bank[keyID]? with
    | none =>
      rw [hevent] at h
      cases h
    | some event =>
      rw [hevent] at h
      simp only at h
      split_ifs at h
      · cases h
        rfl
      · cases h

lemma toBanksMap_clearMacro (bankID : MKeysID) (keyID : GKeysID) :
    ((banks.clearMacro bankID.byte (GKeysID.byte keyID)).toOption.bind fun r =>
        if r.2 then some (toBanksMap r.1) else none) =
      GLogiK.clearMacro banks.toBanksMap bankID keyID := by
  simp only [BanksByID.clearMacro, GLogiK.clearMacro, keyByte_eq_invalid_iff]
  by_cases hinv : keyID = GKeyID_INV
  · simp only [if_pos hinv]
    rfl
  · simp only [if_neg hinv]
    cases hbank : banks[bankID.byte]? with
    | none =>
      rw [toBanksMap_eq_none hbank]
      rfl
    | some bank =>
      rw [toBanksMap_eq_bind hbank]
      cases hevent : bank[GKeysID.byte keyID]? with
      | none =>
        simp only [hevent]
        rfl
      | some event =>
        simp only [hevent]
        by_cases hempty : event.GKeyMacro = []
        · simp only [if_pos hempty]
          rfl
        · simp only [if_neg hempty]
          exact congrArg some (toBanksMap_insert hbank keyID _)

end BanksByID

def SavedConfiguration.toConfiguration (file : SavedConfiguration) : DeviceConfiguration where
  RGB := file.RGB
  LCDPluginsMask1 := file.LCDPluginsMask1
  GKeysBanks := file.GKeysBanks.toBanksMap

def DeviceRecord.toProperties (device : DeviceRecord) : DeviceProperties where
  toDeviceConfiguration := device.toSavedConfiguration.toConfiguration
  currentBankID := device.currentBankID

/-- A load, seen through the valid IDs. -/
lemma DeviceRecord.toProperties_load (device : DeviceRecord) (file : Option SavedConfiguration) :
    (device.load file).toProperties = device.toProperties.load (file.map (·.toConfiguration)) := by
  cases file with
  | none =>
    simp only [load, DeviceRecord.checkBanksKeys, toProperties, SavedConfiguration.toConfiguration,
      BanksByID.toBanksMap_checkBanksKeys]
    rfl
  | some file =>
    simp only [load, DeviceRecord.checkBanksKeys, setProperties, toProperties,
      SavedConfiguration.toConfiguration, BanksByID.toBanksMap_checkBanksKeys]
    rfl

end GLogiK
