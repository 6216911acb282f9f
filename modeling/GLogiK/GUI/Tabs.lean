import GLogiK.GUI.MainWindow

/-!
# The tabs of the GUI

The tabs for the backlight color, the LCD plugins and the G-keys show the opened configuration and
hold what the user chose until it is applied. Each tab is updated when a device is selected, and
when the file is loaded again. An update that throws leaves the tabs after it as they are.
-/

namespace GLogiK

variable {δ : Type*}

/-! ### The backlight color -/

structure BacklightColorTab where
  currentColor : RGBBytes := defaultRGB
  newColor : RGBBytes := defaultRGB
  applyEnabled : Bool := false

namespace BacklightColorTab

variable (tab : BacklightColorTab)

def setNewColorLabel (color : RGBBytes) : BacklightColorTab :=
  { tab with newColor := color, applyEnabled := color ≠ tab.currentColor }

/-- The dialog has the new color, and informs the tab when another one is set. -/
def setCurrentColor (color : RGBBytes) : BacklightColorTab :=
  if color = tab.newColor then tab else tab.setNewColorLabel color

def updateTab (color : RGBBytes) : BacklightColorTab :=
  { tab with currentColor := color }.setCurrentColor color

def getAndSetNewColor : BacklightColorTab :=
  { tab with currentColor := tab.newColor, applyEnabled := false }

end BacklightColorTab

/-! ### The LCD plugins -/

/-- Each checkbox has the ID of a plugin. -/
structure LCDPluginsTab where
  LCDPluginsMask : UInt64 := 0
  newLCDPluginsMask : UInt64 := 0
  checkboxes : List (UInt64 × Bool) := []
  applyEnabled : Bool := false

namespace LCDPluginsTab

variable (tab : LCDPluginsTab)

/-- `plugins` are the IDs that the service answers, if it does. -/
def updateTab (mask : UInt64) : Option (List UInt64) → LCDPluginsTab
  | none         => { tab with checkboxes := [] }
  | some plugins =>
    { tab with
      LCDPluginsMask := mask
      newLCDPluginsMask := mask
      checkboxes := plugins.map fun id => (id, mask &&& id ≠ 0) }

def updateNewLCDPluginsMask (id : UInt64) (checked : Bool) : LCDPluginsTab :=
  if id = 0 then tab
  else
    let mask :=
      if checked then tab.newLCDPluginsMask ||| id else tab.newLCDPluginsMask &&& ~~~id
    { tab with newLCDPluginsMask := mask, applyEnabled := tab.LCDPluginsMask ≠ mask }

def toggleCheckbox (row : ℕ) : LCDPluginsTab :=
  match tab.checkboxes[row]? with
  | none               => tab
  | some (id, checked) =>
    { tab with checkboxes := tab.checkboxes.set row (id, !checked) }.updateNewLCDPluginsMask id
      !checked

def getAndSetNewLCDPluginsMask : LCDPluginsTab :=
  { tab with LCDPluginsMask := tab.newLCDPluginsMask, applyEnabled := false }

end LCDPluginsTab

/-! ### The G-keys -/

def GKEY_COMMAND_LINE_STRING_MAX_LENGTH : ℕ := 64

/-- The combo box of a G-key. Its slot has the banks of the device for which it was made. -/
structure EventTypeComboBox where
  banks : BanksMap
  keyID : GKeysID
  shown : GKeyEventType

/-- The buttons have the banks of the device for which they were drawn, and its G-keys of one of
these. -/
structure GKeysTab where
  currentBankID : MKeysID := .m0
  currentGKeyID : GKeysID := GKeyID_INV
  newEventType : GKeyEventType := .gkeyInvalid
  updateGKeyEvent : Bool := false
  buttons : BanksMap × MKeysID := (fun _ _ => none, .m0)
  comboBox : Option EventTypeComboBox := none
  commandLine : Option String := none

/-- The keys of the bank are drawn in lines of three. The map can't tell a bank without keys from one
that is missing: here both are not drawn, while the first is drawn without keys by the code. -/
def KeysDrawn (banks : BanksMap) (bankID : MKeysID) : Prop :=
  let keys := (List.finRange 19).filter fun keyID => (banks bankID keyID).isSome
  keys ≠ [] ∧ keys.length % 3 = 0

instance (banks : BanksMap) (bankID : MKeysID) : Decidable (KeysDrawn banks bankID) :=
  inferInstanceAs (Decidable (_ ∧ _))

namespace GKeysTab

variable (tab : GKeysTab)

/-- The right panel is emptied before anything can throw. -/
def redrawTab (banks : BanksMap) : GKeysTab :=
  let tab := { tab with comboBox := none, commandLine := none }
  if KeysDrawn banks tab.currentBankID then { tab with buttons := (banks, tab.currentBankID) }
  else tab

def updateAndRedrawTab (banks : BanksMap) (bankID : MKeysID) : GKeysTab :=
  { tab with
    currentBankID := if tab.currentBankID = bankID then .m0 else bankID
    updateGKeyEvent := false }.redrawTab banks

/-- The first bank is shown. -/
def updateTab (banks : BanksMap) : GKeysTab := tab.updateAndRedrawTab banks .m0

/-- A text that is not empty enables the button. -/
def updateApplyButtonStatus (text : String) : GKeysTab :=
  { tab with commandLine := some text, updateGKeyEvent := text ≠ "" }

/-- The line is made empty, and informs the tab when its text changes. -/
def prepareCommandWidget (event : GKeysEvent) : GKeysTab :=
  let text := String.ofList (event.GKeyCommand.toList.take GKEY_COMMAND_LINE_STRING_MAX_LENGTH)
  if text = "" then { tab with commandLine := some "" } else tab.updateApplyButtonStatus text

/-- The item of the combo box that is shown first. -/
def itemEventType (event : GKeysEvent) : GKeyEventType :=
  match event.GKeyEventType with
  | .gkeyRuncmd => .gkeyRuncmd
  | .gkeyMacro  => if event.GKeyMacro = [] then .gkeyInactive else .gkeyMacro
  | _           => .gkeyInactive

def updateInputsBox (banks : BanksMap) (keyID : GKeysID) : GKeysTab :=
  let tab := { tab with updateGKeyEvent := false }
  match banks tab.currentBankID keyID with
  | none       => tab
  | some event =>
    let tab := { tab with
      commandLine := none
      comboBox := some ⟨banks, keyID, itemEventType event⟩
      newEventType := event.GKeyEventType
      currentGKeyID := keyID }
    if event.GKeyEventType = .gkeyRuncmd then tab.prepareCommandWidget event else tab

/-- The status of the button when another type is chosen. -/
def getApplyButtonStatus (event : GKeysEvent) (eventType : GKeyEventType) : Bool :=
  event.GKeyEventType ≠ eventType && !(eventType = .gkeyMacro && event.GKeyMacro = []) &&
    !(eventType = .gkeyRuncmd && event.GKeyCommand = "")

/-- Another item of the combo box was chosen. -/
def switchGKeyEventType (comboBox : EventTypeComboBox) (eventType : GKeyEventType) : GKeysTab :=
  let tab := { tab with comboBox := some { comboBox with shown := eventType } }
  match comboBox.banks tab.currentBankID comboBox.keyID with
  | none       => tab
  | some event =>
    let tab := { tab with
      newEventType := eventType
      currentGKeyID := comboBox.keyID
      updateGKeyEvent := getApplyButtonStatus event eventType
      commandLine := none }
    if eventType = .gkeyRuncmd then tab.prepareCommandWidget event else tab

/-! What the user does. Only what is shown can be clicked, and the item for macros is disabled for a
key without a macro. -/

def clickMKey (bankID : MKeysID) : GKeysTab :=
  if bankID ≠ .m0 ∧ ∃ keyID, (tab.buttons.1 bankID keyID).isSome then
    tab.updateAndRedrawTab tab.buttons.1 bankID
  else tab

def clickGKey (keyID : GKeysID) : GKeysTab :=
  if (tab.buttons.1 tab.buttons.2 keyID).isSome then tab.updateInputsBox tab.buttons.1 keyID
  else tab

def chooseEventType (eventType : GKeyEventType) : GKeysTab :=
  match tab.comboBox with
  | none          => tab
  | some comboBox =>
    let recorded := (comboBox.banks tab.currentBankID comboBox.keyID).map GKeysEvent.GKeyMacro
    if eventType = comboBox.shown ∨ eventType = .gkeyInvalid ∨
        (eventType = .gkeyMacro ∧ recorded = some []) then tab
    else tab.switchGKeyEventType comboBox eventType

def editCommand (text : String) : GKeysTab :=
  if tab.commandLine = none ∨ tab.commandLine = some text ∨
      GKEY_COMMAND_LINE_STRING_MAX_LENGTH < text.length then tab
  else tab.updateApplyButtonStatus text

/-- What is applied. -/
def getGKeyEventParams : TabApplyButton :=
  .tabGKeys tab.currentBankID tab.currentGKeyID tab.newEventType (tab.commandLine.getD "")

end GKeysTab

/-! ### The window with its tabs -/

inductive TabName
  | backlightColor
  | LCDPlugins
  | GKeys
  deriving DecidableEq, Repr

/-- `files` are the configuration files. -/
structure TabbedWindow (δ : Type*) where
  window : MainWindow δ := {}
  files : δ → Option DeviceConfiguration
  backlightColorTab : BacklightColorTab := {}
  LCDPluginsTab : LCDPluginsTab := {}
  GKeysTab : GKeysTab := {}

/-- What the user does with the window, what the service sends, and what others write. Where the
tabs are updated, `plugins` is the answer of the service to the tab of the LCD plugins. -/
inductive TabbedWindowEvent (δ : Type*)
  | select (index : Option δ) (plugins : Option (List UInt64))
  | setCurrentColor (color : RGBBytes)
  | toggleCheckbox (row : ℕ)
  | clickMKey (bankID : MKeysID)
  | clickGKey (keyID : GKeysID)
  | chooseEventType (eventType : GKeyEventType)
  | editCommand (text : String)
  | apply (name : TabName) (result : SaveResult) (plugins : Option (List UInt64))
  | configurationFileUpdated (devID : δ)
  | closeMessageBox (plugins : Option (List UInt64))
  | resetInterface (devices : δ → Option DeviceStatus)
  | writeFile (devID : δ) (file : Option DeviceConfiguration)

namespace TabbedWindow

variable [LinearOrder δ] (s : TabbedWindow δ)

/-- The opened configuration when the tabs are updated. -/
def opened (index : Option δ) : DeviceProperties :=
  (s.window.updateInterface s.files index).openedConfigurationFile

/-- When the tab of the LCD plugins throws, the one of the G-keys is not updated, and no tab is
enabled or disabled. -/
def updateInterface (index : Option δ) (plugins : Option (List UInt64)) : TabbedWindow δ :=
  let window := s.window.updateInterface s.files index
  if ∃ id ∈ index, s.window.devices id = some .started then
    let s' := { s with
      backlightColorTab := s.backlightColorTab.updateTab (s.opened index).RGB
      LCDPluginsTab := s.LCDPluginsTab.updateTab (s.opened index).LCDPluginsMask1 plugins }
    if plugins.isSome then
      { s' with window, GKeysTab := s.GKeysTab.updateTab (s.opened index).GKeysBanks }
    else { s' with window := { window with tabsEnabled := s.window.tabsEnabled } }
  else { s with window }

/-- What the button of the tab applies, if it is enabled. -/
def applied : TabName → Option TabApplyButton
  | .backlightColor =>
    if s.backlightColorTab.applyEnabled then some (.tabBacklight s.backlightColorTab.newColor)
    else none
  | .LCDPlugins =>
    if s.LCDPluginsTab.applyEnabled then some (.tabLCDPlugins s.LCDPluginsTab.newLCDPluginsMask)
    else none
  | .GKeys => if s.GKeysTab.updateGKeyEvent then some s.GKeysTab.getGKeyEventParams else none

/-- The file that is written when a tab is applied. -/
def written (name : TabName) : Option (δ × DeviceProperties) := (s.applied name).bind s.window.written

/-- The tab takes what is applied as its current state. -/
def takeApplied : TabName → TabbedWindow δ
  | .backlightColor => { s with backlightColorTab := s.backlightColorTab.getAndSetNewColor }
  | .LCDPlugins     => { s with LCDPluginsTab := s.LCDPluginsTab.getAndSetNewLCDPluginsMask }
  | .GKeys          => { s with GKeysTab := { s.GKeysTab with updateGKeyEvent := false } }

/-- A file that could not be written can't be read any more. -/
def saveConfigurationFile (name : TabName) (result : SaveResult) : TabbedWindow δ :=
  let s' := s.takeApplied name
  match s.written name with
  | none              => s'
  | some (id, opened) =>
    { s' with
      window := { s.window with openedConfigurationFile := opened, ignoreNextSignal := true }
      files :=
        match result with
        | .saved        => Function.update s.files id (some opened.toDeviceConfiguration)
        | .openFails    => s.files
        | .writeFails _ => Function.update s.files id none }

/-- A click on a tab, or in it. -/
def click (s' : TabbedWindow δ) : TabbedWindow δ := if s.window.CanApply then s' else s

def step (s : TabbedWindow δ) : TabbedWindowEvent δ → TabbedWindow δ
  | .select index plugins =>
    if s.window.messageBox ∨ index = s.window.devID ∨ ∃ id ∈ index, s.window.devices id = none then s
    else s.updateInterface index plugins
  | .setCurrentColor color =>
    s.click { s with backlightColorTab := s.backlightColorTab.setCurrentColor color }
  | .toggleCheckbox row => s.click { s with LCDPluginsTab := s.LCDPluginsTab.toggleCheckbox row }
  | .clickMKey bankID => s.click { s with GKeysTab := s.GKeysTab.clickMKey bankID }
  | .clickGKey keyID => s.click { s with GKeysTab := s.GKeysTab.clickGKey keyID }
  | .chooseEventType eventType =>
    s.click { s with GKeysTab := s.GKeysTab.chooseEventType eventType }
  | .editCommand text => s.click { s with GKeysTab := s.GKeysTab.editCommand text }
  | .apply name result plugins =>
    if s.window.CanApply ∧ (s.applied name).isSome then
      (s.saveConfigurationFile name result).updateInterface s.window.devID plugins
    else s
  | .configurationFileUpdated devID =>
    if s.window.messageBox then s
    else { s with window := s.window.configurationFileUpdated devID }
  | .closeMessageBox plugins =>
    if s.window.messageBox then
      { s with window := { s.window with messageBox := false } }.updateInterface s.window.devID
        plugins
    else s
  | .resetInterface devices =>
    if s.window.messageBox then s else { s with window := s.window.resetInterface devices }
  | .writeFile devID file => { s with files := Function.update s.files devID file }

end TabbedWindow

/-! ### What the tab of the G-keys shows -/

/-- The event can be played, or does nothing. -/
def GKeysEvent.Usable (event : GKeysEvent) : Prop :=
  match event.GKeyEventType with
  | .gkeyInactive => True
  | .gkeyMacro    => event.GKeyMacro ≠ []
  | .gkeyRuncmd   => event.GKeyCommand ≠ ""
  | .gkeyInvalid  => False

namespace GKeysTab

variable {tab : GKeysTab} {banks : BanksMap}

/-- The event of the key with what was chosen for it. -/
def chosen (tab : GKeysTab) (event : GKeysEvent) : GKeysEvent :=
  { event with GKeyCommand := tab.commandLine.getD "", GKeyEventType := tab.newEventType }

/-- The tab is about a key of these banks. It can be applied when its combo box shows the chosen
type, and the key has what that type needs. -/
structure Shows (tab : GKeysTab) (banks : BanksMap) : Prop where
  buttons : tab.buttons.1 = banks
  comboBox : ∀ comboBox, tab.comboBox = some comboBox →
    comboBox.banks = banks ∧ comboBox.keyID = tab.currentGKeyID ∧
      ∃ event, banks tab.currentBankID tab.currentGKeyID = some event
  commandLine : tab.commandLine ≠ none → tab.newEventType = .gkeyRuncmd ∧
    ∃ comboBox, tab.comboBox = some comboBox ∧ comboBox.shown = .gkeyRuncmd
  applies : tab.updateGKeyEvent = true →
    ∃ comboBox event, tab.comboBox = some comboBox ∧ comboBox.shown = tab.newEventType ∧
      banks tab.currentBankID tab.currentGKeyID = some event ∧ (tab.chosen event).Usable

/-- A tab with an empty right panel. -/
lemma shows_of_empty (hbuttons : tab.buttons.1 = banks) (hcomboBox : tab.comboBox = none)
    (hcommandLine : tab.commandLine = none) (hstatus : tab.updateGKeyEvent = false) :
    tab.Shows banks where
  buttons := hbuttons
  comboBox comboBox h := by simp [hcomboBox] at h
  commandLine h := absurd hcommandLine h
  applies h := by simp [hstatus] at h

lemma shows_redrawTab (hbuttons : tab.buttons.1 = banks ∨ KeysDrawn banks tab.currentBankID)
    (hstatus : tab.updateGKeyEvent = false) : (tab.redrawTab banks).Shows banks := by
  rw [redrawTab]
  split_ifs with hdrawn
  · exact shows_of_empty rfl rfl rfl hstatus
  · exact shows_of_empty (hbuttons.resolve_right hdrawn) rfl rfl hstatus

lemma shows_updateTab (h : KeysDrawn banks .m0) : (tab.updateTab banks).Shows banks := by
  refine shows_redrawTab (.inr ?_) rfl
  simpa using h

lemma shows_clickMKey (h : tab.Shows banks) (bankID : MKeysID) :
    (tab.clickMKey bankID).Shows banks := by
  rw [clickMKey, h.buttons]
  split_ifs
  · exact shows_redrawTab (.inl h.buttons) rfl
  · exact h

/-- A tab that shows the line for a command. -/
lemma shows_of_command {comboBox : EventTypeComboBox} {event : GKeysEvent}
    (hbuttons : tab.buttons.1 = banks) (hcomboBox : tab.comboBox = some comboBox)
    (hbanks : comboBox.banks = banks) (hkey : comboBox.keyID = tab.currentGKeyID)
    (hshown : comboBox.shown = .gkeyRuncmd) (hruncmd : tab.newEventType = .gkeyRuncmd)
    (hevent : banks tab.currentBankID tab.currentGKeyID = some event)
    (hstatus : tab.updateGKeyEvent = true → tab.commandLine.getD "" ≠ "") : tab.Shows banks where
  buttons := hbuttons
  comboBox comboBox' h := by
    obtain rfl : comboBox = comboBox' := Option.some.inj (hcomboBox.symm.trans h)
    exact ⟨hbanks, hkey, event, hevent⟩
  commandLine _ := ⟨hruncmd, comboBox, hcomboBox, hshown⟩
  applies h := by
    refine ⟨comboBox, event, hcomboBox, hshown.trans hruncmd.symm, hevent, ?_⟩
    simpa [chosen, GKeysEvent.Usable, hruncmd] using hstatus h

lemma ofList_take_eq_empty_iff (command : String) :
    String.ofList (command.toList.take GKEY_COMMAND_LINE_STRING_MAX_LENGTH) = "" ↔
      command = "" := by
  simp [GKEY_COMMAND_LINE_STRING_MAX_LENGTH]

/-- The line has the command of the event, up to its maximum length. -/
lemma shows_prepareCommandWidget {comboBox : EventTypeComboBox} {event : GKeysEvent}
    (hbuttons : tab.buttons.1 = banks) (hcomboBox : tab.comboBox = some comboBox)
    (hbanks : comboBox.banks = banks) (hkey : comboBox.keyID = tab.currentGKeyID)
    (hshown : comboBox.shown = .gkeyRuncmd) (hruncmd : tab.newEventType = .gkeyRuncmd)
    (hevent : banks tab.currentBankID tab.currentGKeyID = some event)
    (hstatus : tab.updateGKeyEvent = true → event.GKeyCommand ≠ "") :
    (tab.prepareCommandWidget event).Shows banks := by
  simp only [prepareCommandWidget]
  split_ifs with htext
  · refine shows_of_command hbuttons hcomboBox hbanks hkey hshown hruncmd hevent fun h => ?_
    exact absurd ((ofList_take_eq_empty_iff _).mp htext) (hstatus h)
  · exact shows_of_command hbuttons hcomboBox hbanks hkey hshown hruncmd hevent fun _ => htext

lemma shows_updateInputsBox (h : tab.Shows banks) (keyID : GKeysID) :
    (tab.updateInputsBox banks keyID).Shows banks := by
  simp only [updateInputsBox]
  split
  case h_1 hnone =>
    exact ⟨h.buttons, h.comboBox, h.commandLine, fun hstatus => by cases hstatus⟩
  case h_2 event hevent =>
    split_ifs with hruncmd
    · refine shows_prepareCommandWidget h.buttons rfl rfl rfl ?_ hruncmd hevent fun hstatus => ?_
      · simp [itemEventType, hruncmd]
      · cases hstatus
    · refine ⟨h.buttons, fun comboBox hcomboBox => ?_, fun hnone => absurd rfl hnone,
        fun hstatus => by cases hstatus⟩
      cases hcomboBox
      exact ⟨rfl, rfl, event, hevent⟩

lemma shows_clickGKey (h : tab.Shows banks) (keyID : GKeysID) :
    (tab.clickGKey keyID).Shows banks := by
  rw [clickGKey, h.buttons]
  split_ifs
  · exact shows_updateInputsBox h keyID
  · exact h

/-- The new type is chosen, but for a missing command. -/
lemma usable_of_getApplyButtonStatus {event : GKeysEvent} {eventType : GKeyEventType}
    (hvalid : eventType ≠ .gkeyInvalid) (hruncmd : eventType ≠ .gkeyRuncmd)
    (h : getApplyButtonStatus event eventType = true) (command : String) :
    ({ event with GKeyCommand := command, GKeyEventType := eventType } : GKeysEvent).Usable := by
  cases eventType with
  | gkeyInactive => trivial
  | gkeyMacro =>
    intro (hempty : event.GKeyMacro = [])
    simp [getApplyButtonStatus, hempty] at h
  | gkeyRuncmd => exact absurd rfl hruncmd
  | gkeyInvalid => exact absurd rfl hvalid

lemma shows_switchGKeyEventType (h : tab.Shows banks) {comboBox : EventTypeComboBox}
    (hcomboBox : tab.comboBox = some comboBox) {eventType : GKeyEventType}
    (hvalid : eventType ≠ .gkeyInvalid) :
    (tab.switchGKeyEventType comboBox eventType).Shows banks := by
  obtain ⟨hbanks, hkey, event, hevent⟩ := h.comboBox comboBox hcomboBox
  simp only [switchGKeyEventType, hbanks, hkey, hevent]
  split_ifs with hruncmd
  · refine shows_prepareCommandWidget h.buttons rfl rfl rfl hruncmd hruncmd hevent
      fun hstatus hempty => ?_
    simp [getApplyButtonStatus, hruncmd, hempty] at hstatus
  · refine ⟨h.buttons, fun comboBox' hcomboBox' => ?_, fun hnone => absurd rfl hnone,
      fun hstatus => ?_⟩
    · cases hcomboBox'
      exact ⟨rfl, rfl, event, hevent⟩
    · exact ⟨_, event, rfl, rfl, hevent, usable_of_getApplyButtonStatus hvalid hruncmd hstatus _⟩

lemma shows_chooseEventType (h : tab.Shows banks) (eventType : GKeyEventType) :
    (tab.chooseEventType eventType).Shows banks := by
  rw [chooseEventType]
  split
  case h_1 hnone => exact h
  case h_2 comboBox hcomboBox =>
    simp only
    split_ifs with hignored
    · exact h
    · exact shows_switchGKeyEventType h hcomboBox fun hinvalid => hignored (.inr (.inl hinvalid))

lemma shows_editCommand (h : tab.Shows banks) (text : String) : (tab.editCommand text).Shows banks := by
  rw [editCommand]
  split_ifs with hignored
  · exact h
  · obtain ⟨hruncmd, comboBox, hcomboBox, hshown⟩ := h.commandLine fun hnone => hignored (.inl hnone)
    obtain ⟨hbanks, hkey, event, hevent⟩ := h.comboBox comboBox hcomboBox
    exact shows_of_command h.buttons hcomboBox hbanks hkey hshown hruncmd hevent of_decide_eq_true

end GKeysTab

/-! ### What the tab of the LCD plugins shows -/

/-- Each plugin has bits of its own, which nothing ensures: the `Coretemp` plugins of two packages
have the same ID. -/
def DistinctPlugins (plugins : List UInt64) : Prop :=
  plugins.Pairwise (fun id id' => id &&& id' = 0) ∧ 0 ∉ plugins

instance (plugins : List UInt64) : Decidable (DistinctPlugins plugins) :=
  inferInstanceAs (Decidable (_ ∧ _))

namespace LCDPluginsTab

variable {tab : LCDPluginsTab} {mask : UInt64}

def plugins (tab : LCDPluginsTab) : List UInt64 := tab.checkboxes.map Prod.fst

/-- The new mask is what the checkboxes show, and the current one otherwise. -/
structure Shows (tab : LCDPluginsTab) (mask : UInt64) : Prop where
  distinct : DistinctPlugins tab.plugins
  checked : ∀ (i : ℕ) id checked, tab.checkboxes[i]? = some (id, checked) →
    checked = decide (tab.newLCDPluginsMask &&& id ≠ 0)
  others : ∀ bits, (∀ id ∈ tab.plugins, id &&& bits = 0) →
    tab.newLCDPluginsMask &&& bits = mask &&& bits

lemma shows_updateTab {plugins : List UInt64} (h : DistinctPlugins plugins) :
    (tab.updateTab mask (some plugins)).Shows mask where
  distinct := by
    simpa [LCDPluginsTab.plugins, updateTab, Function.comp_def] using h
  checked i id checked hbox := by
    simp only [updateTab, List.getElem?_map, Option.map_eq_some_iff] at hbox
    obtain ⟨id', -, hid⟩ := hbox
    cases hid
    rfl
  others bits _ := rfl

/-- Bits of other plugins stay. -/
lemma and_eq_of_disjoint {id bits : UInt64} (h : id &&& bits = 0) (mask : UInt64) :
    (mask ||| id) &&& bits = mask &&& bits ∧ (mask &&& ~~~id) &&& bits = mask &&& bits := by
  have hbit : ∀ (i : ℕ) (hi : i < 64), (id.toBitVec[i] && bits.toBitVec[i]) = false := by
    intro i hi
    simpa using congrArg (fun x : UInt64 => x.toBitVec[i]) h
  constructor
  · apply UInt64.toBitVec_inj.mp
    ext i hi
    have hi' := hbit i hi
    simp only [UInt64.toBitVec_and, UInt64.toBitVec_or, BitVec.getElem_and, BitVec.getElem_or]
    grind
  · apply UInt64.toBitVec_inj.mp
    ext i hi
    have hi' := hbit i hi
    simp only [UInt64.toBitVec_and, UInt64.toBitVec_not, BitVec.getElem_and, BitVec.getElem_not]
    grind

lemma or_and_self (mask id : UInt64) : (mask ||| id) &&& id = id := by
  apply UInt64.toBitVec_inj.mp
  ext i hi
  simp only [UInt64.toBitVec_and, UInt64.toBitVec_or, BitVec.getElem_and, BitVec.getElem_or]
  grind

lemma and_not_and_self (mask id : UInt64) : (mask &&& ~~~id) &&& id = 0 := by
  rw [UInt64.and_assoc, UInt64.and_comm (~~~id), UInt64.and_not_self, UInt64.and_zero]

/-- The checkboxes of two rows are about different bits. -/
lemma Shows.disjoint (h : tab.Shows mask) {i j : ℕ} {box box' : UInt64 × Bool}
    (hi : tab.checkboxes[i]? = some box) (hj : tab.checkboxes[j]? = some box') (hij : i ≠ j) :
    box.1 &&& box'.1 = 0 := by
  obtain ⟨hi', rfl⟩ := List.getElem?_eq_some_iff.mp hi
  obtain ⟨hj', rfl⟩ := List.getElem?_eq_some_iff.mp hj
  have hpairwise := List.pairwise_iff_getElem.mp h.distinct.1
  simp only [plugins, List.length_map, List.getElem_map] at hpairwise
  rcases Nat.lt_or_gt_of_ne hij with hlt | hgt
  · exact hpairwise i j hi' hj' hlt
  · rw [UInt64.and_comm]
    exact hpairwise j i hj' hi' hgt

/-- A checkbox is toggled together with the bits of its plugin. -/
lemma shows_toggleCheckbox (h : tab.Shows mask) (row : ℕ) :
    (tab.toggleCheckbox row).Shows mask := by
  rw [toggleCheckbox]
  rcases hrow : tab.checkboxes[row]? with _ | ⟨id, checked⟩
  · exact h
  · obtain ⟨hlt, hbox⟩ := List.getElem?_eq_some_iff.mp hrow
    have hmem : id ∈ tab.plugins :=
      List.mem_map.mpr ⟨(id, checked), List.mem_of_getElem? hrow, rfl⟩
    have hzero : id ≠ 0 := fun hid => h.distinct.2 (hid ▸ hmem)
    have hplugins : (tab.checkboxes.set row (id, !checked)).map Prod.fst = tab.plugins := by
      have hlength : row < (tab.checkboxes.map Prod.fst).length := by simpa using hlt
      have hid : (tab.checkboxes.map Prod.fst)[row] = id := by simp [hbox]
      rw [List.map_set, plugins, ← hid, List.set_getElem_self]
    simp only [updateNewLCDPluginsMask, if_neg hzero]
    refine ⟨?_, ?_, ?_⟩
    · rw [plugins, hplugins]
      exact h.distinct
    · intro i id' checked' hi
      by_cases hirow : i = row
      · subst hirow
        rw [List.getElem?_set_self hlt] at hi
        cases hi
        cases checked
        · simp [or_and_self, hzero]
        · simp [and_not_and_self]
      · rw [List.getElem?_set_ne (Ne.symm hirow)] at hi
        rw [h.checked i id' checked' hi]
        obtain ⟨hor, hand⟩ :=
          and_eq_of_disjoint (h.disjoint hrow hi (Ne.symm hirow)) tab.newLCDPluginsMask
        cases checked
        · simp [hor]
        · simp [hand]
    · intro bits hbits
      rw [plugins, hplugins] at hbits
      obtain ⟨hor, hand⟩ := and_eq_of_disjoint (hbits id hmem) tab.newLCDPluginsMask
      rw [← h.others bits hbits]
      cases checked
      · exact hor
      · exact hand

end LCDPluginsTab

/-! ### What the window shows -/

namespace TabbedWindow

variable {s : TabbedWindow δ}

/-- A selected device is in the list. Enabled tabs show the opened configuration, which is the one
of the selected device. -/
structure Synced (s : TabbedWindow δ) : Prop where
  listed : ∀ id, s.window.devID = some id → s.window.devices id ≠ none
  path : s.window.tabsEnabled = true →
    ∃ id, s.window.devID = some id ∧ s.window.configurationFilePath = some id
  LCDPluginsTab : s.window.tabsEnabled = true →
    s.LCDPluginsTab.Shows s.window.openedConfigurationFile.LCDPluginsMask1
  GKeysTab : s.window.tabsEnabled = true →
    s.GKeysTab.Shows s.window.openedConfigurationFile.GKeysBanks

/-- The tabs of a started device can be updated: the service answers with plugins that have bits of
their own, and the first bank of the configuration can be drawn. -/
def LoadsTabs (s : TabbedWindow δ) (index : Option δ) (plugins : Option (List UInt64)) : Prop :=
  (∃ id ∈ index, s.window.devices id = some .started) →
    (∃ ids, plugins = some ids ∧ DistinctPlugins ids) ∧ KeysDrawn (s.opened index).GKeysBanks .m0

/-- A window whose tabs are disabled. -/
lemma synced_of_disabled (hlisted : ∀ id, s.window.devID = some id → s.window.devices id ≠ none)
    (hdisabled : s.window.tabsEnabled = false) : s.Synced := by
  have habsurd : ∀ {p : Prop}, s.window.tabsEnabled = true → p := by
    intro p h
    rw [hdisabled] at h
    cases h
  exact ⟨hlisted, habsurd, habsurd, habsurd⟩

/-- An update starts afresh. -/
lemma synced_updateInterface {index : Option δ} {plugins : Option (List UInt64)}
    (hlisted : ∀ id, index = some id → s.window.devices id ≠ none)
    (hloads : s.LoadsTabs index plugins) : (s.updateInterface index plugins).Synced := by
  simp only [updateInterface]
  by_cases hstarted : ∃ id ∈ index, s.window.devices id = some .started
  · obtain ⟨⟨ids, rfl, hdistinct⟩, hdrawn⟩ := hloads hstarted
    obtain ⟨id, hindex, hstatus⟩ := hstarted
    obtain rfl : index = some id := hindex
    have hwindow : s.window.updateInterface s.files (some id) =
        { s.window with
          devID := some id
          configurationFilePath := some id
          openedConfigurationFile := s.opened (some id)
          tabsEnabled := true } := by
      simp only [opened, MainWindow.updateInterface, hstatus]
    rw [if_pos ⟨id, rfl, hstatus⟩, if_pos Option.isSome_some]
    refine ⟨?_, ?_, ?_, ?_⟩ <;> rw [hwindow]
    · exact hlisted
    · exact fun _ => ⟨id, rfl, rfl⟩
    · exact fun _ => LCDPluginsTab.shows_updateTab hdistinct
    · exact fun _ => GKeysTab.shows_updateTab hdrawn
  · rw [if_neg hstarted]
    have hwindow : s.window.updateInterface s.files index =
        { s.window with devID := index, tabsEnabled := false } := by
      cases index with
      | none => rfl
      | some id =>
        rcases hstatus : s.window.devices id with _ | _ | _
        · exact absurd hstatus (hlisted id rfl)
        · exact absurd ⟨id, rfl, hstatus⟩ hstarted
        · simp only [MainWindow.updateInterface, hstatus]
    rw [hwindow]
    exact synced_of_disabled hlisted rfl

lemma synced_click {s' : TabbedWindow δ} (h : s.Synced) (h' : s'.Synced) : (s.click s').Synced := by
  rw [click]
  split_ifs
  · exact h'
  · exact h

/-- The configuration that is written has the change that the tab shows, and nothing else. -/
def Applies (s : TabbedWindow δ) (config : DeviceProperties) : TabName → Prop
  | .backlightColor =>
    config = { s.window.openedConfigurationFile with RGB := s.backlightColorTab.newColor }
  | .LCDPlugins =>
    ∃ mask, config = { s.window.openedConfigurationFile with LCDPluginsMask1 := mask } ∧
      (∀ (row : ℕ) id checked, s.LCDPluginsTab.checkboxes[row]? = some (id, checked) →
        checked = decide (mask &&& id ≠ 0)) ∧
      ∀ bits, (∀ id ∈ s.LCDPluginsTab.plugins, id &&& bits = 0) →
        mask &&& bits = s.window.openedConfigurationFile.LCDPluginsMask1 &&& bits
  | .GKeys =>
    ∃ comboBox event, s.GKeysTab.comboBox = some comboBox ∧
      s.window.openedConfigurationFile.GKeysBanks s.GKeysTab.currentBankID comboBox.keyID =
        some event ∧
      ∃ changed : GKeysEvent, changed.Usable ∧ changed.GKeyMacro = event.GKeyMacro ∧
        changed.GKeyEventType = comboBox.shown ∧
        changed.GKeyCommand = s.GKeysTab.commandLine.getD "" ∧
        config = { s.window.openedConfigurationFile with
          GKeysBanks := setKey s.window.openedConfigurationFile.GKeysBanks
            s.GKeysTab.currentBankID comboBox.keyID changed }

lemma written_eq_some {name : TabName} {id : δ} {config : DeviceProperties}
    (h : s.written name = some (id, config)) :
    ∃ tab, s.applied name = some tab ∧ s.window.tabsEnabled = true ∧
      s.window.configurationFilePath = some id ∧ s.window.change tab = some config := by
  obtain ⟨tab, happlied, hwritten⟩ := Option.bind_eq_some_iff.mp h
  rw [MainWindow.written] at hwritten
  split_ifs at hwritten with hcan
  obtain ⟨id', hpath, hchange⟩ := Option.bind_eq_some_iff.mp hwritten
  obtain ⟨config', hconfig, hpair⟩ := Option.map_eq_some_iff.mp hchange
  cases hpair
  exact ⟨tab, happlied, hcan.1, hpath, hconfig⟩

lemma applies_of_synced (h : s.Synced) {name : TabName} {id : δ} {config : DeviceProperties}
    (hwritten : s.written name = some (id, config)) :
    s.window.devID = some id ∧ s.Applies config name := by
  obtain ⟨tab, happlied, henabled, hpath, hchange⟩ := written_eq_some hwritten
  obtain ⟨id', hdevID, hpath'⟩ := h.path henabled
  obtain rfl : id = id' := Option.some.inj (hpath.symm.trans hpath')
  refine ⟨hdevID, ?_⟩
  cases name with
  | backlightColor =>
    rw [applied] at happlied
    split_ifs at happlied
    cases happlied
    exact (Option.some.inj hchange).symm
  | LCDPlugins =>
    rw [applied] at happlied
    split_ifs at happlied
    cases happlied
    have hshows := h.LCDPluginsTab henabled
    exact ⟨_, (Option.some.inj hchange).symm, hshows.checked, hshows.others⟩
  | GKeys =>
    rw [applied] at happlied
    split_ifs at happlied with hstatus
    cases happlied
    have hshows := h.GKeysTab henabled
    obtain ⟨comboBox, event, hcomboBox, hshown, hevent, husable⟩ := hshows.applies hstatus
    obtain ⟨-, hkey, -⟩ := hshows.comboBox comboBox hcomboBox
    rw [GKeysTab.getGKeyEventParams, MainWindow.change, hevent] at hchange
    refine ⟨comboBox, event, hcomboBox, ?_, s.GKeysTab.chosen event, husable, rfl, hshown.symm, rfl,
      ?_⟩
    · rw [hkey]
      exact hevent
    · rw [hkey]
      exact (Option.some.inj hchange).symm

section

variable [LinearOrder δ]

/-- The step updates all tabs, if it updates one. -/
def Loads (s : TabbedWindow δ) : TabbedWindowEvent δ → Prop
  | .select index plugins       => s.LoadsTabs index plugins
  | .apply name result plugins  =>
    (s.saveConfigurationFile name result).LoadsTabs s.window.devID plugins
  | .closeMessageBox plugins    =>
    { s with window := { s.window with messageBox := false } }.LoadsTabs s.window.devID plugins
  | _                           => True

lemma saveConfigurationFile_frame (name : TabName) (result : SaveResult) :
    (s.saveConfigurationFile name result).window.devices = s.window.devices := by
  rw [saveConfigurationFile]
  cases s.written name <;> cases name <;> rfl

lemma synced_step (h : s.Synced) {event : TabbedWindowEvent δ} (hloads : s.Loads event) :
    (step s event).Synced := by
  cases event with
  | select index plugins =>
    rw [step]
    split_ifs with hignored
    · exact h
    · refine synced_updateInterface (fun id hid hnone => hignored ?_) hloads
      exact .inr (.inr ⟨id, hid, hnone⟩)
  | setCurrentColor color =>
    exact synced_click h ⟨h.listed, h.path, h.LCDPluginsTab, h.GKeysTab⟩
  | toggleCheckbox row =>
    exact synced_click h ⟨h.listed, h.path,
      fun henabled => LCDPluginsTab.shows_toggleCheckbox (h.LCDPluginsTab henabled) row, h.GKeysTab⟩
  | clickMKey bankID =>
    exact synced_click h ⟨h.listed, h.path, h.LCDPluginsTab,
      fun henabled => GKeysTab.shows_clickMKey (h.GKeysTab henabled) bankID⟩
  | clickGKey keyID =>
    exact synced_click h ⟨h.listed, h.path, h.LCDPluginsTab,
      fun henabled => GKeysTab.shows_clickGKey (h.GKeysTab henabled) keyID⟩
  | chooseEventType eventType =>
    exact synced_click h ⟨h.listed, h.path, h.LCDPluginsTab,
      fun henabled => GKeysTab.shows_chooseEventType (h.GKeysTab henabled) eventType⟩
  | editCommand text =>
    exact synced_click h ⟨h.listed, h.path, h.LCDPluginsTab,
      fun henabled => GKeysTab.shows_editCommand (h.GKeysTab henabled) text⟩
  | apply name result plugins =>
    rw [step]
    split_ifs
    · refine synced_updateInterface (fun id hid => ?_) hloads
      rw [saveConfigurationFile_frame]
      exact h.listed id hid
    · exact h
  | configurationFileUpdated devID =>
    rw [step, MainWindow.configurationFileUpdated]
    split_ifs <;> exact ⟨h.listed, h.path, h.LCDPluginsTab, h.GKeysTab⟩
  | closeMessageBox plugins =>
    rw [step]
    split_ifs
    · exact synced_updateInterface h.listed hloads
    · exact h
  | resetInterface devices =>
    rw [step]
    split_ifs
    · exact h
    · exact synced_of_disabled (fun id hid => by cases hid) rfl
  | writeFile devID file => exact ⟨h.listed, h.path, h.LCDPluginsTab, h.GKeysTab⟩

/-- In every run whose updates load all tabs and list plugins with bits of their own, what is applied
with the button of a tab is written to the file of the selected device: its configuration with what
the tab shows. A G-key gets a type for which it has a command or a recorded macro, and the plugins
that are not shown stay as they are. -/
theorem written_run (files : δ → Option DeviceConfiguration) (events : List (TabbedWindowEvent δ))
    (hloads : Run.Steps step Loads { files } events) (name : TabName) (id : δ)
    (config : DeviceProperties)
    (hwritten : (Run.run step { files } events).written name = some (id, config)) :
    (Run.run step { files } events).window.devID = some id ∧
      (Run.run step { files } events).Applies config name := by
  have hsynced : (Run.run step { files } events).Synced :=
    hloads.induction (synced_of_disabled (fun id hid => by cases hid) rfl)
      fun s event hs hevent => synced_step hs hevent
  exact applies_of_synced hsynced hwritten

/-- A device with three G-keys. -/
def threeKeys : DeviceConfiguration where
  GKeysBanks := fun _ keyID => if 1 ≤ keyID.val ∧ keyID.val ≤ 3 then some {} else none

/-- A device is selected, and its second G-key gets a command. -/
def commandEvents : List (TabbedWindowEvent ℕ) :=
  [.resetInterface fun _ => some .started, .select (some 7) (some [1, 2]),
    .clickGKey ⟨2, by decide⟩, .chooseEventType .gkeyRuncmd, .editCommand "ls"]

theorem written_run_command :
    (Run.run step { files := fun _ => some threeKeys } commandEvents).window.devID = some 7 ∧
      (Run.run step { files := fun _ => some threeKeys } commandEvents).Applies
        { threeKeys.load with
          GKeysBanks := setKey threeKeys.load.GKeysBanks .m0 ⟨2, by decide⟩
            { GKeyCommand := "ls", GKeyEventType := .gkeyRuncmd } } .GKeys :=
  written_run (fun _ => some threeKeys) commandEvents
    ⟨trivial, fun _ => ⟨⟨[1, 2], rfl, by decide⟩, by decide +kernel⟩, trivial, trivial, trivial,
      trivial⟩ .GKeys 7 _ rfl

end

/-- When the service does not answer, the tabs stay enabled: a mask that was chosen for the device
before is written to the file of the device that is selected now. -/
theorem written_updateInterface_none (hcan : s.window.CanApply)
    (henabled : s.LCDPluginsTab.applyEnabled = true) {id : δ}
    (hstarted : s.window.devices id = some .started) :
    (s.updateInterface (some id) none).written .LCDPlugins =
      some (id, { s.opened (some id) with
        LCDPluginsMask1 := s.LCDPluginsTab.newLCDPluginsMask }) := by
  let window : MainWindow δ :=
    { s.window with
      devID := some id
      configurationFilePath := some id
      openedConfigurationFile := s.opened (some id) }
  have hupdate : s.updateInterface (some id) none =
      { s with
        window := window
        backlightColorTab := s.backlightColorTab.updateTab (s.opened (some id)).RGB
        LCDPluginsTab := { s.LCDPluginsTab with checkboxes := [] } } := by
    simp only [updateInterface, window, opened, MainWindow.updateInterface, hstarted,
      LCDPluginsTab.updateTab, Option.isSome_none, Bool.false_eq_true, if_false]
    exact if_pos ⟨id, rfl, hstarted⟩
  have hcan' : window.CanApply := hcan
  rw [hupdate, written, applied, if_pos henabled, Option.bind_some, MainWindow.written, if_pos hcan']
  rfl

end TabbedWindow

end GLogiK
