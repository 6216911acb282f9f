import GLogiK.Keyboard.MxKeys

/-!
# The limits of a recording

The two limits of a macro are checked before each event that is appended, in the loop over the
modifier keys and in the loop over the other keys. So they hold in every state of a device, and
after every report of a recording.
-/

namespace GLogiK

variable {δ : Type*}

/-- What is behind the first limit are releases. -/
structure WithinLimits (m : MacroType) : Prop where
  size : m.length ≤ MACRO_T_MAX_SIZE
  releases : ∀ e ∈ m.drop MACRO_T_KEYPRESS_MAX_SIZE, e.event = .eventKeyRelease

section

variable {m : MacroType}

lemma withinLimits_nil : WithinLimits [] := ⟨Nat.zero_le _, List.forall_mem_nil _⟩

/-- A press is before the first limit. -/
lemma WithinLimits.lt_of_press (h : WithinLimits m) {i : ℕ} {e : KeyEvent} (hi : m[i]? = some e)
    (he : e.event = .eventKeyPress) : i < MACRO_T_KEYPRESS_MAX_SIZE := by
  by_contra hlt
  have hdrop : (m.drop MACRO_T_KEYPRESS_MAX_SIZE)[i - MACRO_T_KEYPRESS_MAX_SIZE]? = some e := by
    rw [List.getElem?_drop, Nat.add_sub_cancel' (Nat.le_of_not_lt hlt), hi]
  have hrelease := h.releases e (List.mem_of_getElem? hdrop)
  rw [he] at hrelease
  cases hrelease

lemma WithinLimits.pressCount_le (h : WithinLimits m) :
    pressCount m ≤ MACRO_T_KEYPRESS_MAX_SIZE := by
  have hback : pressCount (m.drop MACRO_T_KEYPRESS_MAX_SIZE) = 0 := by
    rw [pressCount, List.countP_eq_zero]
    intro e he
    rw [h.releases e he]
    decide
  have hfront : pressCount (m.take MACRO_T_KEYPRESS_MAX_SIZE) ≤ MACRO_T_KEYPRESS_MAX_SIZE :=
    List.countP_le_length.trans (List.length_take_le _ _)
  rw [← List.take_append_drop MACRO_T_KEYPRESS_MAX_SIZE m, pressCount_append, hback, Nat.add_zero]
  exact hfront

/-! ### A report -/

/-- One event is appended where the limits allow it. -/
lemma WithinLimits.pushChange {s : MacroType × UInt16} (h : WithinLimits s.1) (c : Change) :
    WithinLimits (pushChange s c).1 := by
  rw [GLogiK.pushChange]
  split_ifs with hskip
  · exact h
  · rw [not_or, Nat.not_le, not_and, not_not] at hskip
    obtain ⟨hsize, hpress⟩ := hskip
    refine ⟨?_, ?_⟩
    · rw [List.length_append, List.length_singleton]
      exact hsize
    · intro e he
      rw [List.drop_append] at he
      rcases List.mem_append.mp he with hold | hnew
      · exact h.releases e hold
      · -- the new event is behind the first limit
        by_cases hlt : s.1.length < MACRO_T_KEYPRESS_MAX_SIZE
        · rw [List.drop_of_length_le (by rw [List.length_singleton]; omega)] at hnew
          cases hnew
        · rw [List.mem_singleton.mp (List.mem_of_mem_drop hnew)]
          exact hpress (Nat.le_of_not_lt hlt)

lemma WithinLimits.foldl_pushChange (l : List Change) {s : MacroType × UInt16}
    (h : WithinLimits s.1) : WithinLimits (l.foldl GLogiK.pushChange s).1 := by
  induction l generalizing s with
  | nil => exact h
  | cons c l ih => exact ih (h.pushChange c)

end

section

variable {d : USBDevice δ}

/-- The loops of a report never pass the limits. -/
lemma withinLimits_fillStandardKeysEvents (h : WithinLimits d.newMacro) (now : ℕ) :
    WithinLimits (fillStandardKeysEvents d now).newMacro := by
  have hsize : d.newMacro.length + 8 < 256 := by
    have := h.size
    rw [MACRO_T_MAX_SIZE] at this
    omega
  rw [fillStandardKeysEvents_newMacro d now hsize]
  exact h.foldl_pushChange _

lemma withinLimits_processKeyEvent (h : WithinLimits d.newMacro) (t : KeysTransfer) :
    WithinLimits (processKeyEvent d t).1.newMacro := by
  by_cases hrecorded : t.length = 8 ∧ d.isLedOn .mr
  · rw [processKeyEvent_of_recorded hrecorded.1 hrecorded.2]
    simp only [processKeyEvent8Bytes]
    split_ifs
    · exact h
    · apply withinLimits_fillStandardKeysEvents
      exact h
  · rw [processKeyEvent_of_not_recorded hrecorded]
    exact h

lemma withinLimits_recordReport (h : WithinLimits d.newMacro) (r : TimedReport) :
    WithinLimits (recordReport d r).newMacro := by
  by_cases hMR : d.isLedOn .mr
  · have hprocess := withinLimits_processKeyEvent h ⟨8, r.bytes, r.now⟩
    rw [processKeyEvent_of_recorded rfl hMR] at hprocess
    rw [recordReport_eq hMR]
    exact hprocess
  · have hskipped : processKeyEvent d ⟨8, r.bytes, r.now⟩ = _ :=
      processKeyEvent_of_not_recorded fun hrecorded => hMR hrecorded.2
    simp only [recordReport, recordTransfer, hskipped]
    exact h

/-! ### The life of a device -/

/-- A transfer of a recording keeps the limits, or ends the recording. -/
lemma recordTransfer_limits (h : WithinLimits d.newMacro) (t : KeysTransfer) :
    WithinLimits (recordTransfer d t).1.newMacro ∨
      (recordTransfer d t).1.exitMacroRecordMode = true := by
  have hprocess := withinLimits_processKeyEvent h t
  cases hstatus : (processKeyEvent d t).2 with
  | keySkipped =>
    simp only [recordTransfer, hstatus]
    exact Or.inl hprocess
  | keyProcessed =>
    simp only [recordTransfer, hstatus, recordProcessed]
    split_ifs
    · exact Or.inr rfl
    · cases checkGKey (processKeyEvent d t).1 with
      | none => exact Or.inl hprocess
      | some keyID => exact Or.inr rfl

/-- The macro is cleared when a recording ends. -/
lemma withinLimits_checkExit
    (h : WithinLimits d.newMacro ∨ d.exitMacroRecordMode = true) :
    WithinLimits (checkExit d).1.newMacro := by
  rw [checkExit]
  split_ifs with hexit
  · rw [leaveMacroRecordMode]
    simp only
    split_ifs
    · exact withinLimits_nil
    · exact withinLimits_nil
  · rcases h with h | h
    · exact h
    · rw [h] at hexit
      exact absurd rfl hexit

lemma withinLimits_listenTransfer (h : WithinLimits d.newMacro) (t : KeysTransfer) :
    WithinLimits (listenTransfer d t).1.newMacro := by
  have hprocess := withinLimits_processKeyEvent h t
  simp only [listenTransfer]
  cases (processKeyEvent d t).2 with
  | keySkipped => exact hprocess
  | keyProcessed =>
    rw [listenProcessed]
    split_ifs
    · simp only
      split_ifs
      · exact hprocess
      · cases checkGKey (updateDeviceMxKeysLedsMask (processKeyEvent d t).1 false).1 with
        | none => exact hprocess
        | some keyID => exact hprocess
    · exact hprocess

lemma withinLimits_deviceStep (h : WithinLimits d.newMacro) (ev : DeviceEvent) :
    WithinLimits (deviceStep d ev).1.newMacro := by
  cases ev with
  | turn turn =>
    simp only [deviceStep, keysTurn]
    split_ifs
    · cases turn with
      | transfer t => exact withinLimits_checkExit (recordTransfer_limits h t)
      | timeout => exact withinLimits_checkExit (Or.inl h)
    · cases turn with
      | transfer t => exact withinLimits_listenTransfer h t
      | timeout => exact h
    · exact h
  | resetDeviceState =>
    rw [deviceStep, resetDeviceState_eq]
    exact h
  | setDeviceActiveConfiguration c m =>
    rw [deviceStep, setDeviceActiveConfiguration_eq]
    exact h
  | stopThreads => exact h

lemma withinLimits_deviceRun (h : WithinLimits d.newMacro) (evs : List DeviceEvent) :
    WithinLimits (deviceRun d evs).newMacro := by
  induction evs generalizing d with
  | nil => exact h
  | cons ev evs ih => exact ih (withinLimits_deviceStep h ev)

lemma withinLimits_reports (h : WithinLimits d.newMacro) (reports : List TimedReport) :
    WithinLimits (reports.foldl recordReport d).newMacro := by
  induction reports generalizing d with
  | nil => exact h
  | cons r reports ih => exact ih (withinLimits_recordReport h r)

end

/-- Whatever a device has done before, and whatever reports a recording goes on with, the macro has
at most 24 events and at most 16 presses, all of them among the first 16 events. -/
theorem recording_withinLimits (det : USBDeviceID δ) (history : List DeviceEvent)
    (reports : List TimedReport) :
    let m := (reports.foldl recordReport (deviceRun (newUSBDevice det) history)).newMacro
    m.length ≤ MACRO_T_MAX_SIZE ∧ pressCount m ≤ MACRO_T_KEYPRESS_MAX_SIZE ∧
      ∀ (i : ℕ) (e : KeyEvent), m[i]? = some e → e.event = .eventKeyPress →
        i < MACRO_T_KEYPRESS_MAX_SIZE := by
  intro m
  have hhistory : WithinLimits (deviceRun (newUSBDevice det) history).newMacro :=
    withinLimits_deviceRun withinLimits_nil history
  have hm : WithinLimits m := withinLimits_reports hhistory reports
  exact ⟨hm.size, hm.pressCount_le, fun i e => hm.lt_of_press⟩

end GLogiK
