import GLogiK.Keyboard.Leds
import GLogiK.Keyboard.Replay

/-!
# Recording a sequence of reports

The 8-byte reports that `enterMacroRecordMode` receives, one after the other. As long as no size
limit is reached, `_newMacro` holds the changes of all reports, so the results about one report
carry over to the whole recording.
-/

namespace GLogiK

variable {δ : Type*}

/-- A report and the time it is read. -/
structure TimedReport where
  bytes : KeysBuffer
  now : ℕ

/-- The device after an 8-byte report was read in macro record mode. -/
def recordReport (d : USBDevice δ) (r : TimedReport) : USBDevice δ :=
  (recordTransfer d ⟨8, r.bytes, r.now⟩).1

/-! ### The changes of a recording -/

/-- The changes of a report; a report with a wrong first byte has none. -/
def reportChanges (previous bytes : KeysBuffer) : List Change :=
  if bytes 0 = 0x01 then changes previous bytes else []

/-- The changes of all reports. -/
def recordedChanges (previous : KeysBuffer) : List TimedReport → List Change
  | [] => []
  | r :: rs => reportChanges previous r.bytes ++ recordedChanges r.bytes rs

/-- No event of the list is skipped for the size limits of a macro. -/
def NoneSkipped (l : List Change) : Prop :=
  l.length ≤ MACRO_T_MAX_SIZE ∧ ∀ c ∈ l.drop MACRO_T_KEYPRESS_MAX_SIZE, c.2 = .eventKeyRelease

lemma length_macroChanges (m : MacroType) : (macroChanges m).length = m.length := by
  simp [macroChanges]

lemma macroChanges_append (m n : MacroType) :
    macroChanges (m ++ n) = macroChanges m ++ macroChanges n := by
  simp [macroChanges]

lemma NoneSkipped.of_append {u v : List Change} (h : NoneSkipped (u ++ v)) : NoneSkipped u := by
  obtain ⟨hlen, hrel⟩ := h
  rw [List.length_append] at hlen
  refine ⟨(Nat.le_add_right _ _).trans hlen, fun c hc => hrel c ?_⟩
  rw [List.drop_append]
  exact List.mem_append_left _ hc

/-- A change behind the list is stored when nothing is skipped. -/
lemma pushChange_of_noneSkipped {s : MacroType × UInt16} {c : Change}
    (h : NoneSkipped (macroChanges s.1 ++ [c])) :
    macroChanges (pushChange s c).1 = macroChanges s.1 ++ [c] := by
  obtain ⟨hlen, hrel⟩ := h
  rw [List.length_append, length_macroChanges, List.length_singleton] at hlen
  have hstored : ¬ (s.1.length ≥ MACRO_T_MAX_SIZE ∨
      (s.1.length ≥ MACRO_T_KEYPRESS_MAX_SIZE ∧ c.2 ≠ .eventKeyRelease)) := by
    rintro (hfull | ⟨hpress, hne⟩)
    · exact absurd hlen (Nat.not_le.mpr (Nat.lt_succ_of_le hfull))
    · refine hne (hrel c ?_)
      rw [List.drop_append_of_le_length (by rwa [length_macroChanges])]
      exact List.mem_append_right _ List.mem_cons_self
  rw [pushChange, if_neg hstored, macroChanges_append]
  rfl

lemma foldl_pushChange_of_noneSkipped (l : List Change) (s : MacroType × UInt16)
    (h : NoneSkipped (macroChanges s.1 ++ l)) :
    macroChanges (l.foldl pushChange s).1 = macroChanges s.1 ++ l := by
  induction l generalizing s with
  | nil => simp
  | cons c l ih =>
    have hc : NoneSkipped (macroChanges s.1 ++ [c]) := by
      refine NoneSkipped.of_append (v := l) ?_
      rwa [List.append_assoc]
    have hpush := pushChange_of_noneSkipped hc
    rw [List.foldl_cons, ih _ (by rwa [hpush, List.append_assoc]), hpush, List.append_assoc]
    rfl

/-! ### One report of a recording -/

lemma isPressed_of_zero {d : USBDevice δ} (h : d.pressedRKeysMask = 0) (key : Keys) :
    d.isPressed key = false := by
  simp [USBDevice.isPressed, h]

lemma checkGKey_of_zero {d : USBDevice δ} (h : d.pressedRKeysMask = 0) : checkGKey d = none := by
  simp [checkGKey, isPressed_of_zero h]

lemma recordProcessed_of_zero {d : USBDevice δ} (h : d.pressedRKeysMask = 0) :
    recordProcessed d = (d, []) := by
  simp [recordProcessed, isPressed_of_zero h, checkGKey_of_zero h]

/-- What an 8-byte report does to a device whose MR led is on. -/
lemma recordReport_eq {d : USBDevice δ} (hMR : d.isLedOn .mr) (r : TimedReport) :
    recordReport d r =
      { processKeyEvent8Bytes { d with pressedKeys := r.bytes, pressedRKeysMask := 0 } r.now with
        previousPressedKeys := r.bytes } := by
  have hprocess : processKeyEvent d ⟨8, r.bytes, r.now⟩ = _ :=
    processKeyEvent_of_recorded rfl hMR
  simp only [recordReport, recordTransfer, hprocess]
  rw [recordProcessed_of_zero]
  rw [processKeyEvent8Bytes_eq]

section

variable {d : USBDevice δ} (r : TimedReport)

lemma recordReport_previousPressedKeys (hMR : d.isLedOn .mr) :
    (recordReport d r).previousPressedKeys = r.bytes := by
  rw [recordReport_eq hMR]

lemma recordReport_isLedOn (hMR : d.isLedOn .mr) : (recordReport d r).isLedOn .mr := by
  rw [recordReport_eq hMR]
  unfold processKeyEvent8Bytes
  split_ifs <;> exact hMR

lemma recordReport_newMacro (hMR : d.isLedOn .mr) (hm : d.newMacro.length + 8 < 256) :
    ∃ interval, (recordReport d r).newMacro =
      ((reportChanges d.previousPressedKeys r.bytes).foldl pushChange (d.newMacro, interval)).1 := by
  refine ⟨getTimeLapse d r.now, ?_⟩
  rw [recordReport_eq hMR]
  by_cases hfirst : r.bytes 0 = 0x01
  · simp only [processKeyEvent8Bytes, hfirst, ne_eq, not_true_eq_false, if_false, reportChanges,
      if_true]
    exact fillStandardKeysEvents_newMacro _ _ hm
  · simp only [processKeyEvent8Bytes, hfirst, ne_eq, not_false_eq_true, if_true, reportChanges,
      if_false]
    rfl

/-- When nothing is skipped, the macro grows by the changes of the report. -/
lemma macroChanges_recordReport (hMR : d.isLedOn .mr)
    (h : NoneSkipped (macroChanges d.newMacro ++ reportChanges d.previousPressedKeys r.bytes)) :
    macroChanges (recordReport d r).newMacro =
      macroChanges d.newMacro ++ reportChanges d.previousPressedKeys r.bytes := by
  have hlen : d.newMacro.length ≤ 24 := by
    have := h.of_append.1
    rwa [length_macroChanges] at this
  obtain ⟨interval, hnew⟩ := recordReport_newMacro r hMR (by omega)
  rw [hnew]
  exact foldl_pushChange_of_noneSkipped _ _ h

end

/-! ### Faithful recordings -/

/-- The report is recorded faithfully after the report `previous`. -/
def ReportOK (previous bytes : KeysBuffer) : Prop :=
  (bytes 0 = 0x01 ∧ ChangesOK previous bytes) ∨
    (bytes 0 ≠ 0x01 ∧ downKeys previous = downKeys bytes ∧
      ∀ k ∈ modifierKeys, k.isIn (previous 1) = k.isIn (bytes 1))

/-- All reports are, each after the one before it. -/
def ReportsOK (previous : KeysBuffer) : List TimedReport → Prop
  | [] => True
  | r :: rs => ReportOK previous r.bytes ∧ ReportsOK r.bytes rs

/-- The events that `handleModifierKeys` appends for the report. -/
def modifierEvents (d : USBDevice δ) (r : TimedReport) : List Change :=
  if r.bytes 0 = 0x01 then
    macroChanges ((handleModifierKeys (d.previousPressedKeys 1) (r.bytes 1)
      (getTimeLapse d r.now) d.newMacro).1.drop d.newMacro.length)
  else []

/-- In every state of the recording, playing the macro leaves down the keys of the last report,
and every report shows the modifiers it changes. -/
def RecordsFaithfully (d : USBDevice δ) : List TimedReport → Prop
  | [] => replay d.newMacro = downKeys d.previousPressedKeys
  | r :: rs => replay d.newMacro = downKeys d.previousPressedKeys ∧
      ModifiersSeen d.previousPressedKeys r.bytes (modifierEvents d r) ∧
      RecordsFaithfully (recordReport d r) rs

lemma modifierEvents_eq {d : USBDevice δ} {r : TimedReport}
    (h : NoneSkipped (macroChanges d.newMacro ++ reportChanges d.previousPressedKeys r.bytes)) :
    modifierEvents d r =
      if r.bytes 0 = 0x01 then modifierChanges (d.previousPressedKeys 1) (r.bytes 1) else [] := by
  rw [modifierEvents]
  split_ifs with hfirst
  · rw [reportChanges, if_pos hfirst, changes, ← List.append_assoc] at h
    have hlen : d.newMacro.length ≤ 24 := by
      have := h.of_append.of_append.1
      rwa [length_macroChanges] at this
    have hfold := handleModifierKeys_eq_foldl (d.previousPressedKeys 1) (r.bytes 1)
      (getTimeLapse d r.now) d.newMacro (by omega)
    have hmod := foldl_pushChange_of_noneSkipped
      (modifierChanges (d.previousPressedKeys 1) (r.bytes 1))
      (d.newMacro, getTimeLapse d r.now) h.of_append
    rw [hfold] at hmod
    rw [macroChanges, List.map_drop]
    change (macroChanges _).drop _ = _
    rw [hmod]
    exact List.drop_left' (length_macroChanges _)
  · rfl

/-- One report is recorded faithfully exactly when it is `ReportOK`. -/
lemma reportOK_iff {d : USBDevice δ} {r : TimedReport} (hMR : d.isLedOn .mr)
    (hreplay : replay d.newMacro = downKeys d.previousPressedKeys)
    (h : NoneSkipped (macroChanges d.newMacro ++ reportChanges d.previousPressedKeys r.bytes)) :
    (replay (recordReport d r).newMacro = downKeys r.bytes ∧
      ModifiersSeen d.previousPressedKeys r.bytes (modifierEvents d r)) ↔
      ReportOK d.previousPressedKeys r.bytes := by
  have hnew : replay (recordReport d r).newMacro =
      playChanges (downKeys d.previousPressedKeys)
        (reportChanges d.previousPressedKeys r.bytes) := by
    rw [replay, foldl_play_eq, macroChanges_recordReport r hMR h, playChanges, List.foldl_append,
      ← hreplay, replay, foldl_play_eq]
    rfl
  rw [hnew, modifierEvents_eq h]
  by_cases hfirst : r.bytes 0 = 0x01
  · simp only [reportChanges, hfirst, if_true, changesOK_iff, ReportOK, true_and, ne_eq,
      not_true_eq_false, false_and, or_false]
  · simp only [reportChanges, hfirst, if_false, ReportOK, false_and, ne_eq, not_false_eq_true,
      true_and, false_or, playChanges, List.foldl_nil]
    refine and_congr_right fun _ => forall₂_congr fun k _ => ?_
    cases k.isIn (r.bytes 1) <;> cases k.isIn (d.previousPressedKeys 1) <;> simp

lemma recordsFaithfully_iff_of_replay (rs : List TimedReport) (d : USBDevice δ)
    (hMR : d.isLedOn .mr) (hreplay : replay d.newMacro = downKeys d.previousPressedKeys)
    (h : NoneSkipped (macroChanges d.newMacro ++ recordedChanges d.previousPressedKeys rs)) :
    RecordsFaithfully d rs ↔ ReportsOK d.previousPressedKeys rs := by
  induction rs generalizing d with
  | nil => simp [RecordsFaithfully, ReportsOK, hreplay]
  | cons r rs ih =>
    rw [recordedChanges, ← List.append_assoc] at h
    have hstep := reportOK_iff hMR hreplay h.of_append
    have hprev := recordReport_previousPressedKeys r hMR
    have hrest : NoneSkipped (macroChanges (recordReport d r).newMacro ++
        recordedChanges (recordReport d r).previousPressedKeys rs) := by
      rwa [macroChanges_recordReport r hMR h.of_append, hprev]
    have hnext := fun hr => ih (recordReport d r) (recordReport_isLedOn r hMR) hr hrest
    rw [hprev] at hnext
    constructor
    · rintro ⟨_, hseen, hfaithful⟩
      have hr : replay (recordReport d r).newMacro = downKeys r.bytes := by
        rw [← hprev]
        cases rs with
        | nil => exact hfaithful
        | cons _ _ => exact hfaithful.1
      exact ⟨hstep.mp ⟨hr, hseen⟩, (hnext hr).mp hfaithful⟩
    · rintro ⟨hok, hoks⟩
      obtain ⟨hr, hseen⟩ := hstep.mpr hok
      exact ⟨hreplay, hseen, (hnext hr).mpr hoks⟩

/-- A recording that starts with an empty macro and no key down, and from which no event is
skipped, is faithful in all its states exactly when all its reports are `ReportOK`. -/
theorem recordsFaithfully_iff {d : USBDevice δ} {rs : List TimedReport} (hMR : d.isLedOn .mr)
    (hnew : d.newMacro = []) (hup : ∀ i, i ≠ 0 → d.previousPressedKeys i = 0)
    (h : NoneSkipped (recordedChanges d.previousPressedKeys rs)) :
    RecordsFaithfully d rs ↔ ReportsOK d.previousPressedKeys rs := by
  refine recordsFaithfully_iff_of_replay rs d hMR ?_ (by rwa [hnew])
  have hdown : downKeys d.previousPressedKeys = ∅ := by
    refine Finset.eq_empty_of_forall_notMem fun c hc => ?_
    rcases mem_downKeys.mp hc with ⟨k, _, hk, _⟩ | ⟨i, hi, hne, _⟩
    · simp [ModifierKey.isIn, hup 1 (by decide)] at hk
    · exact hne (hup i (by rintro rfl; revert hi; decide))
  rw [hnew, hdown, replay_nil]

/-- A device in macro record mode, before any report. -/
private def recordingDevice : USBDevice ℕ :=
  let g510 : USBDeviceID ℕ :=
    { devID := 0, capabilities := 15, driverID := 0, GKeysTransferLength := 5 }
  enterMacroRecordMode { newUSBDevice g510 with MxKeysLedsMask := 8 } 0

/-- Left shift and `a` go down in one report and up in the next. -/
theorem recordsFaithfully_shiftA :
    RecordsFaithfully recordingDevice
      [⟨![1, 2, 4, 0, 0, 0, 0, 0], 10⟩, ⟨![1, 0, 0, 0, 0, 0, 0, 0], 20⟩] := by
  refine (recordsFaithfully_iff rfl rfl (fun _ _ => rfl) ⟨by decide, by decide⟩).mpr ?_
  refine ⟨Or.inl ⟨rfl, ?_⟩, Or.inl ⟨rfl, ?_⟩, trivial⟩
  · exact ⟨by decide +kernel, by decide +kernel, by decide +kernel, by decide +kernel⟩
  · exact ⟨by decide +kernel, by decide +kernel, by decide +kernel, by decide +kernel⟩

/-- Left control goes up and left shift goes down in one report: the difference of the bytes is
the bit of left control, which is recorded as pressed once more. -/
theorem recordReport_mixed_modifiers :
    let rs := [⟨![1, 1, 0, 0, 0, 0, 0, 0], 10⟩, ⟨![1, 2, 0, 0, 0, 0, 0, 0], 20⟩]
    NoneSkipped (recordedChanges recordingDevice.previousPressedKeys rs) ∧
      downKeys (![1, 2, 0, 0, 0, 0, 0, 0] : KeysBuffer) = {42} ∧
      replay (rs.foldl recordReport recordingDevice).newMacro = {29} := by
  refine ⟨⟨by decide, by decide⟩, by decide +kernel, by decide +kernel⟩

end GLogiK
