import GLogiK.LCD.Coretemp

/-!
# The place of the vertical lines

After every two cores a vertical line is drawn 32 pixels further on the right, and one more at the
end. There is place for three of them, and nothing checks it.
-/

namespace GLogiK

namespace Coretemp

open LCDPlugin

/-- The byte of a row of a vertical line. -/
def VerticalLine.index (line : VerticalLine) (i : ℕ) : ℕ :=
  (drawingIndex line.PBMXPos line.PBMYPos).toNat + DEFAULT_PBM_WIDTH_IN_BYTES * i

/-- All bytes that are accessed. The first row is left out. -/
def VerticalLine.indexes (line : VerticalLine) : List ℕ :=
  (List.range' 1 (line.size.toNat - 1)).map line.index

/-- Each byte of the line is in the frame, and in the row it is meant for. -/
def VerticalLine.Inside (line : VerticalLine) : Prop :=
  line.PBMXPos.toNat < DEFAULT_PBM_WIDTH ∧
  ∀ i, 1 ≤ i → i < line.size.toNat →
    line.index i < DEFAULT_PBM_DATA_IN_BYTES ∧
      line.index i / DEFAULT_PBM_WIDTH_IN_BYTES = line.PBMYPos.toNat + i

/-! ### What the loop accesses -/

lemma accesses_drawVerticalLineOnPBMFrame (line : VerticalLine) (frame : Cells UInt8) :
    (drawVerticalLineOnPBMFrame line.PBMXPos line.PBMYPos line.size frame).accesses =
      frame.accesses ++ line.indexes := by
  rw [drawVerticalLineOnPBMFrame, VerticalLine.indexes]
  generalize List.range' 1 (line.size.toNat - 1) = is
  induction is generalizing frame with
  | nil => exact (List.append_nil _).symm
  | cons i is ih =>
    rw [List.foldl_cons, ih, List.map_cons]
    exact List.append_assoc _ _ _

/-- The vertical lines are all that is drawn without check after the padlock. -/
def Recorded (start : List ℕ) (s : Temperatures) : Prop :=
  s.frame.accesses = start ++ s.lines.flatMap VerticalLine.indexes

variable {start : List ℕ} {s : Temperatures} {fonts : FontsManager}

lemma Recorded.drawVerticalLine (h : Recorded start s) : Recorded start (drawVerticalLine s) := by
  have hline :=
    accesses_drawVerticalLineOnPBMFrame ⟨updatedPosX s.pos_x, TEMP_POS_Y - 2, 23⟩ s.frame
  rw [h] at hline
  rw [Recorded, Coretemp.drawVerticalLine, hline]
  simp only [List.flatMap_append, List.flatMap_singleton, List.append_assoc]

/-- Strings are written with checks. -/
lemma accesses_writeTemperature (fonts : FontsManager) (device : Dev) (PBMXPos PBMYPos : Int16)
    (frame : Cells UInt8) :
    (writeTemperature fonts device PBMXPos PBMYPos frame).accesses = frame.accesses := by
  rw [writeTemperature]

/-- Only the columns draw lines. -/
lemma drawDevice_spec (fonts : FontsManager) (s : Temperatures) (device : Dev) :
    (drawDevice fonts s device).frame.accesses = (nextColumn s).frame.accesses ∧
    (drawDevice fonts s device).lines = (nextColumn s).lines ∧
    (drawDevice fonts s device).pos_x = (nextColumn s).pos_x ∧
    (drawDevice fonts s device).x =
      if device.isPkg then (nextColumn s).x else (nextColumn s).x + 1 := by
  rw [drawDevice]
  split_ifs <;> exact ⟨accesses_writeTemperature _ _ _ _ _, rfl, rfl, rfl⟩

lemma Recorded.drawDevice (h : Recorded start s) (device : Dev) :
    Recorded start (drawDevice fonts s device) := by
  obtain ⟨haccesses, hlines, -⟩ := drawDevice_spec fonts s device
  rw [Recorded, haccesses, hlines, nextColumn]
  split_ifs
  · exact Recorded.drawVerticalLine h
  · exact h

lemma recorded_drawTemperatures (hwmon : List Dev) (frame : Cells UInt8) :
    Recorded frame.accesses (drawTemperatures fonts hwmon frame) := by
  have hloop : ∀ s, Recorded frame.accesses s →
      Recorded frame.accesses (hwmon.foldl (drawDevice fonts) s) := by
    induction hwmon with
    | nil => exact fun _ h => h
    | cons device hwmon ih => exact fun s h => ih _ (h.drawDevice device)
  exact (hloop { frame } (List.append_nil _).symm).drawVerticalLine

/-! ### The lines that are drawn -/

/-- How many sensors have a positive even number of cores before them, when some cores were
counted already. -/
def evenBefore : UInt16 → List Bool → ℕ
  | _, []              => 0
  | x, isPkg :: isPkgs =>
    (if x > 0 ∧ x % 2 = 0 then 1 else 0) + evenBefore (if isPkg then x else x + 1) isPkgs

/-- The line that is drawn after some other ones. -/
def lineAfter (n : ℕ) : VerticalLine where
  PBMXPos := .ofNat (36 + 32 * (n + 1))
  PBMYPos := TEMP_POS_Y - 2
  size := 23

/-- The lines that were drawn so far are the first ones. -/
structure Drawn (n : ℕ) (s : Temperatures) : Prop where
  lines : s.lines = (List.range n).map lineAfter
  pos_x : s.pos_x = .ofNat (36 + 32 * n)

lemma Drawn.drawVerticalLine {n : ℕ} (h : Drawn n s) : Drawn (n + 1) (drawVerticalLine s) := by
  have hpos : updatedPosX s.pos_x = .ofNat (36 + 32 * (n + 1)) := by
    rw [updatedPosX, h.pos_x, Nat.mul_succ, ← Nat.add_assoc]
    exact (UInt16.ofNat_add _ _).symm
  refine ⟨?_, hpos⟩
  rw [Coretemp.drawVerticalLine, h.lines, List.range_succ, List.map_append, hpos]
  rfl

lemma Drawn.nextColumn {n : ℕ} (h : Drawn n s) :
    Drawn (n + if s.x > 0 ∧ s.x % 2 = 0 then 1 else 0) (nextColumn s) ∧
      (nextColumn s).x = s.x := by
  have hrow : Drawn n { s with pos_y := TEMP_POS_Y } := ⟨h.lines, h.pos_x⟩
  rw [Coretemp.nextColumn]
  split_ifs
  · refine ⟨hrow.drawVerticalLine, ?_⟩
    rw [Coretemp.drawVerticalLine]
  · exact ⟨h, rfl⟩

lemma Drawn.foldl {n : ℕ} (hwmon : List Dev) (h : Drawn n s) :
    Drawn (n + evenBefore s.x (hwmon.map Dev.isPkg)) (hwmon.foldl (drawDevice fonts) s) := by
  induction hwmon generalizing n s with
  | nil => exact h
  | cons device hwmon ih =>
    obtain ⟨-, hlines, hpos, hx⟩ := drawDevice_spec fonts s device
    obtain ⟨hcolumn, hcount⟩ := h.nextColumn
    have hnext := @ih (drawDevice fonts s device) _
      ⟨hlines.trans hcolumn.lines, hpos.trans hcolumn.pos_x⟩
    rw [hx, hcount, Nat.add_assoc] at hnext
    exact hnext

lemma drawn_drawTemperatures (hwmon : List Dev) (frame : Cells UInt8) :
    Drawn (evenBefore 0 (hwmon.map Dev.isPkg) + 1) (drawTemperatures fonts hwmon frame) := by
  have hloop := @Drawn.foldl { frame } fonts 0 hwmon ⟨rfl, rfl⟩
  rw [Nat.zero_add] at hloop
  exact hloop.drawVerticalLine

/-- The first three lines are where they are meant to be. -/
lemma lineAfter_inside {n : ℕ} (hn : n < 3) : (lineAfter n).Inside := by
  have hpos : (lineAfter n).PBMXPos.toNat = 36 + 32 * (n + 1) :=
    UInt16.toNat_ofNat_of_lt' (show _ < 65536 by omega)
  have hindex : (drawingIndex (lineAfter n).PBMXPos (lineAfter n).PBMYPos).toNat =
      400 + (36 + 32 * (n + 1)) / 8 := by
    rw [drawingIndex, hpos]
    exact UInt16.toNat_ofNat_of_lt' (show 400 + _ < 65536 by omega)
  refine ⟨by rw [hpos, DEFAULT_PBM_WIDTH]; omega, fun i hi hsize => ?_⟩
  change i < 23 at hsize
  have hsize' : DEFAULT_PBM_DATA_IN_BYTES = 960 := rfl
  have hwidth : DEFAULT_PBM_WIDTH_IN_BYTES = 20 := rfl
  have hrow : (lineAfter n).PBMYPos.toNat = 20 := rfl
  rw [VerticalLine.index, hindex, hsize', hwidth, hrow]
  omega

lemma lineAfter_three : ¬ (lineAfter 3).Inside := fun h => absurd h.1 (by decide)

lemma lines_inside_iff (hwmon : List Dev) (frame : Cells UInt8) :
    (∀ line ∈ (drawTemperatures fonts hwmon frame).lines, line.Inside) ↔
      evenBefore 0 (hwmon.map Dev.isPkg) ≤ 2 := by
  rw [(drawn_drawTemperatures hwmon frame).lines]
  constructor
  · intro hall
    by_contra hmany
    exact lineAfter_three (hall _ (List.mem_map_of_mem (List.mem_range.mpr (by omega))))
  · intro hfew line hline
    obtain ⟨n, hn, rfl⟩ := List.mem_map.mp hline
    have hlt := List.mem_range.mp hn
    exact lineAfter_inside (by omega)

/-! ### Reading the sensors -/

/-- The label is neither one of a package nor one of a core. -/
def TooShort (sensor : String × String) : Prop :=
  isPackage sensor.2 = false ∧ sensor.2.toList.length < 5

instance (sensor : String × String) : Decidable (TooShort sensor) :=
  inferInstanceAs (Decidable (_ ∧ _))

lemma length_of_isPackage {label : String} (h : isPackage label = true) :
    11 ≤ label.toList.length := by
  have hlength := congrArg List.length (of_decide_eq_true h)
  rw [List.length_take] at hlength
  exact min_eq_left_iff.mp hlength

lemma readDevice_tooShort {sensor : String × String} (h : TooShort sensor) :
    readDevice sensor = .error .outOfRange := by
  simp only [readDevice, h.1, Bool.false_eq_true, if_false]
  rw [substr, if_neg (not_le.mpr h.2)]
  rfl

lemma readDevice_ok {sensor : String × String} (h : ¬ TooShort sensor) :
    ∃ device, readDevice sensor = .ok device ∧ device.isPkg = isPackage sensor.2 := by
  have hpos : (if isPackage sensor.2 = true then 11 else 5) ≤ sensor.2.toList.length := by
    split_ifs with hpkg
    · exact length_of_isPackage hpkg
    · exact not_lt.mp fun hlt => h ⟨Bool.eq_false_of_not_eq_true hpkg, hlt⟩
  simp only [readDevice, substr, if_pos hpos]
  exact ⟨_, rfl, rfl⟩

/-- One short label is enough for an exception. -/
lemma mapM_readDevice_error {sensors : List (String × String)}
    (h : ∃ sensor ∈ sensors, TooShort sensor) : ∃ e, sensors.mapM readDevice = .error e := by
  induction sensors with
  | nil =>
    obtain ⟨_, hmem, -⟩ := h
    cases hmem
  | cons sensor sensors ih =>
    rw [List.mapM_cons]
    by_cases hfirst : TooShort sensor
    · rw [readDevice_tooShort hfirst]
      exact ⟨_, rfl⟩
    · obtain ⟨device, hdevice, -⟩ := readDevice_ok hfirst
      obtain ⟨other, hmem, hother⟩ := h
      obtain ⟨e, he⟩ := ih ⟨other, (List.mem_cons.mp hmem).resolve_left
        fun heq => hfirst (heq ▸ hother), hother⟩
      rw [hdevice, he]
      exact ⟨e, rfl⟩

lemma mapM_readDevice_ok {sensors : List (String × String)}
    (h : ∀ sensor ∈ sensors, ¬ TooShort sensor) :
    ∃ hwmon, sensors.mapM readDevice = .ok hwmon ∧
      hwmon.map Dev.isPkg = sensors.map fun sensor => isPackage sensor.2 := by
  induction sensors with
  | nil => exact ⟨[], rfl, rfl⟩
  | cons sensor sensors ih =>
    obtain ⟨hfirst, hrest⟩ := List.forall_mem_cons.mp h
    obtain ⟨device, hdevice, hpkg⟩ := readDevice_ok hfirst
    obtain ⟨hwmon, hok, hpkgs⟩ := ih hrest
    refine ⟨device :: hwmon, ?_, ?_⟩
    · rw [List.mapM_cons, hdevice, hok]
      rfl
    · rw [List.map_cons, List.map_cons, hpkg, hpkgs]

section

variable (fonts : FontsManager) {sensors : List (String × String)} (lockedPlugin everLocked : Bool)
  (frame : Cells UInt8)

/-- The remembered lines are the ones that are drawn: nothing else but the padlock accesses the frame
without check. -/
lemma recorded_getNextPBMFrame :
    Recorded (drawPadlockOnPBMFrame lockedPlugin everLocked frame).1.accesses
      (getNextPBMFrame fonts sensors lockedPlugin everLocked frame).2 := by
  rw [getNextPBMFrame]
  rcases readDevices sensors with e | hwmon
  · exact (List.append_nil _).symm
  · exact recorded_drawTemperatures hwmon _

lemma inside_iff_of_long (hlong : ∀ sensor ∈ sensors, ¬ TooShort sensor) :
    (∀ line ∈ (getNextPBMFrame fonts sensors lockedPlugin everLocked frame).2.lines,
      line.Inside) ↔ evenBefore 0 (sensors.map fun sensor => isPackage sensor.2) ≤ 2 := by
  rcases List.eq_nil_or_concat sensors with rfl | ⟨_, _, hne⟩
  · exact iff_of_true (List.forall_mem_nil _) (Nat.zero_le 2)
  · have hsensors : ¬ sensors.isEmpty := by
      rw [hne, List.concat_eq_append]
      simp
    obtain ⟨hwmon, hok, hpkgs⟩ := mapM_readDevice_ok hlong
    rw [← hpkgs]
    simp only [getNextPBMFrame, readDevices, if_neg hsensors, hok]
    exact lines_inside_iff hwmon _

end

end Coretemp

open Coretemp

/-- All vertical lines are where they are meant to be exactly when a label is too short, so that
nothing is drawn, or when at most two sensors have a positive even number of cores before them. -/
theorem getNextPBMFrame_lines_inside_iff (fonts : FontsManager) (sensors : List (String × String))
    (lockedPlugin everLocked : Bool) (frame : Cells UInt8) :
    (∀ line ∈ (getNextPBMFrame fonts sensors lockedPlugin everLocked frame).2.lines, line.Inside) ↔
      (∃ sensor ∈ sensors, TooShort sensor) ∨
        evenBefore 0 (sensors.map fun sensor => isPackage sensor.2) ≤ 2 := by
  by_cases hshort : ∃ sensor ∈ sensors, TooShort sensor
  · obtain ⟨e, he⟩ := mapM_readDevice_error hshort
    have hsensors : ¬ sensors.isEmpty := by
      obtain ⟨_, hmem, -⟩ := hshort
      exact fun hempty => List.ne_nil_of_mem hmem (List.isEmpty_iff.mp hempty)
    refine iff_of_true ?_ (.inl hshort)
    simp only [getNextPBMFrame, readDevices, if_neg hsensors, he]
    exact List.forall_mem_nil _
  · rw [or_iff_right hshort]
    exact inside_iff_of_long fonts lockedPlugin everLocked frame fun sensor hmem hsensor =>
      hshort ⟨sensor, hmem, hsensor⟩

/-- A package and seven cores. -/
def sevenCores : List (String × String) :=
  [("45000", "Package id 0"), ("41000", "Core 0"), ("42000", "Core 1"), ("45000", "Core 2"),
    ("40000", "Core 3"), ("41000", "Core 4"), ("43000", "Core 5"), ("44000", "Core 6")]

/-- The fourth line is outside of the screen. -/
theorem not_lines_inside_seven : ¬ ∀ (fonts : FontsManager) (sensors : List (String × String))
    (lockedPlugin everLocked : Bool) (frame : Cells UInt8),
    ∀ line ∈ (getNextPBMFrame fonts sensors lockedPlugin everLocked frame).2.lines,
      line.Inside := by
  intro hall
  have hlines := hall ⟨fun _ => .error ""⟩ sevenCores false false { data := [] }
  rw [inside_iff_of_long _ _ _ _ (by decide)] at hlines
  exact absurd hlines (by decide)

end GLogiK
