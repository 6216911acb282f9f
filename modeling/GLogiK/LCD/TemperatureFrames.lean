import GLogiK.LCD.Coretemp
import GLogiK.LCD.NarrowText
import GLogiK.LCD.PaintedDrawings

/-!
# The frames of the temperatures

All is drawn over what the last call has left, and no text is padded. So nothing is left of former
temperatures as long as no text of theirs was longer than the one that is written at its place.
-/

namespace GLogiK

open Bitmap PBMFont LCDPlugin

namespace Coretemp

variable {fonts : FontsManager} {PBMData : PixelsData} {s : Temperatures} {device : Dev}
  {hwmon former : List Dev}

/-! ### Places -/

/-- What the loop changes besides the frame. -/
structure Place where
  pos_x : UInt16 := TEMP_POS_X
  pos_y : UInt16 := TEMP_POS_Y
  x : UInt16 := 0

/-- The core is the first one of another column. -/
def Place.Full (place : Place) : Prop := place.x > 0 ∧ place.x % 2 = 0

instance (place : Place) : Decidable place.Full :=
  inferInstanceAs (Decidable (_ ∧ _))

/-- The place where a temperature is written. -/
def Place.column (place : Place) : Place :=
  if place.Full then { place with pos_x := updatedPosX place.pos_x, pos_y := TEMP_POS_Y } else place

/-- The place after a device. -/
def Place.next (place : Place) (isPkg : Bool) : Place :=
  if isPkg then place.column
  else { place.column with pos_y := place.column.pos_y + 9, x := place.column.x + 1 }

def Temperatures.place (s : Temperatures) : Place where
  pos_x := s.pos_x
  pos_y := s.pos_y
  x := s.x

lemma place_nextColumn (s : Temperatures) : (nextColumn s).place = s.place.column := by
  have hfull : s.place.Full ↔ s.x > 0 ∧ s.x % 2 = 0 := Iff.rfl
  rw [nextColumn, Place.column]
  by_cases h : s.x > 0 ∧ s.x % 2 = 0
  · rw [if_pos h, if_pos (hfull.mpr h)]
    rfl
  · rw [if_neg h, if_neg (mt hfull.mp h)]

lemma place_drawDevice (fonts : FontsManager) (s : Temperatures) (device : Dev) :
    (drawDevice fonts s device).place = s.place.next device.isPkg := by
  rw [Place.next, ← place_nextColumn, drawDevice]
  split_ifs <;> simp only [Temperatures.place]

/-! ### Regions -/

/-- One bit in each row but the first one. -/
def lineMaskRegion (PBMXPos PBMYPos size : UInt16) : Set ℕ :=
  ⋃ i ∈ List.range' 1 (size.toNat - 1),
    maskRegion ((drawingIndex PBMXPos PBMYPos).toNat + DEFAULT_PBM_WIDTH_IN_BYTES * i) 0b00100000

def verticalLineRegion (pos_x : UInt16) : Set ℕ := lineMaskRegion pos_x (TEMP_POS_Y - 2) 23

/-- The line on the left of another column. -/
def columnRegion (place : Place) : Set ℕ :=
  if place.Full then verticalLineRegion place.column.pos_x else ∅

/-- The packages are written above each other on the left. -/
def temperatureRegion (font : PBMFont) (place : Place) (device : Dev) : Set ℕ :=
  if device.isPkg then font.textRegion 22 1 (temperature device).toList
  else font.textRegion (printedYPos font place.pos_y.toInt16).toNat
    (printedXPos font (temperature device) place.pos_x.toInt16).toNat (temperature device).toList

/-- All that is drawn from a place on. -/
def temperaturesRegion (font : PBMFont) : Place → List Dev → Set ℕ
  | place, []              => verticalLineRegion (updatedPosX place.pos_x)
  | place, device :: hwmon =>
    columnRegion place ∪ temperatureRegion font place.column device ∪
      temperaturesRegion font (place.next device.isPkg) hwmon

/-! ### What is drawn -/

lemma paintsCells_lineMask (PBMXPos PBMYPos size : UInt16) :
    PaintsCells (lineMaskRegion PBMXPos PBMYPos size)
      (drawVerticalLineOnPBMFrame PBMXPos PBMYPos size) := by
  have hrows := Paints.foldl (List.range' 1 (size.toNat - 1)) fun i _ => paintsCells_orAt
    ((drawingIndex PBMXPos PBMYPos).toNat + DEFAULT_PBM_WIDTH_IN_BYTES * i) 0b00100000
  exact hrows.congr fun frame _ => by rw [drawVerticalLineOnPBMFrame]

lemma paintsCells_drawVerticalLine (pos_x : UInt16) :
    PaintsCells (verticalLineRegion pos_x)
      (drawVerticalLineOnPBMFrame pos_x (TEMP_POS_Y - 2) 23) :=
  paintsCells_lineMask pos_x (TEMP_POS_Y - 2) 23

lemma paintsCells_nextColumn (s : Temperatures) :
    PaintsCells (columnRegion s.place) (fun frame => (nextColumn { s with frame }).frame) := by
  have hfull : s.place.Full ↔ s.x > 0 ∧ s.x % 2 = 0 := Iff.rfl
  by_cases h : s.x > 0 ∧ s.x % 2 = 0
  · rw [columnRegion, if_pos (hfull.mpr h), Place.column, if_pos (hfull.mpr h)]
    refine (paintsCells_drawVerticalLine (updatedPosX s.pos_x)).congr fun frame _ => ?_
    rw [nextColumn, if_pos h]
    rfl
  · rw [columnRegion, if_neg (mt hfull.mp h)]
    refine Paints.nothing.congr fun frame _ => ?_
    rw [nextColumn, if_neg h]

section

variable (hfont : fonts.readPBM .MONOSPACE85 = .ok PBMData)
  (hdata : PBMData.length = (FontMonospace85 PBMData).bitmapBytes)
include hfont

lemma data_writeTemperature (device : Dev) (PBMXPos PBMYPos : Int16) (frame : Cells UInt8) :
    (writeTemperature fonts device PBMXPos PBMYPos frame).data =
      (FontMonospace85 PBMData).printText (printedYPos (FontMonospace85 PBMData) PBMYPos)
        (printedXPos (FontMonospace85 PBMData) (temperature device) PBMXPos)
        (temperature device).toList frame.data :=
  writeStringOnPBMFrame_eq_printText hfont (temperature device) PBMXPos PBMYPos frame.data

include hdata

lemma paintsCells_writeTemperature (device : Dev) (PBMXPos PBMYPos : Int16) :
    PaintsCells ((FontMonospace85 PBMData).textRegion
        (printedYPos (FontMonospace85 PBMData) PBMYPos).toNat
        (printedXPos (FontMonospace85 PBMData) (temperature device) PBMXPos).toNat
        (temperature device).toList)
      (writeTemperature fonts device PBMXPos PBMYPos) := by
  have htext := @paintsFrame_text .MONOSPACE85 PBMData hdata
    (printedYPos (FontMonospace85 PBMData) PBMYPos)
    (printedXPos (FontMonospace85 PBMData) (temperature device) PBMXPos)
    (temperature device).toList
  exact paintsCells_of_frame htext (data_writeTemperature hfont device PBMXPos PBMYPos)

lemma paintsCells_drawDevice (s : Temperatures) (device : Dev) :
    PaintsCells (columnRegion s.place ∪
        temperatureRegion (FontMonospace85 PBMData) s.place.column device)
      (fun frame => (drawDevice fonts { s with frame } device).frame) := by
  have hcolumn := paintsCells_nextColumn s
  have hplace : ∀ frame, (nextColumn { s with frame }).place = s.place.column :=
    fun frame => place_nextColumn { s with frame }
  by_cases hpkg : device.isPkg
  · rw [temperatureRegion, if_pos hpkg]
    refine (hcolumn.comp (paintsCells_writeTemperature hfont hdata device 1 22)).congr
      fun frame _ => ?_
    rw [drawDevice, if_pos hpkg]
  · rw [temperatureRegion, if_neg hpkg]
    refine (hcolumn.comp (paintsCells_writeTemperature hfont hdata device
      s.place.column.pos_x.toInt16 s.place.column.pos_y.toInt16)).congr fun frame _ => ?_
    rw [drawDevice, if_neg hpkg, ← hplace frame]
    rfl

omit hfont hdata in
/-- The places do not depend on the frame. -/
lemma drawDevice_frame (s : Temperatures) (device : Dev) (frame : Cells UInt8) :
    drawDevice fonts { s with frame } device =
      { drawDevice fonts s device with
        frame := (drawDevice fonts { s with frame } device).frame } := by
  rw [drawDevice, drawDevice, nextColumn, nextColumn]
  split_ifs <;> rfl

/-- All devices paint their regions, and the last line is drawn after them. -/
lemma paintsCells_drawDevices (s : Temperatures) (hwmon : List Dev) :
    PaintsCells (temperaturesRegion (FontMonospace85 PBMData) s.place hwmon)
      (fun frame =>
        (drawVerticalLine (hwmon.foldl (drawDevice fonts) { s with frame })).frame) := by
  induction hwmon generalizing s with
  | nil => exact (paintsCells_drawVerticalLine (updatedPosX s.pos_x)).congr fun _ _ => rfl
  | cons device hwmon ih =>
    have hrest := ih (drawDevice fonts s device)
    rw [place_drawDevice] at hrest
    refine ((paintsCells_drawDevice hfont hdata s device).comp hrest).congr fun frame _ => ?_
    rw [List.foldl_cons, drawDevice_frame]

end

/-! ### Shorter texts -/

/-- After some more devices the position is still not negative, so that no text is centred. -/
def Place.Short (place : Place) (n : ℕ) : Prop := place.pos_x.toNat + 32 * n < 32768

lemma Place.Short.column {place : Place} {n : ℕ} (h : place.Short (n + 1)) :
    place.column.Short n := by
  rw [Place.Short] at h ⊢
  rw [Place.column]
  split_ifs
  · have hnext : (updatedPosX place.pos_x).toNat = place.pos_x.toNat + 32 := by
      have hsum : (5 * 6 + 2 : UInt16).toNat = 32 := rfl
      rw [updatedPosX, UInt16.toNat_add, hsum]
      omega
    rw [hnext]
    omega
  · omega

lemma Place.Short.next {place : Place} {n : ℕ} (h : place.Short (n + 1)) (isPkg : Bool) :
    (place.next isPkg).Short n := by
  rw [Place.next]
  split_ifs <;> exact h.column

/-- A call of `getNextPBMFrame`, with the sensors it can read. -/
structure TemperatureCall where
  sensors : List (String × String)
  lockedPlugin : Bool

/-- What the plugin keeps between the calls. -/
structure Shown where
  frame : Cells UInt8
  everLocked : Bool := false

/-- What is shown after a call. -/
def shownFrame (fonts : FontsManager) (s : Shown) (call : TemperatureCall) : Shown :=
  let shown := (getNextPBMFrame fonts call.sensors call.lockedPlugin s.everLocked s.frame).2
  { frame := shown.frame, everLocked := shown.everLocked }

/-- A call leaves the flag of the padlock, also when it fails. -/
lemma everLocked_shownFrame (fonts : FontsManager) (s : Shown) (call : TemperatureCall) :
    (shownFrame fonts s call).everLocked = (s.everLocked || call.lockedPlugin) := by
  rw [shownFrame, getNextPBMFrame]
  cases readDevices call.sensors <;> rfl

lemma shownFrame_eq (fonts : FontsManager) (s : Shown) (call : TemperatureCall) :
    shownFrame fonts s call =
      { frame := (shownFrame fonts s call).frame
        everLocked := s.everLocked || call.lockedPlugin } := by
  rw [← everLocked_shownFrame fonts]

/-- After an exception there is only the padlock. -/
def callRegion (font : PBMFont) (call : TemperatureCall) : Set ℕ :=
  match readDevices call.sensors with
  | .error _  => padlockRegion
  | .ok hwmon => padlockRegion ∪ temperaturesRegion font {} hwmon

section

variable (hfont : fonts.readPBM .MONOSPACE85 = .ok PBMData)
  (hdata : PBMData.length = (FontMonospace85 PBMData).bitmapBytes)
include hfont hdata

lemma paintsCells_shownFrame (call : TemperatureCall) (everLocked : Bool) :
    PaintsCells (callRegion (FontMonospace85 PBMData) call)
      (fun frame => (shownFrame fonts { frame, everLocked } call).frame) := by
  have hpadlock := paintsCells_drawPadlockOnPBMFrame call.lockedPlugin everLocked
  rw [callRegion]
  split
  · rename_i hread
    exact hpadlock.congr fun frame _ => by rw [shownFrame, getNextPBMFrame, hread]
  · rename_i hwmon hread
    have hdevices := paintsCells_drawDevices hfont hdata { frame := ⟨[], []⟩ } hwmon
    refine (hpadlock.comp hdevices).congr fun frame _ => ?_
    rw [shownFrame, getNextPBMFrame, hread]
    rfl

end

end Coretemp

open Coretemp

/-- One core, and the plugin is not locked. -/
def oneCore (input : String) : TemperatureCall where
  sensors := [(input, "Core 0")]
  lockedPlugin := false

/-- What is read for the core. -/
def coreDevice (input : String) : Dev where
  input
  label := "Core 0"
  id := "0"
  isPkg := false

lemma readDevices_oneCore (input : String) :
    readDevices (oneCore input).sensors = .ok [coreDevice input] := by
  have hpkg : isPackage "Core 0" = false := by decide
  have hid : substr "Core 0" 5 = .ok "0" := by decide
  have hdevice : readDevice (input, "Core 0") = .ok (coreDevice input) := by
    simp only [readDevice, hpkg, Bool.false_eq_true, if_false, hid]
    rfl
  have hsensors : ¬ (oneCore input).sensors.isEmpty := by
    rw [oneCore]
    simp
  rw [readDevices, if_neg hsensors, oneCore, List.mapM_cons, hdevice]
  rfl

namespace Coretemp

variable {fonts : FontsManager} {PBMData : PixelsData}

/-- A font whose characters are full. -/
def fullFonts : FontsManager := ⟨fun _ => .ok (List.replicate 960 255)⟩

def emptyFrame : Cells UInt8 := { data := List.replicate 960 0 }

/-- A pixel of the sixth character. -/
def lastPixel : ℕ := 160 * 22 + 64

lemma lastPixel_notMem_verticalLineRegion : lastPixel ∉ verticalLineRegion 68 := by
  intro hp
  obtain ⟨i, -, hmask⟩ := Set.mem_iUnion₂.mp hp
  exact absurd hmask.2 (by decide)

lemma lastPixel_notMem_padlockRegion : lastPixel ∉ padlockRegion := by
  intro hp
  exact absurd (padlockRegion_bounds hp).2 (by decide)

lemma callRegion_oneCore (input : String) :
    callRegion (FontMonospace85 PBMData) (oneCore input) =
      padlockRegion ∪ (∅ ∪ (FontMonospace85 PBMData).textRegion 22 36
        (temperature (coreDevice input)).toList ∪ verticalLineRegion 68) := by
  have hfull : ¬ ({} : Place).Full := by decide
  have hcolumn : ({} : Place).column = {} := if_neg hfull
  have hX : (printedXPos (FontMonospace85 PBMData) (temperature (coreDevice input))
      ({} : Place).pos_x.toInt16).toNat = 36 := by
    rw [printedXPos, if_neg (by decide)]
    rfl
  have hY : (printedYPos (FontMonospace85 PBMData) ({} : Place).pos_y.toInt16).toNat = 22 := by
    rw [printedYPos, if_neg (by decide)]
    rfl
  have hnext : updatedPosX (({} : Place).next false).pos_x = 68 := by decide
  have hcore : (coreDevice input).isPkg = false := rfl
  rw [callRegion, readDevices_oneCore]
  dsimp only
  rw [temperaturesRegion, temperaturesRegion, columnRegion, if_neg hfull, hcolumn,
    temperatureRegion, hcore, if_neg Bool.false_ne_true, hX, hY, hnext]

lemma lastPixel_notMem_ninetyNine :
    lastPixel ∉ callRegion (FontMonospace85 PBMData) (oneCore "99000") := by
  have hlength : (temperature (coreDevice "99000")).toList.length = 5 := by decide
  rw [callRegion_oneCore]
  rintro (hpadlock | (hcolumn | htext) | hline)
  · exact lastPixel_notMem_padlockRegion hpadlock
  · exact hcolumn
  · have hend := textRegion_monospace85_le htext
    rw [hlength] at hend
    exact absurd hend (by decide)
  · exact lastPixel_notMem_verticalLineRegion hline

lemma shownFrame_oneCore (fonts : FontsManager) (frame : Cells UInt8) (input : String) :
    (shownFrame fonts { frame } (oneCore input)).frame =
      drawVerticalLineOnPBMFrame 68 (TEMP_POS_Y - 2) 23
        (writeTemperature fonts (coreDevice input) 36 22
          (drawPadlockOnPBMFrame false false frame).1) := by
  have hcore : (coreDevice input).isPkg = false := rfl
  have hfull : ¬ ((0 : UInt16) > 0 ∧ (0 : UInt16) % 2 = 0) := by decide
  rw [shownFrame, getNextPBMFrame, readDevices_oneCore]
  dsimp only
  rw [drawTemperatures, List.foldl_cons, List.foldl_nil, drawDevice, nextColumn, if_neg hfull,
    hcore, if_neg Bool.false_ne_true]
  rfl

section

variable {cs : List Char} (hdata : PBMData.length = (FontMonospace85 PBMData).bitmapBytes)
  (hknown : AllKnown cs) (hlength : cs.length = 5)
include hdata hknown hlength

/-- The degree symbol is the sixth character of a temperature with three digits. -/
lemma bitAt_printText_lastPixel {frame : PixelsData}
    (hframe : frame.length = DEFAULT_PBM_DATA_IN_BYTES) :
    bitAt ((FontMonospace85 PBMData).printText 22 36 (cs ++ [deg]) frame) lastPixel =
      (FontMonospace85 PBMData).charPixel 19 2 0 3 := by
  have hall : (FontMonospace85 PBMData).printedChars 22 36 cs = cs :=
    printedChars_monospace85 hknown (by omega) (by decide)
  have hXPos : (61 : UInt16).toNat = 36 + (FontMonospace85 PBMData).totalAdvance cs := by
    rw [totalAdvance_monospace85, hlength]
    rfl
  have hsplit := @printText_append frame .MONOSPACE85 PBMData 36 22 cs hdata hall hframe 61 hXPos
    [deg]
  have hfirst := (@paintsFrame_text .MONOSPACE85 PBMData hdata 22 36 cs).keeps frame hframe
  have hchar : defaultCharsMap.lookup deg = some (19, 2) := by decide
  have hdeg := @charPainted_printText _ .MONOSPACE85 PBMData 19 2 61 22 deg hdata
    (accepted_monospace85 (by decide) (by decide) (by decide)) hchar hfirst
  have hlo : 22 ≤ lastPixel / 160 ∧ lastPixel / 160 < 22 + 10 := by decide
  have hx : 61 ≤ lastPixel % 160 ∧ lastPixel % 160 / 8 ≤ (61 + 5 - 1) / 8 := by decide
  exact (congrArg (fun data => bitAt data lastPixel) hsplit).trans
    (hdeg.inside lastPixel ⟨hlo.1, hlo.2, hx.1, hx.2⟩)

lemma bitAt_shownFrame_lastPixel (hfont : fonts.readPBM .MONOSPACE85 = .ok PBMData)
    {frame : Cells UInt8} (hframe : frame.data.length = DEFAULT_PBM_DATA_IN_BYTES) {input : String}
    (htext : (temperature (coreDevice input)).toList = cs ++ [deg]) :
    bitAt (shownFrame fonts { frame } (oneCore input)).frame.data lastPixel =
      (FontMonospace85 PBMData).charPixel 19 2 0 3 := by
  have hpadlock := (paintsCells_drawPadlockOnPBMFrame false false).keeps frame hframe
  have hlength' := (paintsCells_writeTemperature hfont hdata (coreDevice input) 36 22).keeps _
    hpadlock
  have hline := (paintsCells_drawVerticalLine 68).outside _ hlength' lastPixel
    lastPixel_notMem_verticalLineRegion
  have hwritten := data_writeTemperature hfont (coreDevice input) 36 22
    (drawPadlockOnPBMFrame false false frame).1
  have hX : printedXPos (FontMonospace85 PBMData) (temperature (coreDevice input)) 36 = 36 :=
    if_neg (by decide)
  have hY : printedYPos (FontMonospace85 PBMData) 22 = 22 := if_neg (by decide)
  rw [hX, hY, htext] at hwritten
  rw [shownFrame_oneCore, hline, hwritten]
  exact bitAt_printText_lastPixel hdata hknown hlength hpadlock

end

end Coretemp

/-- A temperature of 99 degrees does not cover the last character of one of 100 degrees. -/
theorem not_shownFrame_run_ninetyNine :
    (shownFrame fullFonts (shownFrame fullFonts { frame := emptyFrame } (oneCore "100000"))
        (oneCore "99000")).frame.data ≠
      (shownFrame fullFonts { frame := emptyFrame } (oneCore "99000")).frame.data := by
  intro hsame
  have hdata : (List.replicate 960 (255 : UInt8)).length =
    (FontMonospace85 (List.replicate 960 255)).bitmapBytes := List.length_replicate
  have hempty : emptyFrame.data.length = DEFAULT_PBM_DATA_IN_BYTES := List.length_replicate
  have hpaints := fun call => @paintsCells_shownFrame fullFonts _ rfl hdata call false
  have hleft := (hpaints (oneCore "99000")).outside _ ((hpaints (oneCore "100000")).keeps _ hempty)
    lastPixel lastPixel_notMem_ninetyNine
  have hnew := (hpaints (oneCore "99000")).outside _ hempty lastPixel lastPixel_notMem_ninetyNine
  have htext : (temperature (coreDevice "100000")).toList = ['0', ':', '1', '0', '0'] ++ [deg] := by
    decide
  have hdeg := @bitAt_shownFrame_lastPixel fullFonts _ _ hdata (by decide) rfl rfl _ hempty _ htext
  have hunlocked : shownFrame fullFonts { frame := emptyFrame } (oneCore "100000") =
      { frame := (shownFrame fullFonts { frame := emptyFrame } (oneCore "100000")).frame } :=
    shownFrame_eq _ _ _
  rw [hunlocked] at hsame
  rw [hsame, hnew, hdeg] at hleft
  exact absurd hleft (by decide)

end GLogiK
