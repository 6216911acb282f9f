import GLogiK.LCD.LCDPlugin

/-!
# The place of the progress bar

Only the last byte of the first line is checked before the bar is drawn, and the last line ends 120
bytes further on.
-/

namespace GLogiK

namespace LCDPlugin

variable {frame : Cells UInt8} {percent index : UInt16} {lo hi i : ℕ}

/-! ### Where the lines are -/

lemma within_orAt (bits : ℕ) (hlo : lo ≤ i) (hhi : i < hi) :
    Cells.Within lo hi frame (orAt frame i bits) :=
  Cells.within_modify _ hlo hhi

/-- The first twelve bytes of a line. -/
lemma within_line (f : ℕ → UInt8) (frame : Cells UInt8) (hlo : lo ≤ i) (hhi : i + 12 < hi) :
    Cells.Within lo hi frame
      ((List.range 12).foldl (fun frame k => frame.set (i + k) (f k)) frame) := by
  refine Cells.within_foldl _ (fun c k hk => ?_) frame
  have hlt := List.mem_range.mp hk
  exact Cells.within_set _ (by omega) (by omega)

lemma within_drawHorizontalLine (frame : Cells UInt8) (hlo : lo ≤ index.toNat)
    (hhi : index.toNat + 12 < hi) :
    Cells.Within lo hi frame (drawHorizontalLine frame index) :=
  (within_orAt _ (Nat.le_add_right_of_le hlo) hhi).trans (within_line _ _ hlo hhi)

lemma within_drawProgressBarLine (frame : Cells UInt8) (line : ℕ) (hlo : lo ≤ index.toNat)
    (hhi : index.toNat + 12 < hi) :
    Cells.Within lo hi frame (drawProgressBarLine percent frame index line) := by
  have hlast : lo ≤ index.toNat + 12 := Nat.le_add_right_of_le hlo
  have hpattern := within_line (progressByte percent line) frame hlo hhi
  refine ((hpattern.trans (Cells.within_set _ hlast hhi)).trans (within_orAt _ hlo ?_)).trans
    (within_orAt _ hlast hhi)
  exact Nat.lt_of_le_of_lt (Nat.le_add_right _ _) hhi

lemma lineIndex_toNat (h : index.toNat + 120 < 65536) (hi : i ≤ 6) :
    (lineIndex index i).toNat = index.toNat + 20 * i :=
  UInt16.toNat_ofNat_of_lt' (show index.toNat + 20 * i < 65536 by omega)

/-- The whole bar. -/
lemma within_drawProgressBar (frame : Cells UInt8) (h : index.toNat + 120 < 65536) :
    Cells.Within index.toNat (index.toNat + 133) frame (drawProgressBar percent index frame) := by
  have htop := within_drawHorizontalLine frame (le_refl index.toNat)
    (show index.toNat + 12 < index.toNat + 133 by omega)
  have hlines : ∀ c, ∀ i ∈ List.range' 1 5, Cells.Within index.toNat (index.toNat + 133) c
      (drawProgressBarLine percent c (lineIndex index i) i) := by
    intro c i hi
    have hi := List.mem_range'_1.mp hi
    have hline := lineIndex_toNat h (show i ≤ 6 by omega)
    exact within_drawProgressBarLine c i (by omega) (by omega)
  have hbottom : (lineIndex index (PROGRESS_BAR_HEIGHT - 1)).toNat = index.toNat + 120 :=
    lineIndex_toNat h (le_refl 6)
  exact htop.trans ((Cells.within_foldl _ hlines _).trans
    (within_drawHorizontalLine _ (by omega) (by omega)))

/-- The last byte of a line is accessed first. -/
lemma mem_accesses_drawHorizontalLine (frame : Cells UInt8) (index : UInt16) :
    index.toNat + 12 ∈ (drawHorizontalLine frame index).accesses := by
  obtain ⟨is, his, -⟩ := (within_line (fun _ => 0b11111111)
    (orAt frame (index.toNat + 12) 0b11111100) (le_refl index.toNat) (Nat.lt_succ_self _)).accesses
  have hmem : index.toNat + 12 ∈ (orAt frame (index.toNat + 12) 0b11111100).accesses :=
    List.mem_append_right _ List.mem_cons_self
  rw [drawHorizontalLine, his]
  exact List.mem_append_left _ hmem

/-- A drawn bar has accessed the last byte of its last line. -/
lemma mem_accesses_drawProgressBar (frame : Cells UInt8) (h : index.toNat + 120 < 65536) :
    index.toNat + 132 ∈ (drawProgressBar percent index frame).accesses := by
  have hbottom := lineIndex_toNat h (le_refl 6)
  have hmem := mem_accesses_drawHorizontalLine ((List.range' 1 5).foldl
    (fun frame i => drawProgressBarLine percent frame (lineIndex index i) i)
    (drawHorizontalLine frame index)) (lineIndex index 6)
  rw [hbottom] at hmem
  exact hmem

/-- The check of the position. -/
lemma wrong_position_iff {PBMXPos : UInt16} :
    PBMXPos.toNat + PROGRESS_BAR_WIDTH > LCD_SCREEN_WIDTH - 1 ↔ 57 < PBMXPos.toNat := by
  rw [PROGRESS_BAR_WIDTH, LCD_SCREEN_WIDTH]
  omega

/-- A bar whose first line is in the frame. -/
lemma drawProgressBarOnPBMFrame_of_lt {PBMXPos PBMYPos : UInt16} (hX : PBMXPos.toNat ≤ 57)
    (hindex : (drawingIndex PBMXPos PBMYPos).toNat + 12 < frame.data.length) :
    drawProgressBarOnPBMFrame percent PBMXPos PBMYPos frame =
      (drawProgressBar percent (drawingIndex PBMXPos PBMYPos) frame, none) := by
  rw [drawProgressBarOnPBMFrame, if_neg (mt wrong_position_iff.mp (not_lt.mpr hX))]
  exact if_pos hindex

end LCDPlugin

open LCDPlugin

/-- Nothing is drawn, or only in the frame. -/
def DrawnInside (frame frame' : Cells UInt8) : Prop :=
  frame' = frame ∨ ∀ i ∈ frame'.accesses, i < DEFAULT_PBM_DATA_IN_BYTES

lemma drawProgressBar_inside_iff (percent : UInt16) {index : UInt16} (data : PixelsData)
    (hindex : index.toNat + 12 < DEFAULT_PBM_DATA_IN_BYTES) :
    DrawnInside { data } (drawProgressBar percent index { data }) ↔ index.toNat < 828 := by
  have hsize : DEFAULT_PBM_DATA_IN_BYTES = 960 := rfl
  have hbound : index.toNat + 120 < 65536 := by omega
  have hlast := @mem_accesses_drawProgressBar percent index { data } hbound
  constructor
  · rintro (hsame | hinside)
    · rw [hsame] at hlast
      cases hlast
    · have hlt := hinside _ hlast
      omega
  · intro hplace
    obtain ⟨is, his, hall⟩ := (@within_drawProgressBar percent index { data } hbound).accesses
    refine .inr fun i hi => ?_
    rw [his, List.nil_append] at hi
    have hbounds := hall i hi
    omega

/-- The progress bar is drawn inside the frame exactly when its first byte is not one of those that
are checked successfully although the last line ends after the frame. -/
theorem drawProgressBarOnPBMFrame_inside_iff (percent PBMXPos PBMYPos : UInt16) (data : PixelsData)
    (hdata : data.length = DEFAULT_PBM_DATA_IN_BYTES) :
    DrawnInside { data } (drawProgressBarOnPBMFrame percent PBMXPos PBMYPos { data }).1 ↔
      57 < PBMXPos.toNat ∨ (drawingIndex PBMXPos PBMYPos).toNat < 828 ∨
        948 ≤ (drawingIndex PBMXPos PBMYPos).toNat := by
  have hsize : DEFAULT_PBM_DATA_IN_BYTES = 960 := rfl
  by_cases hX : 57 < PBMXPos.toNat
  · rw [drawProgressBarOnPBMFrame, if_pos (wrong_position_iff.mpr hX)]
    exact iff_of_true (.inl rfl) (.inl hX)
  by_cases hindex : (drawingIndex PBMXPos PBMYPos).toNat + 12 < data.length
  · rw [drawProgressBarOnPBMFrame_of_lt (not_lt.mp hX) hindex,
      drawProgressBar_inside_iff percent data (hindex.trans_eq hdata)]
    omega
  · have hright := mt wrong_position_iff.mp hX
    simp only [drawProgressBarOnPBMFrame, if_neg hright, if_neg hindex]
    exact iff_of_true (.inl rfl) (.inr (.inr (by omega)))

/-- A bar in the upper left corner. -/
theorem drawProgressBarOnPBMFrame_corner : DrawnInside { data := List.replicate 960 0 }
    (drawProgressBarOnPBMFrame 50 0 0 { data := List.replicate 960 0 }).1 :=
  (drawProgressBarOnPBMFrame_inside_iff 50 0 0 (List.replicate 960 0)
    List.length_replicate).mpr (.inr (.inl (by decide)))

/-- In the last row only the first line of the bar is in the frame. -/
theorem not_drawnInside_47 : ¬ ∀ (percent PBMXPos PBMYPos : UInt16) (data : PixelsData),
    data.length = DEFAULT_PBM_DATA_IN_BYTES →
    DrawnInside { data } (drawProgressBarOnPBMFrame percent PBMXPos PBMYPos { data }).1 := by
  intro hall
  have hinside := hall 50 0 47 (List.replicate 960 0) List.length_replicate
  rw [drawProgressBarOnPBMFrame_of_lt (by decide) (by rw [List.length_replicate]; decide),
    drawProgressBar_inside_iff _ _ (by decide)] at hinside
  exact absurd hinside (by decide)

end GLogiK
