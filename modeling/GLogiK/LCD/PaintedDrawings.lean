import GLogiK.LCD.PaintedText
import GLogiK.LCD.ProgressBar

/-!
# Painted drawings

The progress bar and the padlock paint the same region each time, whatever the percentage and the
state of the lock are.
-/

namespace GLogiK

open Bitmap PBMFont

namespace LCDPlugin

/-- A drawing that paints a region. -/
abbrev PaintsCells (region : Set ℕ) (step : Cells UInt8 → Cells UInt8) : Prop :=
  Paints (fun frame => bitAt frame.data)
    (fun frame => frame.data.length = DEFAULT_PBM_DATA_IN_BYTES) region step

/-- The bits of a byte. -/
def byteRegion (i : ℕ) : Set ℕ := {p | p / 8 = i}

/-- The bits of a byte that are set by a mask. -/
def maskRegion (i bits : ℕ) : Set ℕ := {p | p / 8 = i ∧ bits.testBit (7 - p % 8)}

/-- A line of the bar that has no pixels of the skeleton in it. -/
def lineRegion (i : ℕ) : Set ℕ := {p | i ≤ p / 8 ∧ p / 8 < i + 13}

/-- The upper and the lower line end within their last byte. -/
def horizontalLineRegion (i : ℕ) : Set ℕ :=
  maskRegion (i + 12) 0b11111100 ∪ ⋃ k ∈ List.range 12, byteRegion (i + k)

def progressBarRegion (index : UInt16) : Set ℕ :=
  horizontalLineRegion index.toNat ∪
    (⋃ i ∈ List.range' 1 (PROGRESS_BAR_HEIGHT - 2), lineRegion (lineIndex index i).toNat) ∪
    horizontalLineRegion (lineIndex index (PROGRESS_BAR_HEIGHT - 1)).toNat

def padlockRegion : Set ℕ :=
  ⋃ i ∈ List.range 6, byteRegion ((drawingIndex 1 1).toNat + DEFAULT_PBM_WIDTH_IN_BYTES * i)

variable {i bits p : ℕ} {frame : Cells UInt8}

/-! ### Bytes -/

lemma bitAt_cells_modify (f : UInt8 → UInt8) (frame : Cells UInt8) (p : ℕ) :
    bitAt (frame.modify i f).data p =
      if p / 8 = i then
        decide (i < frame.data.length) && (f (frame.data.getD i 0)).toNat.testBit (7 - p % 8)
      else bitAt frame.data p := by
  by_cases hi : i < frame.data.length
  · rw [decide_eq_true hi, Bool.true_and]
    exact bitAt_modify f hi
  · have hsame : frame.data.modify i f = frame.data := List.modify_eq_self (not_lt.mp hi)
    rw [Cells.modify, hsame, decide_eq_false hi, Bool.false_and]
    split_ifs with hp
    · rw [bitAt, hp, List.getD_eq_default _ _ (not_lt.mp hi)]
      exact Nat.zero_testBit _
    · rfl

lemma paintsCells_set (i : ℕ) (a : UInt8) :
    PaintsCells (byteRegion i) (fun frame => frame.set i a) := by
  refine .of_picture (fun p => decide (i < 960) && a.toNat.testBit (7 - p % 8))
    (fun frame hframe => (Cells.length_set a).trans hframe) ?_ ?_
  · intro frame hframe p hp
    rw [Cells.set, bitAt_cells_modify, hframe]
    exact if_pos hp
  · intro frame _ p hp
    rw [Cells.set, bitAt_cells_modify]
    exact if_neg hp

/-- The bits that are not in the mask stay. -/
lemma paintsCells_orAt (i bits : ℕ) :
    PaintsCells (maskRegion i bits) (fun frame => orAt frame i bits) := by
  refine .of_picture (fun _ => decide (i < 960))
    (fun frame hframe => (Cells.length_modify _).trans hframe) ?_ ?_
  · intro frame hframe p hp
    have hbit : 7 - p % 8 < 8 := by omega
    rw [orAt, bitAt_cells_modify, if_pos hp.1, hframe, testBit_toNat_ofNat, decide_eq_true hbit,
      Nat.testBit_or, hp.2, Bool.or_true]
    exact Bool.and_true _
  · intro frame hframe p hp
    rw [orAt, bitAt_cells_modify]
    split_ifs with hpi
    · have hbit : 7 - p % 8 < 8 := by omega
      have hmask : bits.testBit (7 - p % 8) = false := by
        by_contra htrue
        exact hp ⟨hpi, Bool.not_eq_false _ ▸ htrue⟩
      rw [testBit_toNat_ofNat, decide_eq_true hbit, Nat.testBit_or, hmask, Bool.or_false, bitAt,
        hpi]
      by_cases hi : i < frame.data.length
      · rw [decide_eq_true hi]
        rfl
      · rw [List.getD_eq_default _ _ (not_lt.mp hi), decide_eq_false hi]
        exact (Nat.zero_testBit _).symm
    · rfl

/-! ### Drawings -/

lemma paintsCells_drawHorizontalLine (index : UInt16) :
    PaintsCells (horizontalLineRegion index.toNat) (fun frame => drawHorizontalLine frame index) :=
  (paintsCells_orAt (index.toNat + 12) 0b11111100).comp
    (Paints.foldl (List.range 12) fun k _ => paintsCells_set (index.toNat + k) 0b11111111)

lemma lineRegion_eq (i : ℕ) :
    (⋃ k ∈ List.range 12, byteRegion (i + k)) ∪ byteRegion (i + 12) = lineRegion i := by
  ext p
  simp only [Set.mem_union, Set.mem_iUnion, List.mem_range, byteRegion, lineRegion]
  constructor
  · rintro (⟨k, hk, hp⟩ | hp)
    · have hp : p / 8 = i + k := hp
      exact ⟨by omega, by omega⟩
    · have hp : p / 8 = i + 12 := hp
      exact ⟨by omega, by omega⟩
  · rintro ⟨hlo, hhi⟩
    obtain ⟨k, hk⟩ := Nat.exists_eq_add_of_le hlo
    rcases Nat.lt_or_ge k 12 with hlt | hge
    · exact .inl ⟨k, hlt, hk⟩
    · exact .inr (show p / 8 = i + 12 by omega)

lemma maskRegion_subset_lineRegion {k : ℕ} (hk : k ≤ 12) (bits : ℕ) :
    maskRegion (i + k) bits ⊆ lineRegion i := by
  intro p hp
  have hbyte : p / 8 = i + k := hp.1
  exact ⟨by omega, by omega⟩

lemma paintsCells_drawProgressBarLine (percent index : UInt16) (line : ℕ) :
    PaintsCells (lineRegion index.toNat)
      (fun frame => drawProgressBarLine percent frame index line) := by
  have hbytes := (Paints.foldl (List.range 12) fun k _ =>
    paintsCells_set (index.toNat + k) (progressByte percent line k)).comp
      (paintsCells_set (index.toNat + 12)
        (if percent.toNat / 8 = 12 then .ofNat (0b11111111 <<< (8 - 1 - percent.toNat % 8)) else 0))
  rw [lineRegion_eq] at hbytes
  exact (hbytes.comp_of_subset (paintsCells_orAt index.toNat 0b10000000)
      (maskRegion_subset_lineRegion (Nat.zero_le 12) _)).comp_of_subset
    (paintsCells_orAt (index.toNat + 12) 0b00000100) (maskRegion_subset_lineRegion le_rfl _)

/-- The region is the same for all percentages. -/
lemma paintsCells_drawProgressBar (percent index : UInt16) :
    PaintsCells (progressBarRegion index) (drawProgressBar percent index) := by
  have hlines := Paints.foldl (List.range' 1 (PROGRESS_BAR_HEIGHT - 2)) fun i _ =>
    paintsCells_drawProgressBarLine percent (lineIndex index i) i
  have hbottom := paintsCells_drawHorizontalLine (lineIndex index (PROGRESS_BAR_HEIGHT - 1))
  rw [progressBarRegion]
  exact (((paintsCells_drawHorizontalLine index).comp hlines).comp hbottom).congr fun _ _ => rfl

/-- The region is the same for all states of the lock. -/
lemma paintsCells_drawPadlockOnPBMFrame (lockedPlugin everLocked : Bool) :
    PaintsCells padlockRegion fun frame =>
      (drawPadlockOnPBMFrame lockedPlugin everLocked frame).1 := by
  have hbytes :=
    Paints.foldl (padlockBytes lockedPlugin (everLocked || lockedPlugin)).zipIdx fun entry _ =>
      paintsCells_set ((drawingIndex 1 1).toNat + DEFAULT_PBM_WIDTH_IN_BYTES * entry.2) entry.1
  have hregion : padlockRegion =
      ⋃ entry ∈ (padlockBytes lockedPlugin (everLocked || lockedPlugin)).zipIdx,
        byteRegion ((drawingIndex 1 1).toNat + DEFAULT_PBM_WIDTH_IN_BYTES * entry.2) := by
    ext p
    rw [padlockRegion, padlockBytes]
    cases lockedPlugin <;> cases everLocked <;> simp [List.range_succ, List.zipIdx]
  rw [hregion]
  exact hbytes

/-! ### Places of the drawings -/

lemma progressBarRegion_bounds {index : UInt16} (h : index.toNat + 120 < 65536) {p : ℕ}
    (hp : p ∈ progressBarRegion index) : index.toNat ≤ p / 8 ∧ p / 8 < index.toNat + 133 := by
  have hhorizontal : ∀ i, p ∈ horizontalLineRegion i → i ≤ p / 8 ∧ p / 8 < i + 13 := by
    rintro i (hlast | hbytes)
    · have hbyte : p / 8 = i + 12 := hlast.1
      omega
    · obtain ⟨k, hk, hbyte⟩ := Set.mem_iUnion₂.mp hbytes
      have hbyte : p / 8 = i + k := hbyte
      have hk := List.mem_range.mp hk
      omega
  rcases hp with (htop | hlines) | hbottom
  · have hbounds := hhorizontal _ htop
    omega
  · obtain ⟨i, hi, hline⟩ := Set.mem_iUnion₂.mp hlines
    have hi := List.mem_range'_1.mp hi
    rw [PROGRESS_BAR_HEIGHT] at hi
    rw [lineIndex_toNat h (show i ≤ 6 by omega)] at hline
    have hline : index.toNat + 20 * i ≤ p / 8 ∧ p / 8 < index.toNat + 20 * i + 13 := hline
    omega
  · have hbounds := hhorizontal _ hbottom
    rw [PROGRESS_BAR_HEIGHT, lineIndex_toNat h (le_refl 6)] at hbounds
    omega

lemma padlockRegion_bounds {p : ℕ} (hp : p ∈ padlockRegion) : 20 ≤ p / 8 ∧ p / 8 ≤ 120 := by
  obtain ⟨i, hi, hbyte⟩ := Set.mem_iUnion₂.mp hp
  have hbyte : p / 8 = 20 + 20 * i := hbyte
  have hi := List.mem_range.mp hi
  omega

/-! ### Frames and their cells -/

lemma paintsFrame_of_cells {region : Set ℕ} {step : Cells UInt8 → Cells UInt8}
    (h : PaintsCells region step) :
    PaintsFrame region (fun frame => (step { data := frame }).data) where
  keeps frame := h.keeps { data := frame }
  inside frame frame' := h.inside { data := frame } { data := frame' }
  outside frame := h.outside { data := frame }

lemma paintsCells_of_frame {region : Set ℕ} {step : PixelsData → PixelsData}
    {step' : Cells UInt8 → Cells UInt8} (h : PaintsFrame region step)
    (hstep : ∀ frame, (step' frame).data = step frame.data) : PaintsCells region step' where
  keeps frame hframe := by
    rw [hstep]
    exact h.keeps frame.data hframe
  inside frame frame' hframe hframe' p hp := by
    rw [hstep, hstep]
    exact h.inside frame.data frame'.data hframe hframe' p hp
  outside frame hframe p hp := by
    rw [hstep]
    exact h.outside frame.data hframe p hp

end LCDPlugin

end GLogiK
