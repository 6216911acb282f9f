import GLogiK.LCD.NarrowText
import GLogiK.LCD.PaintedDrawings
import GLogiK.LCD.SystemMonitor

/-!
# The frames of the system monitor

All is drawn over what the last call has left. Because the rate string is padded up to the last
size, nothing is left of former calls: a frame is the one that a new plugin would show.
-/

namespace GLogiK

open Bitmap PBMFont LCDPlugin

/-! ### What is written -/

namespace PBMFont

variable {cs : List Char}

lemma AllKnown.setw (h : AllKnown cs) (width : ℕ) : AllKnown (setw width cs) :=
  (allKnown_replicate (by decide) _).append h

lemma allKnown_fixedText (n d : ℕ) : AllKnown (fixedText n d) := by
  refine (allKnown_toDigits _).append (List.forall_mem_cons.mpr ⟨by decide, ?_⟩)
  exact (allKnown_replicate (by decide) _).append (allKnown_toDigits _)

end PBMFont

namespace NetSnapshots

variable {value : UInt64} {direction : String} {n d m : ℕ}

/-- The number is put into the buffer in one of three units. -/
lemma rateBuffer_cases (value : UInt64) :
    let float := nearestFloat value.toNat
    (value < 1024 ∧ rateBuffer value = (setw 4 (Nat.toDigits 10 value.toNat), " B/s")) ∨
      (float < 1024 * 1024 ∧ rateBuffer value = (setw 7 (fixedText float 1024), " kB/s")) ∨
      rateBuffer value = (setw 7 (fixedText float (1024 * 1024)), " mB/s") := by
  intro float
  rw [rateBuffer]
  by_cases hB : value < 1024
  · exact .inl ⟨hB, if_pos hB⟩
  · rw [if_neg hB]
    by_cases hkB : float < 1024 * 1024
    · exact .inr (.inl ⟨hkB, if_pos hkB⟩)
    · exact .inr (.inr (if_neg hkB))

lemma allKnown_rateString (value : UInt64) (hdirection : AllKnown direction.toList) :
    AllKnown (rateString value direction) := by
  have hbuffer : AllKnown (rateBuffer value).1 ∧ AllKnown (rateBuffer value).2.toList := by
    rcases rateBuffer_cases value with ⟨-, h⟩ | ⟨-, h⟩ | h
    · rw [h]
      exact ⟨(allKnown_toDigits _).setw 4, show AllKnown " B/s".toList by decide⟩
    · rw [h]
      exact ⟨(allKnown_fixedText _ _).setw 7, show AllKnown " kB/s".toList by decide⟩
    · rw [h]
      exact ⟨(allKnown_fixedText _ _).setw 7, show AllKnown " mB/s".toList by decide⟩
  rw [rateString]
  refine (AllKnown.append ?_ hbuffer.2).append hdirection
  split_ifs
  · exact fun c hc => hbuffer.1 c (List.mem_of_mem_take hc)
  · exact hbuffer.1

/-! ### How long a rate is -/

lemma roundedDiv_le (hd : 0 < d) (h : n ≤ m * d) : roundedDiv n d ≤ m := by
  have hdiv := Nat.div_add_mod n d
  have hmod := Nat.mod_lt n hd
  have hq : n / d ≤ m := Nat.div_le_of_le_mul (h.trans_eq (Nat.mul_comm m d))
  rw [roundedDiv]
  rcases hq.lt_or_eq with hlt | heq
  · split_ifs <;> omega
  · have hzero : n % d = 0 := by
      rw [heq, Nat.mul_comm] at hdiv
      omega
    simp [hzero, hd, heq]

lemma nearestFloat_le {k : ℕ} (h : n ≤ 2 ^ k) : nearestFloat n ≤ 2 ^ k := by
  have hlog : Nat.log2 n - 23 ≤ k := by
    rcases Nat.eq_zero_or_pos n with rfl | hpos
    · exact Nat.zero_le k
    · have hlt : Nat.log2 n ≤ k := (Nat.pow_le_pow_iff_right (by decide : 1 < 2)).mp
        ((Nat.log2_self_le hpos.ne').trans h)
      omega
  have hpow : 2 ^ (k - (Nat.log2 n - 23)) * 2 ^ (Nat.log2 n - 23) = 2 ^ k := by
    rw [← Nat.pow_add, Nat.sub_add_cancel hlog]
  rw [nearestFloat, ← hpow]
  exact Nat.mul_le_mul_right _ (roundedDiv_le (Nat.two_pow_pos _) (h.trans_eq hpow.symm))

lemma length_toDigits_le {k : ℕ} (hk : 0 < k) (h : n < 10 ^ k) : (Nat.toDigits 10 n).length ≤ k :=
  (Nat.length_toDigits_le_iff (by decide) hk).mpr h

lemma fixedText_eq (n d : ℕ) : ∃ decimals : List Char, 6 ≤ decimals.length ∧
    fixedText n d = Nat.toDigits 10 (roundedDiv (n * 10 ^ 6) d / 10 ^ 6) ++ '.' :: decimals := by
  refine ⟨_, ?_, rfl⟩
  rw [List.length_append, List.length_replicate]
  omega

/-- Two digits after the point are left. -/
lemma length_cutRate_le {digits decimals : List Char} (hdecimals : 6 ≤ decimals.length) :
    (cutRate (setw 7 (digits ++ '.' :: decimals))).length ≤ digits.length + 3 := by
  have hpadded : setw 7 (digits ++ '.' :: decimals) = digits ++ '.' :: decimals := by
    have hlength : 7 - (digits ++ '.' :: decimals).length = 0 := by
      rw [List.length_append, List.length_cons]
      exact Nat.sub_eq_zero_of_le (by omega)
    rw [setw, hlength]
    rfl
  have hpoint : (digits ++ '.' :: decimals).findIdx (· = '.') ≤ digits.length := by
    rw [List.findIdx_append]
    split_ifs with hlt
    · exact hlt.le
    · simp [List.findIdx_cons]
  rw [hpadded, cutRate, List.length_take]
  exact (min_le_left _ _).trans (Nat.add_le_add_right hpoint 3)

lemma length_cutRate_fixedText {k : ℕ} (hk : 0 < k)
    (h : roundedDiv (n * 10 ^ 6) d < 10 ^ (k + 6)) :
    (cutRate (setw 7 (fixedText n d))).length ≤ k + 3 := by
  obtain ⟨decimals, hdecimals, htext⟩ := fixedText_eq n d
  have hdigits : (Nat.toDigits 10 (roundedDiv (n * 10 ^ 6) d / 10 ^ 6)).length ≤ k := by
    refine length_toDigits_le hk (Nat.div_lt_of_lt_mul ?_)
    rwa [← Nat.pow_add, Nat.add_comm]
  rw [htext]
  exact (length_cutRate_le hdecimals).trans (Nat.add_le_add_right hdigits 3)

lemma point_mem_setw_fixedText (width n d : ℕ) : '.' ∈ setw width (fixedText n d) :=
  List.mem_append_right _ (List.mem_append_right _ List.mem_cons_self)

/-- A rate of less than 2^46 bytes leaves the left part of the screen free. -/
lemma length_rateString (hvalue : value.toNat < 2 ^ 46) :
    (rateString value direction).length ≤ 16 + direction.toList.length := by
  have hrate : (if '.' ∈ (rateBuffer value).1 then cutRate (rateBuffer value).1
      else (rateBuffer value).1).length + (rateBuffer value).2.toList.length ≤ 16 := by
    rcases rateBuffer_cases value with ⟨hB, h⟩ | ⟨hkB, h⟩ | h
    · have hdigits : (Nat.toDigits 10 value.toNat).length ≤ 4 :=
        length_toDigits_le (by decide) ((UInt64.lt_iff_toNat_lt.mp hB).trans (by decide))
      have hwidth : (setw 4 (Nat.toDigits 10 value.toNat)).length = 4 := by
        rw [setw, List.length_append, List.length_replicate]
        omega
      have hunit : " B/s".toList.length = 4 := rfl
      simp only [h, hunit]
      split_ifs
      · rw [cutRate, List.length_take]
        omega
      · omega
    · have hdiv : roundedDiv (nearestFloat value.toNat * 10 ^ 6) 1024 ≤ 1024 * 10 ^ 6 :=
        roundedDiv_le (by decide) (by omega)
      have hcut := @length_cutRate_fixedText (nearestFloat value.toNat) 1024 4 (by decide)
        (hdiv.trans_lt (by decide))
      have hunit : " kB/s".toList.length = 5 := rfl
      simp only [h, hunit, if_pos (point_mem_setw_fixedText _ _ _)]
      omega
    · have hfloat : nearestFloat value.toNat ≤ 2 ^ 46 := nearestFloat_le hvalue.le
      have hdiv : roundedDiv (nearestFloat value.toNat * 10 ^ 6) (1024 * 1024) ≤ 2 ^ 26 * 10 ^ 6 :=
        roundedDiv_le (by decide) (by omega)
      have hcut := @length_cutRate_fixedText (nearestFloat value.toNat) (1024 * 1024) 8 (by decide)
        (hdiv.trans_lt (by decide))
      have hunit : " mB/s".toList.length = 5 := rfl
      simp only [h, hunit, if_pos (point_mem_setw_fixedText _ _ _)]
      omega
  rw [rateString, List.length_append, List.length_append]
  omega

end NetSnapshots

namespace SystemMonitor

variable {fonts : FontsManager} {PBMData : PixelsData} {text : List Char} {frame start : PixelsData}
  {n k : ℕ} {s : SystemMonitor} {call : MonitorCall}

/-! ### Strings on the right -/

/-- The rates are far below what the screen has place for. -/
def ModerateRates (call : MonitorCall) : Prop :=
  ∀ n, NetSnapshots.make call.netFiles = .ok n →
    n.rxDiff.toNat < 2 ^ 46 ∧ n.txDiff.toNat < 2 ^ 46

lemma measuredRate_spec (s : SystemMonitor) (hcall : ModerateRates call) :
    AllKnown (s.measuredRate call).1 ∧ 5 ≤ (s.measuredRate call).1.length ∧
      (s.measuredRate call).1.length ≤ 27 := by
  have hrate : ∀ value direction, value.toNat < 2 ^ 46 → AllKnown direction.toList →
      direction.toList.length = 11 →
      AllKnown (NetSnapshots.rateString value direction) ∧
        5 ≤ (NetSnapshots.rateString value direction).length ∧
        (NetSnapshots.rateString value direction).length ≤ 27 := by
    intro value direction hvalue hdirection hlength
    have hle := @NetSnapshots.length_rateString value direction hvalue
    refine ⟨NetSnapshots.allKnown_rateString value hdirection, ?_, by omega⟩
    rw [NetSnapshots.rateString, List.length_append]
    omega
  rw [measuredRate]
  split
  · show AllKnown "error".toList ∧ 5 ≤ "error".toList.length ∧ "error".toList.length ≤ 27
    decide
  · rename_i snapshots hmake
    obtain ⟨hrx, htx⟩ := hcall snapshots hmake
    dsimp only
    generalize (if call.LCDKey = LCD_KEY_L5 then s.currentRate.switched else s.currentRate) = d
    cases d
    · exact hrate _ _ hrx (by decide) rfl
    · exact hrate _ _ htx (by decide) rfl

lemma getPaddedPercentString_spec (i : ℕ) :
    AllKnown (getPaddedPercentString i) ∧ 5 ≤ (getPaddedPercentString i).length := by
  refine ⟨((allKnown_toDigits i).setw 3).append (by decide), ?_⟩
  rw [getPaddedPercentString, setw, List.length_append, List.length_append, List.length_replicate]
  have htwo : [' ', '%'].length = 2 := rfl
  omega

lemma rightPosX_toNat (hn : 5 * n ≤ 159) : (rightPosX n).toNat = 159 - 5 * n := by
  have hsize : (UInt16.ofNat (n * FONT_CHAR_WIDTH)).toNat = 5 * n := by
    rw [FONT_CHAR_WIDTH, Nat.mul_comm]
    exact UInt16.toNat_ofNat_of_lt' (show 5 * n < 65536 by omega)
  have hle : UInt16.ofNat (n * FONT_CHAR_WIDTH) ≤ UInt16.ofNat (LCD_SCREEN_WIDTH - 1) := by
    rw [UInt16.le_iff_toNat_le, hsize]
    exact hn
  rw [rightPosX, UInt16.toNat_sub_of_le _ _ hle, hsize]
  rfl

/-- The place of a string on the right is not negative. -/
lemma printedXPos_rightPosX (font : PBMFont) (string : String) (hn : 5 * n ≤ 159) :
    printedXPos font string (rightPosX n).toInt16 = rightPosX n := by
  have hall : ∀ n < 32, ¬ (rightPosX n).toInt16 < 0 ∧
      (rightPosX n).toInt16.toUInt16 = rightPosX n := by decide
  obtain ⟨hpositive, hsame⟩ := hall n (by omega)
  rw [printedXPos, if_neg hpositive, hsame]

/-- A row of the screen that is given by a number. -/
structure IsRow (PBMYPos : Int16) (y : ℕ) : Prop where
  positive : ¬ PBMYPos < 0
  toNat : PBMYPos.toUInt16.toNat = y
  accepted : y + 10 < 43

lemma isRow_14 : IsRow 14 14 := ⟨by decide, rfl, by decide⟩

lemma isRow_23 : IsRow 23 23 := ⟨by decide, rfl, by decide⟩

lemma isRow_32 : IsRow 32 32 := ⟨by decide, rfl, by decide⟩

section

variable {PBMYPos : Int16} {y : ℕ} (hfont : fonts.readPBM .MONOSPACE85 = .ok PBMData)
  (hdata : PBMData.length = (FontMonospace85 PBMData).bitmapBytes) (hy : IsRow PBMYPos y)
include hfont hy

lemma writeRight_eq (hn : 5 * n ≤ 159) (text : List Char) (frame : PixelsData) :
    writeRight fonts text (rightPosX n) PBMYPos frame =
      (FontMonospace85 PBMData).printText PBMYPos.toUInt16 (rightPosX n) text frame := by
  rw [writeRight, writeStringOnPBMFrame_eq_printText hfont, printedXPos_rightPosX _ _ hn,
    printedYPos, if_neg hy.positive, String.toList_ofList]
  rfl

include hdata

lemma paintsFrame_writeRight (hknown : AllKnown text) (hpos : 0 < n) (hn : 5 * n ≤ 159)
    (hlength : n ≤ text.length) :
    PaintsFrame (rightRegion y (159 - 5 * n)) (writeRight fonts text (rightPosX n) PBMYPos) := by
  have htext := @paintsFrame_text .MONOSPACE85 PBMData hdata PBMYPos.toUInt16 (rightPosX n) text
  have hregion := @textRegion_monospace85 PBMData y (159 - 5 * n) n text hknown hpos hlength
    (by omega) hy.accepted
  rw [hy.toNat, rightPosX_toNat hn] at htext
  rw [← hregion]
  exact htext.congr fun frame _ => writeRight_eq hfont hy hn text frame

/-- A padded string is written after its blanks. -/
lemma writeRight_append (hknown : AllKnown text) (hn : 5 * (k + n) ≤ 159)
    (hframe : frame.length = DEFAULT_PBM_DATA_IN_BYTES) (htext : text.length = k)
    (text' : List Char) :
    writeRight fonts (text ++ text') (rightPosX (k + n)) PBMYPos frame =
      writeRight fonts text' (rightPosX n) PBMYPos
        (writeRight fonts text (rightPosX (k + n)) PBMYPos frame) := by
  have hn' : 5 * n ≤ 159 := by omega
  rw [writeRight_eq hfont hy hn, writeRight_eq hfont hy hn, writeRight_eq hfont hy hn']
  refine @printText_append frame .MONOSPACE85 PBMData _ _ text hdata ?_ hframe _ ?_ text'
  · rw [hy.toNat, rightPosX_toNat hn]
    exact printedChars_monospace85 hknown (by omega) hy.accepted
  · rw [rightPosX_toNat hn, rightPosX_toNat hn']
    have htotal := @totalAdvance_monospace85 PBMData text
    change _ = 159 - 5 * (k + n) + (FontMonospace85 PBMData).totalAdvance text
    omega

/-- Blanks clear the place where they are written. -/
lemma writeRight_blanks (hblank : (FontMonospace85 PBMData).Blank ' ') (hn : 5 * (k + n) ≤ 159)
    (hframe : frame.length = DEFAULT_PBM_DATA_IN_BYTES) :
    let written := writeRight fonts (List.replicate k ' ') (rightPosX (k + n)) PBMYPos frame
    written.length = DEFAULT_PBM_DATA_IN_BYTES ∧
      (∀ p ∉ rightRegion y (159 - 5 * (k + n)), bitAt written p = bitAt frame p) ∧
      ∀ p ∈ rightRegion y (159 - 5 * (k + n)), p ∉ rightRegion y (159 - 5 * n) →
        bitAt written p = false := by
  intro written
  have htext := @paintsFrame_text .MONOSPACE85 PBMData hdata PBMYPos.toUInt16 (rightPosX (k + n))
    (List.replicate k ' ')
  have hwritten : written = _ := writeRight_eq hfont hy hn (List.replicate k ' ') frame
  rw [hwritten]
  refine ⟨htext.keeps frame hframe, fun p hp => ?_, fun p hp hnot => ?_⟩
  · refine htext.outside frame hframe p fun hmem => hp ?_
    have hbounds := textRegion_bounds hmem
    rw [hy.toNat, rightPosX_toNat hn] at hbounds
    exact hbounds
  · refine @bitAt_printText_blank frame .MONOSPACE85 PBMData _ _ _ hdata
      (fun c hc => List.eq_of_mem_replicate hc ▸ hblank) hframe p ?_
    rw [hy.toNat, rightPosX_toNat hn]
    rw [mem_rightRegion] at hp hnot
    refine mem_textRegion_monospace85 (allKnown_replicate (by decide) k) ?_ hy.accepted hp ?_
    · rw [List.length_replicate]
      omega
    · rw [List.length_replicate]
      omega

/-- A padded string shows the string, and nothing on its left. -/
lemma writeRight_padded (hblank : (FontMonospace85 PBMData).Blank ' ') (hknown : AllKnown text)
    (hpos : 0 < text.length) (hn : 5 * (k + text.length) ≤ 159)
    (hframe : frame.length = DEFAULT_PBM_DATA_IN_BYTES) :
    let written := writeRight fonts (List.replicate k ' ' ++ text) (rightPosX (k + text.length))
      PBMYPos frame
    written.length = DEFAULT_PBM_DATA_IN_BYTES ∧
      (∀ frame' : PixelsData, frame'.length = DEFAULT_PBM_DATA_IN_BYTES →
        ∀ p ∈ rightRegion y (159 - 5 * text.length), bitAt written p =
          bitAt (writeRight fonts text (rightPosX text.length) PBMYPos frame') p) ∧
      (∀ p ∈ rightRegion y (159 - 5 * (k + text.length)),
        p ∉ rightRegion y (159 - 5 * text.length) → bitAt written p = false) ∧
      ∀ p ∉ rightRegion y (159 - 5 * (k + text.length)), bitAt written p = bitAt frame p := by
  intro written
  obtain ⟨hlength, houtside, hinside⟩ := writeRight_blanks hfont hdata hy hblank hn hframe
  have htext := paintsFrame_writeRight hfont hdata hy hknown hpos (by omega) le_rfl
  have hwritten : written = _ := writeRight_append hfont hdata hy
    (allKnown_replicate (by decide) k) hn hframe List.length_replicate text
  rw [hwritten]
  refine ⟨htext.keeps _ hlength, fun frame' hframe' p hp => ?_, fun p hp hnot => ?_, fun p hp => ?_⟩
  · exact htext.inside _ frame' hlength hframe' p hp
  · rw [htext.outside _ hlength p hnot]
    exact hinside p hp hnot
  · have hnot := mt (@rightRegion_subset y _ (159 - 5 * (k + text.length))
      (show 159 - 5 * (k + text.length) ≤ 159 - 5 * text.length by omega) p) hp
    rw [htext.outside _ hlength p hnot]
    exact houtside p hp

end

/-! ### Frames -/

/-- The padlock, both bars, and the percentage of the processor. -/
def upperRegion : Set ℕ :=
  padlockRegion ∪ progressBarRegion (drawingIndex 24 33) ∪
    progressBarRegion (drawingIndex 24 15) ∪ rightRegion 14 134

/-- What is drawn before the rate. -/
def upper (fonts : FontsManager) (call : MonitorCall) (everLocked : Bool) (frame : PixelsData) :
    PixelsData :=
  writeRight fonts (getPaddedPercentString call.cpuPercentTotal.toNat) (rightPosX 5) 14
    (drawBars call (drawPadlockOnPBMFrame call.lockedPlugin everLocked { data := frame }).1).data

/-- The bits of a frame whose rate string has that size. -/
def frameRegion (n : ℕ) : Set ℕ := upperRegion ∪ rightRegion 23 (159 - 5 * n) ∪ rightRegion 32 134

lemma paintsCells_drawProgressBarOnPBMFrame (percent PBMXPos PBMYPos : UInt16)
    (hX : PBMXPos.toNat ≤ 57)
    (hindex : (drawingIndex PBMXPos PBMYPos).toNat + 12 < DEFAULT_PBM_DATA_IN_BYTES) :
    PaintsCells (progressBarRegion (drawingIndex PBMXPos PBMYPos))
      (fun frame => (drawProgressBarOnPBMFrame percent PBMXPos PBMYPos frame).1) := by
  refine (paintsCells_drawProgressBar percent _).congr fun frame hframe => ?_
  rw [drawProgressBarOnPBMFrame_of_lt hX (hframe ▸ hindex)]

variable (hfont : fonts.readPBM .MONOSPACE85 = .ok PBMData)
  (hdata : PBMData.length = (FontMonospace85 PBMData).bitmapBytes)
include hfont hdata

lemma paintsFrame_upper (call : MonitorCall) (everLocked : Bool) :
    PaintsFrame upperRegion (upper fonts call everLocked) := by
  have hmem := paintsCells_drawProgressBarOnPBMFrame (usedMem call.meminfo) 24 33 (by decide)
    (by decide)
  have hcpu := paintsCells_drawProgressBarOnPBMFrame call.cpuPercentTotal 24 15 (by decide)
    (by decide)
  have hdrawings :=
    ((paintsCells_drawPadlockOnPBMFrame call.lockedPlugin everLocked).comp hmem).comp hcpu
  obtain ⟨hknown, hlength⟩ := getPaddedPercentString_spec call.cpuPercentTotal.toNat
  exact (paintsFrame_of_cells hdrawings).comp
    (paintsFrame_writeRight hfont hdata isRow_14 hknown (by decide) (by decide) hlength)

/-- The bits outside the region of the last frame are those of the frame at the beginning. -/
structure Refreshed (start : PixelsData) (s : SystemMonitor) : Prop where
  length : s.frame.length = DEFAULT_PBM_DATA_IN_BYTES
  size_le : s.lastRateStringSize ≤ 27
  outside : ∀ p ∉ frameRegion s.lastRateStringSize, bitAt s.frame p = bitAt start p

/-- The plugin with a frame that was never shown. -/
def renewed (s : SystemMonitor) (start : PixelsData) : SystemMonitor where
  frame := start
  everLocked := s.everLocked
  currentRate := s.currentRate

omit hfont hdata in
lemma getPaddedRateString_eq (netRate : List Char) (lastSize : ℕ) :
    getPaddedRateString netRate lastSize =
      List.replicate (lastSize - netRate.length) ' ' ++ netRate := by
  rw [getPaddedRateString]
  split_ifs with hlonger
  · rfl
  · rw [Nat.sub_eq_zero_of_le (not_lt.mp hlonger)]
    rfl

omit hfont hdata in
/-- The rate string is written between two drawings that do not depend on it. -/
lemma getNextPBMFrame_frame (s : SystemMonitor) (call : MonitorCall) :
    let rate := (s.measuredRate call).1
    let k := s.lastRateStringSize - rate.length
    (getNextPBMFrame fonts s call).frame =
      writeRight fonts (getPaddedPercentString (usedMem call.meminfo).toNat) (rightPosX 5) 32
        (writeRight fonts (List.replicate k ' ' ++ rate) (rightPosX (k + rate.length)) 23
          (upper fonts call s.everLocked s.frame)) := by
  intro rate k
  have hlength : (List.replicate k ' ' ++ rate).length = k + rate.length := by
    rw [List.length_append, List.length_replicate]
  rw [← hlength, ← getPaddedRateString_eq, getNextPBMFrame, upper]

omit hfont hdata in
/-- The rows of the rate are only shared with the percentages. -/
lemma notMem_upperRegion {p : ℕ} (hp : p ∈ rightRegion 23 0) (hx : p % 160 < 134) :
    p ∉ upperRegion := by
  rw [mem_rightRegion] at hp
  rintro (((hpadlock | hmem) | hcpu) | htext)
  · have hbounds := padlockRegion_bounds hpadlock
    omega
  · have hbounds := progressBarRegion_bounds (by decide) hmem
    have hindex : (drawingIndex 24 33).toNat = 663 := rfl
    omega
  · have hbounds := progressBarRegion_bounds (by decide) hcpu
    have hindex : (drawingIndex 24 15).toNat = 303 := rfl
    omega
  · exact absurd htext.2.2 (not_le.mpr hx)

omit hfont hdata in
/-- A plugin that was never shown writes no blanks. -/
lemma getNextPBMFrame_frame_renewed (s : SystemMonitor) (start : PixelsData) (call : MonitorCall) :
    (getNextPBMFrame fonts (s.renewed start) call).frame =
      writeRight fonts (getPaddedPercentString (usedMem call.meminfo).toNat) (rightPosX 5) 32
        (writeRight fonts (s.measuredRate call).1 (rightPosX (s.measuredRate call).1.length) 23
          (upper fonts call s.everLocked start)) := by
  have hframe := @getNextPBMFrame_frame fonts (s.renewed start) call
  have hzero : (s.renewed start).lastRateStringSize -
      ((s.renewed start).measuredRate call).1.length = 0 := Nat.zero_sub _
  have hsame : (s.renewed start).measuredRate call = s.measuredRate call := rfl
  simp only [hzero, List.replicate_zero, List.nil_append, Nat.zero_add] at hframe
  rw [hsame] at hframe
  exact hframe

/-- The rate, and the percentage of the memory after it. -/
lemma paintsFrame_rate (s : SystemMonitor) (hcall : ModerateRates call) :
    PaintsFrame (rightRegion 23 (159 - 5 * (s.measuredRate call).1.length))
      (writeRight fonts (s.measuredRate call).1 (rightPosX (s.measuredRate call).1.length) 23) := by
  obtain ⟨hknown, hlower, hupper⟩ := measuredRate_spec s hcall
  exact paintsFrame_writeRight hfont hdata isRow_23 hknown (by omega) (by omega) le_rfl

lemma paintsFrame_usedMem (call : MonitorCall) :
    PaintsFrame (rightRegion 32 134) (writeRight fonts
      (getPaddedPercentString (usedMem call.meminfo).toNat) (rightPosX 5) 32) := by
  obtain ⟨hknown, hlength⟩ := getPaddedPercentString_spec (usedMem call.meminfo).toNat
  exact paintsFrame_writeRight hfont hdata isRow_32 hknown (by decide) (by decide) hlength

/-- Nothing is left of the frames before. -/
lemma getNextPBMFrame_renewed (hblank : (FontMonospace85 PBMData).Blank ' ')
    (hempty : ∀ p ∈ rightRegion 23 24, bitAt start p = false)
    (hstart : start.length = DEFAULT_PBM_DATA_IN_BYTES) (hs : Refreshed start s)
    (hcall : ModerateRates call) :
    (getNextPBMFrame fonts s call).frame =
      (getNextPBMFrame fonts (s.renewed start) call).frame := by
  obtain ⟨hknown, hlower, hupper⟩ := measuredRate_spec s hcall
  have hsize := hs.size_le
  have hfirst := paintsFrame_upper hfont hdata call s.everLocked
  have hrate := paintsFrame_rate hfont hdata s hcall
  have hlast := paintsFrame_usedMem hfont hdata call
  have hframe := hfirst.keeps _ hs.length
  have hframe' := hfirst.keeps _ hstart
  obtain ⟨hlength, hinside, hpad, houtside⟩ := writeRight_padded hfont hdata isRow_23 hblank hknown
    (by omega) (k := s.lastRateStringSize - (s.measuredRate call).1.length) (by omega) hframe
  rw [getNextPBMFrame_frame_renewed, getNextPBMFrame_frame]
  refine eq_of_bitAt ?_ (hlast.view_eq hlength (hrate.keeps _ hframe') fun p hp => ?_)
  · rw [hlast.keeps _ hlength, hlast.keeps _ (hrate.keeps _ hframe')]
  by_cases htext : p ∈ rightRegion 23 (159 - 5 * (s.measuredRate call).1.length)
  · exact hinside _ hframe' p htext
  · rw [hrate.outside _ hframe' p htext]
    by_cases hblanks : p ∈ rightRegion 23 (159 - 5 * (s.lastRateStringSize -
        (s.measuredRate call).1.length + (s.measuredRate call).1.length))
    · rw [mem_rightRegion] at htext hblanks
      rw [hpad p hblanks htext, hfirst.outside _ hstart p
        (notMem_upperRegion ⟨hblanks.1, hblanks.2.1, Nat.zero_le _⟩ (by omega))]
      exact (hempty p ⟨hblanks.1, hblanks.2.1, by omega⟩).symm
    · rw [houtside p hblanks]
      by_cases hdrawn : p ∈ upperRegion
      · exact hfirst.inside _ _ hs.length hstart p hdrawn
      · rw [hfirst.outside _ hs.length p hdrawn, hfirst.outside _ hstart p hdrawn]
        refine hs.outside p ?_
        rintro ((hdrawn' | hformer) | hpercent)
        · exact hdrawn hdrawn'
        · rw [mem_rightRegion] at hformer hblanks
          omega
        · exact hp hpercent

/-- One more frame. -/
lemma Refreshed.getNextPBMFrame (hblank : (FontMonospace85 PBMData).Blank ' ')
    (hempty : ∀ p ∈ rightRegion 23 24, bitAt start p = false)
    (hstart : start.length = DEFAULT_PBM_DATA_IN_BYTES) (hs : Refreshed start s)
    (hcall : ModerateRates call) : Refreshed start (getNextPBMFrame fonts s call) := by
  have hnew := getNextPBMFrame_renewed hfont hdata hblank hempty hstart hs hcall
  have hframe := ((paintsFrame_upper hfont hdata call s.everLocked).comp
    (paintsFrame_rate hfont hdata s hcall)).comp (paintsFrame_usedMem hfont hdata call)
  rw [getNextPBMFrame_frame_renewed] at hnew
  refine ⟨?_, (measuredRate_spec s hcall).2.2, fun p hp => ?_⟩
  · rw [hnew]
    exact hframe.keeps start hstart
  · rw [hnew]
    exact hframe.outside start hstart p hp

/-- Any number of frames. -/
lemma Refreshed.run (hblank : (FontMonospace85 PBMData).Blank ' ')
    (hempty : ∀ p ∈ rightRegion 23 24, bitAt start p = false)
    (hstart : start.length = DEFAULT_PBM_DATA_IN_BYTES) (hs : Refreshed start s)
    (calls : List MonitorCall) (hcalls : ∀ call ∈ calls, ModerateRates call) :
    Refreshed start (calls.foldl (SystemMonitor.getNextPBMFrame fonts) s) := by
  induction calls generalizing s with
  | nil => exact hs
  | cons call calls ih =>
    obtain ⟨hcall, hcalls⟩ := List.forall_mem_cons.mp hcalls
    rw [List.foldl_cons]
    exact ih (hs.getNextPBMFrame hfont hdata hblank hempty hstart hcall) hcalls

/-- The name of the host is above. -/
lemma init_empty {skeleton : PixelsData}
    (hskeleton : skeleton.length = DEFAULT_PBM_DATA_IN_BYTES)
    (hempty : ∀ x y, 24 ≤ x → x < 160 → 23 ≤ y → y < 33 → pixel skeleton x y = false)
    (host : String) :
    (init fonts skeleton host).frame.length = DEFAULT_PBM_DATA_IN_BYTES ∧
      ∀ p ∈ rightRegion 23 24, bitAt (init fonts skeleton host).frame p = false := by
  have hhost := @paintsFrame_text .MONOSPACE85 PBMData hdata
    (printedYPos (FontMonospace85 PBMData) 1) (printedXPos (FontMonospace85 PBMData) host 16)
    host.toList
  have hstart : (init fonts skeleton host).frame = _ :=
    writeStringOnPBMFrame_eq_printText hfont host 16 1 skeleton
  rw [hstart]
  refine ⟨hhost.keeps skeleton hskeleton, fun p hp => ?_⟩
  rw [mem_rightRegion] at hp
  have hpixel := hempty (p % 160) (p / 160) hp.2.2 (Nat.mod_lt p (by decide)) hp.1 hp.2.1
  rw [pixel, DEFAULT_PBM_WIDTH, Nat.div_add_mod] at hpixel
  rw [← hpixel]
  refine hhost.outside skeleton hskeleton p fun hmem => ?_
  have hbounds := textRegion_bounds hmem
  have hrow : (printedYPos (FontMonospace85 PBMData) 1).toNat = 1 := rfl
  have hheight : (FontID.font .MONOSPACE85 PBMData).charHeight.toNat = 10 := rfl
  omega

/-! ### The direction and the lock flag -/

/-- The L5 key is pressed, and there are snapshots. -/
def switches (call : MonitorCall) : Bool :=
  call.LCDKey = LCD_KEY_L5 && (NetSnapshots.make call.netFiles).toOption.isSome

/-- The direction that is shown after some calls. -/
def directionAfter (calls : List MonitorCall) : NetDirection :=
  if Even (calls.countP switches) then .NET_RX else .NET_TX

omit hfont hdata in
lemma measuredRate_direction (s : SystemMonitor) (call : MonitorCall) :
    (s.measuredRate call).2 = if switches call then s.currentRate.switched else s.currentRate := by
  rw [measuredRate, switches]
  split
  · rename_i hmake
    simp [hmake, Except.toOption]
  · rename_i hmake
    simp [hmake, Except.toOption]

omit hfont hdata in
lemma currentRate_run (s : SystemMonitor) (calls : List MonitorCall) :
    (calls.foldl (SystemMonitor.getNextPBMFrame fonts) s).currentRate =
      if Even (calls.countP switches) then s.currentRate else s.currentRate.switched := by
  induction calls generalizing s with
  | nil => rfl
  | cons call calls ih =>
    have hswitched : s.currentRate.switched.switched = s.currentRate := by
      cases s.currentRate <;> rfl
    have hfirst : (SystemMonitor.getNextPBMFrame fonts s call).currentRate = _ :=
      measuredRate_direction s call
    rw [List.foldl_cons, ih, hfirst, List.countP_cons]
    by_cases hswitch : switches call
    · simp only [hswitch, if_true, Nat.even_add_one, hswitched]
      split_ifs <;> rfl
    · simp [hswitch]

end SystemMonitor

open SystemMonitor

/-- After any calls a frame of the system monitor is the one that a new plugin would show, with the
direction and the lock flag that the calls left: nothing is left of former rate strings, however
long they were, nor of former bars, percentages and padlocks. -/
theorem SystemMonitor.getNextPBMFrame_run (fonts : FontsManager) (PBMData : PixelsData)
    (hfont : fonts.readPBM .MONOSPACE85 = .ok PBMData)
    (hdata : PBMData.length = (FontMonospace85 PBMData).bitmapBytes)
    (hblank : (FontMonospace85 PBMData).Blank ' ') (skeleton : PixelsData)
    (hskeleton : skeleton.length = DEFAULT_PBM_DATA_IN_BYTES)
    (hempty : ∀ x y, 24 ≤ x → x < DEFAULT_PBM_WIDTH → 23 ≤ y → y < 33 →
      pixel skeleton x y = false) (host : String) (calls : List MonitorCall)
    (hcalls : ∀ call ∈ calls, ModerateRates call) (call : MonitorCall)
    (hcall : ModerateRates call) :
    let start := init fonts skeleton host
    (getNextPBMFrame fonts (calls.foldl (getNextPBMFrame fonts) start) call).frame =
      (getNextPBMFrame fonts
        { start with
          everLocked := calls.any (·.lockedPlugin)
          currentRate := directionAfter calls } call).frame := by
  intro start
  obtain ⟨hlength, hstart⟩ := init_empty hfont hdata hskeleton hempty host
  have hnew : Refreshed start.frame start := ⟨hlength, Nat.zero_le _, fun _ _ => rfl⟩
  have hrun := hnew.run hfont hdata hblank hstart hlength calls hcalls
  have hdirection : (calls.foldl (getNextPBMFrame fonts) start).currentRate =
      directionAfter calls := currentRate_run start calls
  have hlocked : (calls.foldl (getNextPBMFrame fonts) start).everLocked =
      calls.any (·.lockedPlugin) := everLocked_foldl (fun _ _ => rfl) start calls
  rw [getNextPBMFrame_renewed hfont hdata hblank hstart hlength hrun hcall, renewed, hdirection,
    hlocked]
  rfl

/-- A call that finds no default route. -/
def callWithoutRoute : MonitorCall where
  LCDKey := ""
  lockedPlugin := false
  meminfo := []
  cpuPercentTotal := 0
  netFiles := ⟨[], fun _ _ _ => []⟩

/-- A call that measures 990 bytes for each direction. -/
def callWithRoute : MonitorCall where
  LCDKey := LCD_KEY_L5
  lockedPlugin := true
  meminfo := []
  cpuPercentTotal := 50
  netFiles := ⟨[[], 0x65 :: NetSnapshots.tab :: NetSnapshots.defaultRoute],
    fun _ _ after => if after then [0x31, 0x30, 0x30] else [0x31]⟩

/-- The long rate is not seen any more when there is an error, and the padlock is open. -/
theorem SystemMonitor.getNextPBMFrame_run_error :
    let fonts : FontsManager := ⟨fun _ => .ok (List.replicate 960 0)⟩
    let start := init fonts (List.replicate 960 0) "host"
    (getNextPBMFrame fonts (getNextPBMFrame fonts start callWithRoute) callWithoutRoute).frame =
      (getNextPBMFrame fonts { start with everLocked := true, currentRate := .NET_TX }
        callWithoutRoute).frame := by
  have hempty : ∀ p, bitAt (List.replicate 960 0) p = false := by
    intro p
    by_cases hp : p / 8 < 960
    · rw [bitAt, List.getD_replicate _ hp]
      exact Nat.zero_testBit _
    · rw [bitAt, List.getD_eq_default _ _ (List.length_replicate.trans_le (not_lt.mp hp))]
      exact Nat.zero_testBit _
  have hroute : ModerateRates callWithRoute := by
    intro n hn
    have hmake : NetSnapshots.make callWithRoute.netFiles = .ok ⟨990, 990⟩ := rfl
    obtain rfl := Except.ok.inj (hn.symm.trans hmake)
    exact ⟨by decide, by decide⟩
  have herror : ModerateRates callWithoutRoute := by
    intro n hn
    cases hn
  have hdirection : directionAfter [callWithRoute] = .NET_TX := by decide
  have hlocked : [callWithRoute].any (·.lockedPlugin) = true := rfl
  have hshown := SystemMonitor.getNextPBMFrame_run ⟨fun _ => .ok (List.replicate 960 0)⟩
    (List.replicate 960 0) rfl List.length_replicate
    (fun charX charY _ i _ k _ => hempty _) (List.replicate 960 0) List.length_replicate
    (fun x y _ _ _ _ => hempty _) "host" [callWithRoute] (List.forall_mem_singleton.mpr hroute)
    callWithoutRoute herror
  rw [hdirection, hlocked] at hshown
  exact hshown

end GLogiK
