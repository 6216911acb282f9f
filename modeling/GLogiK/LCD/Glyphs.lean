import GLogiK.LCD.PBMFont
import Mathlib.Tactic.IntervalCases

/-!
# Printed characters

A line of a character is cut out of one or two bytes of the font, and is put into one or two bytes
of the frame. Bit by bit, a printed cell is the cell of the font.
-/

namespace GLogiK

open Actions Bitmap

namespace PBMFont

variable {font : PBMFont} {charX charY line charByte k : ℕ}

/-! ### Cutting a line out of the font -/

/-- The size of the bitmap. -/
def bitmapBytes (font : PBMFont) : ℕ := font.PBMWidth.toNat / 8 * font.PBMHeight.toNat

lemma bitmapBytes_font (id : FontID) (PBMData : PixelsData) :
    (id.font PBMData).bitmapBytes = if id = .DEJAVUSANSBOLD1616 then 3328 else 960 := by
  cases id <;> simp [bitmapBytes, FontID.font, FontMonospace85, FontMonospace86,
    FontDejaVuSansBold1616]

lemma charBytes_font (id : FontID) (PBMData : PixelsData) :
    (id.font PBMData).charBytes = if id = .DEJAVUSANSBOLD1616 then 2 else 1 := by
  cases id <;> simp [charBytes, FontID.font, FontMonospace85, FontMonospace86,
    FontDejaVuSansBold1616]

lemma shiftCharBase_font (id : FontID) (PBMData : PixelsData) :
    (id.font PBMData).shiftCharBase =
      if id = .DEJAVUSANSBOLD1616 then 8 else (id.font PBMData).charWidth.toNat := by
  cases id <;> simp [shiftCharBase, FontID.font, FontMonospace85, FontMonospace86,
    FontDejaVuSansBold1616]

/-- The bytes of a line hold the whole line, and all of them but the last are full. -/
lemma shiftCharBase_mul (id : FontID) (PBMData : PixelsData) {j : ℕ}
    (hj : j < (id.font PBMData).charBytes) :
    (id.font PBMData).shiftCharBase * j = 8 * j ∧
      (id.font PBMData).shiftCharBase * (j + 1) ≤ (id.font PBMData).charWidth.toNat := by
  rw [charBytes_font] at hj
  rw [shiftCharBase_font]
  cases id
  case MONOSPACE85 =>
    obtain rfl : j = 0 := Nat.lt_one_iff.mp hj
    exact ⟨rfl, le_refl 5⟩
  case MONOSPACE86 =>
    obtain rfl : j = 0 := Nat.lt_one_iff.mp hj
    exact ⟨rfl, le_refl 6⟩
  case DEJAVUSANSBOLD1616 =>
    change j < 2 at hj
    change 8 * j = 8 * j ∧ 8 * (j + 1) ≤ 16
    omega

lemma shiftCharBase_mul_charBytes (id : FontID) (PBMData : PixelsData) :
    (id.font PBMData).shiftCharBase * (id.font PBMData).charBytes =
      (id.font PBMData).charWidth.toNat := by
  rw [shiftCharBase_font, charBytes_font]
  cases id <;> rfl

lemma shiftCharBase_le (id : FontID) (PBMData : PixelsData) :
    0 < (id.font PBMData).shiftCharBase ∧ (id.font PBMData).shiftCharBase ≤ 8 := by
  rw [shiftCharBase_font]
  cases id
  case MONOSPACE85 => exact ⟨Nat.succ_pos 4, le_of_eq_of_le rfl (by decide : 5 ≤ 8)⟩
  case MONOSPACE86 => exact ⟨Nat.succ_pos 5, le_of_eq_of_le rfl (by decide : 6 ≤ 8)⟩
  case DEJAVUSANSBOLD1616 => exact ⟨Nat.succ_pos 7, le_refl 8⟩

/-- The first bit of a line of a character. -/
def lineStart (font : PBMFont) (charX charY line : ℕ) : ℕ :=
  font.PBMWidth.toNat * (font.charHeight.toNat * charY + line) + font.charWidth.toNat * charX

lemma testBit_byteAt {index : ℕ} (f : ℕ → ℕ) (h : index < font.PBMData.length) :
    (font.byteAt index f).toNat.testBit k =
      (decide (k < 8) && (f (font.PBMData.getD index 0).toNat).testBit k) := by
  rw [byteAt, List.getElem?_eq_getElem h, Option.elim_some, testBit_toNat_ofNat,
    List.getD_eq_getElem _ _ h]

lemma testBit_bytesAt {index : ℕ} (f : ℕ → ℕ → ℕ) (h : index + 1 < font.PBMData.length) :
    (font.bytesAt index f).toNat.testBit k = (decide (k < 8) &&
      (f (font.PBMData.getD index 0).toNat (font.PBMData.getD (index + 1) 0).toNat).testBit k) := by
  rw [bytesAt, List.getElem?_eq_getElem h, Option.elim_some, testBit_toNat_ofNat,
    List.getD_eq_getElem _ _ h]

/-- A bit of two bytes, one after another. -/
def pairBit (byte next : UInt8) (t : ℕ) : Bool :=
  if t < 8 then byte.toNat.testBit (7 - t) else next.toNat.testBit (15 - t)

lemma bitAt_eq_pairBit (data : PixelsData) (p : ℕ) {t : ℕ} (ht : p % 8 + t < 16) :
    bitAt data (p + t) =
      pairBit (data.getD (p / 8) 0) (data.getD (p / 8 + 1) 0) (p % 8 + t) := by
  rw [bitAt, pairBit]
  by_cases hfirst : p % 8 + t < 8
  · have hbyte : (p + t) / 8 = p / 8 := by omega
    have hbit : (p + t) % 8 = p % 8 + t := by omega
    rw [if_pos hfirst, hbyte, hbit]
  · have hbyte : (p + t) / 8 = p / 8 + 1 := by omega
    have hbit : 7 - (p + t) % 8 = 15 - (p % 8 + t) := by omega
    rw [if_neg hfirst, hbyte, hbit]

/-- Each way of cutting six bits out of two bytes. -/
lemma testBit_cut6 (byte next : UInt8) (hk : k < 8) :
    (byte.toNat >>> 2).testBit k = (decide (k < 6) && pairBit byte next (0 + (5 - k))) ∧
    (next.toNat >>> 4 ||| (byte.toNat &&& 0b00000011) <<< 4).testBit k =
      (decide (k < 6) && pairBit byte next (6 + (5 - k))) ∧
    (next.toNat >>> 6 ||| (byte.toNat &&& 0b00001111) <<< 2).testBit k =
      (decide (k < 6) && pairBit byte next (4 + (5 - k))) ∧
    (byte.toNat &&& 0b00111111).testBit k =
      (decide (k < 6) && pairBit byte next (2 + (5 - k))) := by
  interval_cases k <;> simp +decide [pairBit, testBit_byte_of_le]

/-- Each way of cutting five bits out of two bytes. -/
lemma testBit_cut5 (byte next : UInt8) (hk : k < 8) :
    (byte.toNat >>> 3).testBit k = (decide (k < 5) && pairBit byte next (0 + (4 - k))) ∧
    (next.toNat >>> 6 ||| (byte.toNat &&& 0b00000111) <<< 2).testBit k =
      (decide (k < 5) && pairBit byte next (5 + (4 - k))) ∧
    ((byte.toNat &&& 0b00111110) >>> 1).testBit k =
      (decide (k < 5) && pairBit byte next (2 + (4 - k))) ∧
    (next.toNat >>> 4 ||| (byte.toNat &&& 0b00000001) <<< 4).testBit k =
      (decide (k < 5) && pairBit byte next (7 + (4 - k))) ∧
    (next.toNat >>> 7 ||| (byte.toNat &&& 0b00001111) <<< 1).testBit k =
      (decide (k < 5) && pairBit byte next (4 + (4 - k))) ∧
    ((byte.toNat &&& 0b01111100) >>> 2).testBit k =
      (decide (k < 5) && pairBit byte next (1 + (4 - k))) ∧
    (next.toNat >>> 5 ||| (byte.toNat &&& 0b00000011) <<< 3).testBit k =
      (decide (k < 5) && pairBit byte next (6 + (4 - k))) ∧
    (byte.toNat &&& 0b00011111).testBit k =
      (decide (k < 5) && pairBit byte next (3 + (4 - k))) := by
  interval_cases k <;> simp +decide [pairBit, testBit_byte_of_le, -Nat.and_one_is_mod]

/-- A character of the map, a line of it, and a bitmap that is large enough. -/
lemma lineIndex_toNat (id : FontID) {PBMData : PixelsData} (hX : charX < 26) (hY : charY < 3)
    (hline : line < (id.font PBMData).charHeight.toNat) :
    ((id.font PBMData).lineIndex charX charY line).toNat =
      (id.font PBMData).lineStart charX charY line / 8 := by
  rw [lineIndex, lineStart]
  cases id
  case MONOSPACE85 =>
    change line < 10 at hline
    change (UInt16.ofNat (charY * 10 * (160 / 8) + charX * 5 / 8 + line * (160 / 8))).toNat =
      (160 * (10 * charY + line) + 5 * charX) / 8
    rw [UInt16.toNat_ofNat_of_lt' (by rw [UInt16.size]; omega)]
    omega
  case MONOSPACE86 =>
    change line < 10 at hline
    change (UInt16.ofNat (charY * 10 * (160 / 8) + charX * 6 / 8 + line * (160 / 8))).toNat =
      (160 * (10 * charY + line) + 6 * charX) / 8
    rw [UInt16.toNat_ofNat_of_lt' (by rw [UInt16.size]; omega)]
    omega
  case DEJAVUSANSBOLD1616 =>
    change line < 16 at hline
    change (UInt16.ofNat (charY * 16 * (416 / 8) + charX * 16 / 8 + line * (416 / 8))).toNat =
      (416 * (16 * charY + line) + 16 * charX) / 8
    rw [UInt16.toNat_ofNat_of_lt' (by rw [UInt16.size]; omega)]
    omega

/-- The bits of a line of a character that is six pixels wide. -/
lemma testBit_getCharacterLine_six (hwidth : font.charWidth = 6)
    (hindex : (font.lineIndex charX charY line).toNat = font.lineStart charX charY line / 8)
    (hstart : font.lineStart charX charY line % 8 = 6 * charX % 8)
    (hrange : font.lineStart charX charY line / 8 + 1 < font.PBMData.length) (hk : k < 8) :
    (font.getCharacterLine charX charY line charByte).toNat.testBit k =
      (decide (k < 6) && bitAt font.PBMData (font.lineStart charX charY line + (5 - k))) := by
  have hpair := @bitAt_eq_pairBit font.PBMData (font.lineStart charX charY line) (5 - k) (by omega)
  have hcut := testBit_cut6 (font.PBMData.getD (font.lineStart charX charY line / 8) 0)
    (font.PBMData.getD (font.lineStart charX charY line / 8 + 1) 0) hk
  have hcases : charX % 4 = 0 ∨ charX % 4 = 1 ∨ charX % 4 = 2 ∨ charX % 4 = 3 := by omega
  rw [hpair, hstart, getCharacterLine, hindex, if_pos hwidth]
  obtain h0 | h1 | h2 | h3 := hcases
  · have hshift : 6 * charX % 8 = 0 := by omega
    simp only [h0, hshift, testBit_byteAt _ (Nat.lt_of_succ_lt hrange), hcut.1, hk, decide_true,
      Bool.true_and]
  · have hshift : 6 * charX % 8 = 6 := by omega
    simp only [h1, hshift, testBit_bytesAt _ hrange, hcut.2.1, hk, decide_true, Bool.true_and]
  · have hshift : 6 * charX % 8 = 4 := by omega
    simp only [h2, hshift, testBit_bytesAt _ hrange, hcut.2.2.1, hk, decide_true, Bool.true_and]
  · have hshift : 6 * charX % 8 = 2 := by omega
    simp only [h3, hshift, testBit_byteAt _ (Nat.lt_of_succ_lt hrange), hcut.2.2.2, hk,
      decide_true, Bool.true_and]

/-- The bits of a line of a character that is five pixels wide. -/
lemma testBit_getCharacterLine_five (hwidth : font.charWidth = 5)
    (hindex : (font.lineIndex charX charY line).toNat = font.lineStart charX charY line / 8)
    (hstart : font.lineStart charX charY line % 8 = 5 * charX % 8)
    (hrange : font.lineStart charX charY line / 8 + 1 < font.PBMData.length) (hk : k < 8) :
    (font.getCharacterLine charX charY line charByte).toNat.testBit k =
      (decide (k < 5) && bitAt font.PBMData (font.lineStart charX charY line + (4 - k))) := by
  have hpair := @bitAt_eq_pairBit font.PBMData (font.lineStart charX charY line) (4 - k) (by omega)
  obtain ⟨hcut0, hcut1, hcut2, hcut3, hcut4, hcut5, hcut6, hcut7⟩ :=
    testBit_cut5 (font.PBMData.getD (font.lineStart charX charY line / 8) 0)
      (font.PBMData.getD (font.lineStart charX charY line / 8 + 1) 0) hk
  have hnot : ¬ font.charWidth = 6 := by
    rw [hwidth]
    decide
  have hbyte := fun f => @testBit_byteAt font k _ f (Nat.lt_of_succ_lt hrange)
  have hbytes := fun f => @testBit_bytesAt font k _ f hrange
  have hcases : charX % 8 = 0 ∨ charX % 8 = 1 ∨ charX % 8 = 2 ∨ charX % 8 = 3 ∨ charX % 8 = 4 ∨
      charX % 8 = 5 ∨ charX % 8 = 6 ∨ charX % 8 = 7 := by omega
  rw [hpair, hstart, getCharacterLine, hindex, if_neg hnot, if_pos hwidth]
  simp only [hk, decide_true, Bool.true_and] at hbyte hbytes
  obtain h0 | h1 | h2 | h3 | h4 | h5 | h6 | h7 := hcases
  · have hshift : 5 * charX % 8 = 0 := by omega
    simp only [h0, hshift, hbyte, hcut0]
  · have hshift : 5 * charX % 8 = 5 := by omega
    simp only [h1, hshift, hbytes, hcut1]
  · have hshift : 5 * charX % 8 = 2 := by omega
    simp only [h2, hshift, hbyte, hcut2]
  · have hshift : 5 * charX % 8 = 7 := by omega
    simp only [h3, hshift, hbytes, hcut3]
  · have hshift : 5 * charX % 8 = 4 := by omega
    simp only [h4, hshift, hbytes, hcut4]
  · have hshift : 5 * charX % 8 = 1 := by omega
    simp only [h5, hshift, hbyte, hcut5]
  · have hshift : 5 * charX % 8 = 6 := by omega
    simp only [h6, hshift, hbytes, hcut6]
  · have hshift : 5 * charX % 8 = 3 := by omega
    simp only [h7, hshift, hbyte, hcut7]

/-- The bits of a byte of a line of a character that fills whole bytes. -/
lemma testBit_getCharacterLine_sixteen (hwidth : font.charWidth = 16)
    (hindex : (font.lineIndex charX charY line).toNat = font.lineStart charX charY line / 8)
    (hstart : font.lineStart charX charY line % 8 = 0)
    (hrange : font.lineStart charX charY line / 8 + charByte < font.PBMData.length) (hk : k < 8) :
    (font.getCharacterLine charX charY line charByte).toNat.testBit k =
      bitAt font.PBMData (font.lineStart charX charY line + 8 * charByte + (7 - k)) := by
  have hsix : ¬ font.charWidth = 6 := by
    rw [hwidth]
    decide
  have hfive : ¬ font.charWidth = 5 := by
    rw [hwidth]
    decide
  have hbytes : font.charWidth.toNat % 8 = 0 := by
    rw [hwidth]
    decide
  have hbyte : (font.lineStart charX charY line + 8 * charByte + (7 - k)) / 8 =
      font.lineStart charX charY line / 8 + charByte := by omega
  have hbit : 7 - (font.lineStart charX charY line + 8 * charByte + (7 - k)) % 8 = k := by omega
  rw [getCharacterLine, hindex, if_neg hsix, if_neg hfive, if_pos hbytes, testBit_byteAt _ hrange,
    bitAt, hbyte, hbit, decide_eq_true hk, Bool.true_and]
  rfl

/-- The bits of a byte of a line, of each font. -/
lemma testBit_getCharacterLine (id : FontID) {PBMData : PixelsData}
    (hdata : PBMData.length = (id.font PBMData).bitmapBytes) (hX : charX < 26) (hY : charY < 3)
    (hline : line < (id.font PBMData).charHeight.toNat)
    (hbyte : charByte < (id.font PBMData).charBytes) (hk : k < 8) :
    ((id.font PBMData).getCharacterLine charX charY line charByte).toNat.testBit k =
      (decide (k < (id.font PBMData).shiftCharBase) &&
        bitAt PBMData ((id.font PBMData).lineStart charX charY line +
          (id.font PBMData).shiftCharBase * charByte +
          ((id.font PBMData).shiftCharBase - 1 - k))) := by
  have hindex := lineIndex_toNat id hX hY hline
  rw [bitmapBytes_font] at hdata
  rw [charBytes_font] at hbyte
  cases id
  case MONOSPACE85 =>
    have hstart : (FontID.MONOSPACE85.font PBMData).lineStart charX charY line =
        160 * (10 * charY + line) + 5 * charX := rfl
    have hlength : PBMData.length = 960 := hdata
    obtain rfl : charByte = 0 := Nat.lt_one_iff.mp hbyte
    change line < 10 at hline
    have hrange : (160 * (10 * charY + line) + 5 * charX) / 8 + 1 < PBMData.length := by omega
    rw [hstart] at hindex
    exact testBit_getCharacterLine_five rfl hindex (by omega) hrange hk
  case MONOSPACE86 =>
    have hstart : (FontID.MONOSPACE86.font PBMData).lineStart charX charY line =
        160 * (10 * charY + line) + 6 * charX := rfl
    have hlength : PBMData.length = 960 := hdata
    obtain rfl : charByte = 0 := Nat.lt_one_iff.mp hbyte
    change line < 10 at hline
    have hrange : (160 * (10 * charY + line) + 6 * charX) / 8 + 1 < PBMData.length := by omega
    rw [hstart] at hindex
    exact testBit_getCharacterLine_six rfl hindex (by omega) hrange hk
  case DEJAVUSANSBOLD1616 =>
    have hstart : (FontID.DEJAVUSANSBOLD1616.font PBMData).lineStart charX charY line =
        416 * (16 * charY + line) + 16 * charX := rfl
    have hlength : PBMData.length = 3328 := hdata
    have hbase : (FontID.DEJAVUSANSBOLD1616.font PBMData).shiftCharBase = 8 :=
      shiftCharBase_font _ _
    change charByte < 2 at hbyte
    change line < 16 at hline
    have hrange : (416 * (16 * charY + line) + 16 * charX) / 8 + charByte < PBMData.length := by
      omega
    rw [hstart] at hindex
    rw [hbase, decide_eq_true hk, Bool.true_and]
    exact testBit_getCharacterLine_sixteen rfl hindex (by omega) hrange hk

/-! ### Putting a byte into the frame -/

lemma changeAt_ok {frame : PixelsData} {index i : ℕ} (f : ℕ → ℕ) (hi : i < frame.length) :
    changeAt index i f frame = (.ok (), frame.modify i fun byte => .ofNat (f byte.toNat)) :=
  if_pos hi

/-- The bits of the frame after a byte was printed at bit `p₀`. -/
structure BytePrinted (frame frame' : PixelsData) (p₀ base : ℕ) (c : UInt8) : Prop where
  length : frame'.length = frame.length
  before : ∀ p < p₀, bitAt frame' p = bitAt frame p
  bits : ∀ k < base, bitAt frame' (p₀ + k) = c.toNat.testBit (base - 1 - k)
  after : ∀ p, (p₀ + base - 1) / 8 < p / 8 → bitAt frame' p = bitAt frame p

lemma testBit_mask {n k : ℕ} (hn : n ≤ 8) (hk : k < 8) :
    (0b11111111 <<< n).testBit k = decide (n ≤ k) := by
  interval_cases n <;> interval_cases k <;> rfl

/-- The next byte of the frame is needed. -/
lemma printByte_right {frame : PixelsData} {c : UInt8} {index o base : ℕ} (ho : o < 8)
    (hbase8 : base ≤ 8) (hright : 8 < o + base)
    (hc : ∀ k, base ≤ k → c.toNat.testBit k = false) (hnext : index + 1 < frame.length) :
    ∃ frame', printByte c index (8 - o) (base - ((8 - o : ℕ) : ℤ)) frame =
        (.ok (), frame') ∧
      BytePrinted frame frame' (8 * index + o) base c := by
  have hindex : index < frame.length := Nat.lt_of_succ_lt hnext
  have hpos : (base : ℤ) - ((8 - o : ℕ) : ℤ) > 0 := by omega
  have hshift : ((base : ℤ) - ((8 - o : ℕ) : ℤ)).toNat = o + base - 8 := by omega
  have hleft : (8 - ((base : ℤ) - ((8 - o : ℕ) : ℤ))).toNat = 16 - o - base := by omega
  rw [printByte, bind_of_ok (changeAt_ok _ hindex), if_pos hpos, hshift, hleft,
    bind_of_ok (changeAt_ok _ (by simpa using hnext)), changeAt_ok _ (by simpa using hindex)]
  refine ⟨_, rfl, by simp, fun p hp => ?_, fun k hk => ?_, fun p hp => ?_⟩
  all_goals rw [bitAt_modify_or _ (by simpa using hindex),
    bitAt_modify_const _ (by simpa using hnext), bitAt_modify_and _ hindex]
  · rw [if_neg (by omega)]
    by_cases hp8 : p / 8 = index
    · have hzero : (c.toNat >>> (o + base - 8)).testBit (7 - p % 8) = false := by
        rw [Nat.testBit_shiftRight]
        exact hc _ (by omega)
      have hkept : 8 - o ≤ 7 - p % 8 := by omega
      rw [hzero, testBit_mask (Nat.sub_le 8 o) (by omega), decide_eq_true hkept]
      simp
    · simp [hp8]
  · by_cases hk8 : (8 * index + o + k) / 8 = index
    · have hcut : ¬ 8 - o ≤ 7 - (8 * index + o + k) % 8 := by omega
      have hbit : o + base - 8 + (7 - (8 * index + o + k) % 8) = base - 1 - k := by omega
      rw [if_neg (by omega), testBit_mask (Nat.sub_le 8 o) (by omega), decide_eq_false hcut,
        Nat.testBit_shiftRight, hbit]
      simp [hk8]
    · have hplace : 16 - o - base ≤ 7 - (8 * index + o + k) % 8 := by omega
      have hbit : 7 - (8 * index + o + k) % 8 - (16 - o - base) = base - 1 - k := by omega
      rw [if_pos (by omega), Nat.testBit_shiftLeft, decide_eq_true hplace, hbit]
      simp [hk8]
  · have hp8 : p / 8 ≠ index := by omega
    rw [if_neg (by omega)]
    simp [hp8]

/-- The byte of the frame has enough place. -/
lemma printByte_left {frame : PixelsData} {c : UInt8} {index o base : ℕ} (hbase : 0 < base)
    (hleft : o + base ≤ 8) (hc : ∀ k, base ≤ k → c.toNat.testBit k = false)
    (hindex : index < frame.length) :
    ∃ frame', printByte c index (8 - o) (base - ((8 - o : ℕ) : ℤ)) frame =
        (.ok (), frame') ∧
      BytePrinted frame frame' (8 * index + o) base c := by
  have hpos : ¬ (base : ℤ) - ((8 - o : ℕ) : ℤ) > 0 := by omega
  have hshift : (-((base : ℤ) - ((8 - o : ℕ) : ℤ))).toNat = 8 - o - base := by omega
  rw [printByte, bind_of_ok (changeAt_ok _ hindex), if_neg hpos, hshift,
    changeAt_ok _ (by simpa using hindex)]
  refine ⟨_, rfl, by simp, fun p hp => ?_, fun k hk => ?_, fun p hp => ?_⟩
  all_goals rw [bitAt_modify_or _ (by simpa using hindex), bitAt_modify_and _ hindex]
  · by_cases hp8 : p / 8 = index
    · have hzero : (c.toNat <<< (8 - o - base)).testBit (7 - p % 8) = false := by
        rw [Nat.testBit_shiftLeft, hc _ (by omega), Bool.and_false]
      have hkept : 8 - o ≤ 7 - p % 8 := by omega
      rw [hzero, testBit_mask (Nat.sub_le 8 o) (by omega), decide_eq_true hkept]
      simp
    · simp [hp8]
  · have hk8 : (8 * index + o + k) / 8 = index := by omega
    have hcut : ¬ 8 - o ≤ 7 - (8 * index + o + k) % 8 := by omega
    have hplace : 8 - o - base ≤ 7 - (8 * index + o + k) % 8 := by omega
    have hbit : 7 - (8 * index + o + k) % 8 - (8 - o - base) = base - 1 - k := by omega
    rw [testBit_mask (Nat.sub_le 8 o) (by omega), decide_eq_false hcut, Nat.testBit_shiftLeft,
      decide_eq_true hplace, hbit]
    simp [hk8]
  · have hp8 : p / 8 ≠ index := by omega
    simp [hp8]

lemma printByte_ok {frame : PixelsData} {c : UInt8} {index o base : ℕ} (ho : o < 8)
    (hbase : 0 < base) (hbase8 : base ≤ 8) (hc : ∀ k, base ≤ k → c.toNat.testBit k = false)
    (hend : (8 * index + o + base - 1) / 8 < frame.length) :
    ∃ frame', printByte c index (8 - o) (base - ((8 - o : ℕ) : ℤ)) frame =
        (.ok (), frame') ∧
      BytePrinted frame frame' (8 * index + o) base c := by
  by_cases hright : 8 < o + base
  · exact printByte_right ho hbase8 hright hc (by omega)
  · exact printByte_left hbase (not_lt.mp hright) hc (by omega)

/-! ### Lines and cells -/

/-- A line of a character is in the frame. -/
structure LinePrinted (frame frame' : PixelsData) (x y n : ℕ) (line : ℕ → Bool) : Prop where
  length : frame'.length = frame.length
  before : ∀ p < 160 * y + x, bitAt frame' p = bitAt frame p
  bits : ∀ k < n, bitAt frame' (160 * y + x + k) = line k
  after : ∀ p ≥ 160 * (y + 1), bitAt frame' p = bitAt frame p

lemma LinePrinted.refl (frame : PixelsData) (x y : ℕ) (line : ℕ → Bool) :
    LinePrinted frame frame x y 0 line :=
  ⟨rfl, fun _ _ => rfl, fun _ hk => absurd hk (Nat.not_lt_zero _), fun _ _ => rfl⟩

lemma LinePrinted.step {frame frame' frame'' : PixelsData} {x y n base : ℕ} {line : ℕ → Bool}
    {c : UInt8} (h : LinePrinted frame frame' x y n line) (hbase : 0 < base)
    (hx : x + n + base ≤ 160) (hbyte : BytePrinted frame' frame'' (160 * y + x + n) base c)
    (hc : ∀ k < base, c.toNat.testBit (base - 1 - k) = line (n + k)) :
    LinePrinted frame frame'' x y (n + base) line where
  length := hbyte.length.trans h.length
  before p hp := (hbyte.before p (by omega)).trans (h.before p hp)
  bits k hk := by
    by_cases hkn : k < n
    · exact (hbyte.before _ (by omega)).trans (h.bits k hkn)
    · obtain ⟨i, rfl⟩ := Nat.exists_eq_add_of_le (not_lt.mp hkn)
      have hi : i < base := by omega
      rw [← Nat.add_assoc, hbyte.bits i hi, hc i hi]
  after p hp := (hbyte.after p (by omega)).trans (h.after p hp)

/-- Lines of a character are in the frame, one below another. -/
structure CellPrinted (frame frame' : PixelsData) (x y width n : ℕ) (cell : ℕ → ℕ → Bool) :
    Prop where
  length : frame'.length = frame.length
  bits : ∀ i < n, ∀ k < width, bitAt frame' (160 * (y + i) + x + k) = cell i k
  others : ∀ p, p < 160 * y ∨ 160 * (y + n) ≤ p ∨ p % 160 < x → bitAt frame' p = bitAt frame p

lemma CellPrinted.refl (frame : PixelsData) (x y width : ℕ) (cell : ℕ → ℕ → Bool) :
    CellPrinted frame frame x y width 0 cell :=
  ⟨rfl, fun _ hi => absurd hi (Nat.not_lt_zero _), fun _ _ => rfl⟩

lemma CellPrinted.step {frame frame' frame'' : PixelsData} {x y width n : ℕ}
    {cell : ℕ → ℕ → Bool} (h : CellPrinted frame frame' x y width n cell) (hx : x + width ≤ 160)
    (hline : LinePrinted frame' frame'' x (y + n) width (cell n)) :
    CellPrinted frame frame'' x y width (n + 1) cell where
  length := hline.length.trans h.length
  bits i hi k hk := by
    rcases Nat.lt_succ_iff_lt_or_eq.mp hi with hlt | rfl
    · exact (hline.before _ (by omega)).trans (h.bits i hlt k hk)
    · exact hline.bits k hk
  others p hp := by
    by_cases hbefore : p < 160 * (y + n) + x
    · exact (hline.before p hbefore).trans (h.others p (by omega))
    · exact (hline.after p (by omega)).trans (h.others p (by omega))

section

variable {PBMData : PixelsData} (id : FontID)

/-- The pixels of a character in the bitmap. -/
def charPixel (font : PBMFont) (charX charY i k : ℕ) : Bool :=
  bitAt font.PBMData (font.lineStart charX charY i + k)

variable {PBMXPos PBMYPos : UInt16} {i j : ℕ} {frame frame' : PixelsData}

/-- The index is no larger than a frame. -/
lemma index_toNat (h : 20 * (PBMYPos.toNat + i) + PBMXPos.toNat / 8 + j < 960) :
    (UInt16.ofNat (DEFAULT_PBM_WIDTH_IN_BYTES * (PBMYPos.toNat + i) + PBMXPos.toNat / 8 +
      j)).toNat =
      20 * (PBMYPos.toNat + i) + PBMXPos.toNat / 8 + j :=
  UInt16.toNat_ofNat_of_lt' (h.trans (by decide))

lemma printLineByte_ok (hdata : PBMData.length = (id.font PBMData).bitmapBytes) (hX : charX < 26)
    (hY : charY < 3) (hi : i < (id.font PBMData).charHeight.toNat)
    (hj : j < (id.font PBMData).charBytes) (hframe : frame.length = 960)
    (hx : PBMXPos.toNat + (id.font PBMData).charWidth.toNat < 160)
    (hy : PBMYPos.toNat + (id.font PBMData).charHeight.toNat < 43)
    (hframe' : LinePrinted frame frame' PBMXPos.toNat (PBMYPos.toNat + i)
      ((id.font PBMData).shiftCharBase * j) ((id.font PBMData).charPixel charX charY i)) :
    ∃ frame'', (id.font PBMData).printLineByte charX charY PBMXPos PBMYPos i j frame' =
        (.ok (), frame'') ∧
      LinePrinted frame frame'' PBMXPos.toNat (PBMYPos.toNat + i)
        ((id.font PBMData).shiftCharBase * (j + 1))
        ((id.font PBMData).charPixel charX charY i) := by
  obtain ⟨hmul, hle⟩ := shiftCharBase_mul id PBMData hj
  obtain ⟨hbase, hbase8⟩ := shiftCharBase_le id PBMData
  have hbits := fun k (hk : k < 8) => testBit_getCharacterLine id hdata hX hY hi hj hk
  rw [Nat.mul_succ] at hle ⊢
  rw [hmul] at hbits hle hframe' ⊢
  have hlength := hframe'.length.trans hframe
  have hindex := @index_toNat PBMXPos PBMYPos i j (by omega)
  have hstart : 8 * (20 * (PBMYPos.toNat + i) + PBMXPos.toNat / 8 + j) + PBMXPos.toNat % 8 =
      160 * (PBMYPos.toNat + i) + PBMXPos.toNat + 8 * j := by omega
  have hhigh : ∀ k, (id.font PBMData).shiftCharBase ≤ k →
      ((id.font PBMData).getCharacterLine charX charY i j).toNat.testBit k = false := by
    intro k hk
    by_cases hk8 : k < 8
    · rw [hbits k hk8, decide_eq_false (not_lt.mpr hk), Bool.false_and]
    · exact testBit_byte_of_le _ (not_lt.mp hk8)
  obtain ⟨frame'', hok, hbyte⟩ := @printByte_ok frame'
    ((id.font PBMData).getCharacterLine charX charY i j)
    (20 * (PBMYPos.toNat + i) + PBMXPos.toNat / 8 + j) (PBMXPos.toNat % 8)
    (id.font PBMData).shiftCharBase (Nat.mod_lt _ (by decide)) hbase hbase8 hhigh (by omega)
  rw [hstart] at hbyte
  refine ⟨frame'', ?_, hframe'.step hbase (by omega) hbyte fun k hk => ?_⟩
  · rw [printLineByte, hindex]
    exact hok
  · have hbit : (id.font PBMData).shiftCharBase - 1 - ((id.font PBMData).shiftCharBase - 1 - k) =
        k := by omega
    rw [hbits _ (by omega), hbit, decide_eq_true (by omega), Bool.true_and, charPixel,
      Nat.add_assoc]
    cases id <;> rfl

lemma printLine_ok (hdata : PBMData.length = (id.font PBMData).bitmapBytes) (hX : charX < 26)
    (hY : charY < 3) (hi : i < (id.font PBMData).charHeight.toNat) (hframe : frame.length = 960)
    (hx : PBMXPos.toNat + (id.font PBMData).charWidth.toNat < 160)
    (hy : PBMYPos.toNat + (id.font PBMData).charHeight.toNat < 43) :
    ∃ frame', (id.font PBMData).printLine charX charY PBMXPos PBMYPos i frame = (.ok (), frame') ∧
      LinePrinted frame frame' PBMXPos.toNat (PBMYPos.toNat + i)
        (id.font PBMData).charWidth.toNat ((id.font PBMData).charPixel charX charY i) := by
  obtain ⟨frame', hok, hline⟩ := forM_range_ok
    (fun j frame' => LinePrinted frame frame' PBMXPos.toNat (PBMYPos.toNat + i)
      ((id.font PBMData).shiftCharBase * j) ((id.font PBMData).charPixel charX charY i)) _
    (fun j hj _ => printLineByte_ok id hdata hX hY hi hj hframe hx hy)
    (LinePrinted.refl frame _ _ _)
  rw [shiftCharBase_mul_charBytes] at hline
  exact ⟨frame', hok, hline⟩

lemma printLines_ok (hdata : PBMData.length = (id.font PBMData).bitmapBytes) (hX : charX < 26)
    (hY : charY < 3) (hframe : frame.length = 960)
    (hx : PBMXPos.toNat + (id.font PBMData).charWidth.toNat < 160)
    (hy : PBMYPos.toNat + (id.font PBMData).charHeight.toNat < 43) :
    ∃ frame', (id.font PBMData).printLines charX charY PBMXPos PBMYPos frame = (.ok (), frame') ∧
      CellPrinted frame frame' PBMXPos.toNat PBMYPos.toNat (id.font PBMData).charWidth.toNat
        (id.font PBMData).charHeight.toNat ((id.font PBMData).charPixel charX charY) := by
  refine forM_range_ok
    (fun i frame' => CellPrinted frame frame' PBMXPos.toNat PBMYPos.toNat
      (id.font PBMData).charWidth.toNat i ((id.font PBMData).charPixel charX charY)) _
    (fun i hi frame' hcell => ?_) (CellPrinted.refl frame _ _ _ _)
  obtain ⟨frame'', hok, hline⟩ :=
    printLine_ok id hdata hX hY hi (hcell.length.trans hframe) hx hy
  exact ⟨frame'', hok, hcell.step hx.le hline⟩

end

/-! ### Characters -/

lemma charsMap_font (id : FontID) (PBMData : PixelsData) :
    (id.font PBMData).charsMap = defaultCharsMap := by
  cases id <;> rfl

lemma lookup_defaultCharsMap {character : Char}
    (h : defaultCharsMap.lookup character = some (charX, charY)) : charX < 26 ∧ charY < 3 := by
  have hall : ∀ entry ∈ defaultCharsMap, entry.2.1 < 26 ∧ entry.2.2 < 3 := by decide
  obtain ⟨before, after, hmap, -⟩ := List.lookup_eq_some_iff.mp h
  exact hall (character, charX, charY) (hmap ▸ List.mem_append_right _ List.mem_cons_self)

/-- All the positions that are not too near to the borders are accepted. -/
lemma printCharacterOnFrame_ok (id : FontID) {PBMData : PixelsData} {character : Char}
    {frame : PixelsData} {PBMXPos PBMYPos : UInt16}
    (hdata : PBMData.length = (id.font PBMData).bitmapBytes)
    (hchar : (id.font PBMData).charsMap.lookup character = some (charX, charY))
    (hframe : frame.length = DEFAULT_PBM_DATA_IN_BYTES)
    (hx : PBMXPos.toNat + (id.font PBMData).charWidth.toNat < LCD_SCREEN_WIDTH)
    (hy : PBMYPos.toNat + (id.font PBMData).charHeight.toNat < LCD_SCREEN_HEIGHT) :
    ∃ frame', (id.font PBMData).printCharacterOnFrame character PBMYPos ⟨frame, PBMXPos⟩ =
        (.ok (), ⟨frame', (id.font PBMData).nextXPos character PBMXPos⟩) ∧
      CellPrinted frame frame' PBMXPos.toNat PBMYPos.toNat (id.font PBMData).charWidth.toNat
        (id.font PBMData).charHeight.toNat ((id.font PBMData).charPixel charX charY) := by
  have hmap := charsMap_font id PBMData ▸ hchar
  obtain ⟨hX, hY⟩ := lookup_defaultCharsMap hmap
  obtain ⟨frame', hok, hcell⟩ := printLines_ok id hdata hX hY hframe hx hy
  refine ⟨frame', ?_, hcell⟩
  simp only [printCharacterOnFrame, hchar]
  rw [if_neg (by omega), if_neg (by omega), hok]

/-- The check of the positions. -/
lemma printCharacterOnFrame_accepted {character : Char} {PBMYPos : UInt16} {s : PrintState}
    (h : (font.printCharacterOnFrame character PBMYPos s).1 = .ok ()) :
    s.PBMXPos.toNat + font.charWidth.toNat < LCD_SCREEN_WIDTH ∧
      PBMYPos.toNat + font.charHeight.toNat < LCD_SCREEN_HEIGHT := by
  rw [printCharacterOnFrame] at h
  split at h
  · cases h
  · split_ifs at h with hx hy
    omega

end PBMFont

/-- An accepted character is in the frame, pixel for pixel as it is in the font, and all pixels of
other rows and all pixels on its left are what they were. -/
theorem printCharacterOnFrame_cell (id : FontID) (PBMData : PixelsData)
    (hdata : PBMData.length = (id.font PBMData).bitmapBytes) (character : Char) (charX charY : ℕ)
    (hchar : (id.font PBMData).charsMap.lookup character = some (charX, charY))
    (frame : PixelsData) (hframe : frame.length = DEFAULT_PBM_DATA_IN_BYTES)
    (PBMXPos PBMYPos : UInt16) :
    let font := id.font PBMData
    let printed := font.printCharacterOnFrame character PBMYPos ⟨frame, PBMXPos⟩
    (printed.1 = .ok () ↔ PBMXPos.toNat + font.charWidth.toNat < LCD_SCREEN_WIDTH ∧
      PBMYPos.toNat + font.charHeight.toNat < LCD_SCREEN_HEIGHT) ∧
    (printed.1 = .ok () →
      printed.2.frame.length = DEFAULT_PBM_DATA_IN_BYTES ∧
      (∀ k < font.charWidth.toNat, ∀ i < font.charHeight.toNat,
        pixel printed.2.frame (PBMXPos.toNat + k) (PBMYPos.toNat + i) =
          font.charPixel charX charY i k) ∧
      ∀ px < DEFAULT_PBM_WIDTH, ∀ py,
        (py < PBMYPos.toNat ∨ PBMYPos.toNat + font.charHeight.toNat ≤ py ∨ px < PBMXPos.toNat) →
          pixel printed.2.frame px py = pixel frame px py) := by
  refine ⟨⟨PBMFont.printCharacterOnFrame_accepted, fun h => ?_⟩, fun h => ?_⟩
  · obtain ⟨frame', hprinted, -⟩ :=
      PBMFont.printCharacterOnFrame_ok id hdata hchar hframe h.1 h.2
    rw [hprinted]
  · have hx : PBMXPos.toNat + _ < _ := (PBMFont.printCharacterOnFrame_accepted h).1
    have hy := (PBMFont.printCharacterOnFrame_accepted h).2
    obtain ⟨frame', hprinted, hcell⟩ :=
      PBMFont.printCharacterOnFrame_ok id hdata hchar hframe hx hy
    rw [hprinted]
    refine ⟨hcell.length.trans hframe, fun k hk i hi => ?_, fun px hpx py hp => ?_⟩
    · rw [pixel, ← hcell.bits i hi k hk, DEFAULT_PBM_WIDTH, Nat.add_assoc]
    · rw [DEFAULT_PBM_WIDTH] at hpx
      refine hcell.others _ ?_
      rw [DEFAULT_PBM_WIDTH]
      omega

/-- The last pixel of an `a` of a black font, over two bytes of an empty frame. -/
theorem printCharacterOnFrame_cell_black :
    pixel ((FontID.MONOSPACE85.font (List.replicate 960 0xFF)).printCharacterOnFrame 'a' 0
      ⟨List.replicate 960 0, 7⟩).2.frame 11 9 = true := by
  obtain ⟨haccepted, hprinted⟩ := printCharacterOnFrame_cell .MONOSPACE85 (List.replicate 960 0xFF)
    (List.length_replicate.trans (PBMFont.bitmapBytes_font .MONOSPACE85 _).symm) 'a' 0 0 rfl
    (List.replicate 960 0) List.length_replicate 7 0
  have hblack : ∀ p < 7680, bitAt (List.replicate 960 0xFF) p = true := by
    intro p hp
    have hone : ∀ n < 8, (0xFF : UInt8).toNat.testBit n = true := by decide
    rw [bitAt, List.getD_replicate _ (by omega)]
    exact hone _ (by omega)
  have hcell := (hprinted (haccepted.mpr ⟨by decide, by decide⟩)).2.1 4 (by decide) 9 (by decide)
  rw [PBMFont.charPixel, show (7 : UInt16).toNat + 4 = 11 from rfl,
    show (0 : UInt16).toNat + 9 = 9 from rfl] at hcell
  rw [hcell]
  exact hblack _ (by decide)

end GLogiK
