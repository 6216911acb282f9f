import GLogiK.Lib.Bitmap
import GLogiK.Lib.Cells

/-!
# Frames and the LCD buffer

The constants of `PBM.hpp`, and the function of the LCD plugins manager that turns a PBM frame into
what the keyboard displays: a PBM byte holds eight pixels of a row, an LCD byte eight pixels of a
column.
-/

namespace GLogiK

open Bitmap

/-! ### Sizes -/

def LCD_SCREEN_HEIGHT : ℕ := 43

def LCD_SCREEN_WIDTH : ℕ := 160

def DEFAULT_PBM_HEIGHT : ℕ := 48

def DEFAULT_PBM_WIDTH : ℕ := 160

def DEFAULT_PBM_HEIGHT_IN_BYTES : ℕ := DEFAULT_PBM_HEIGHT / 8

def DEFAULT_PBM_WIDTH_IN_BYTES : ℕ := DEFAULT_PBM_WIDTH / 8

def DEFAULT_PBM_DATA_IN_BYTES : ℕ := DEFAULT_PBM_WIDTH_IN_BYTES * DEFAULT_PBM_HEIGHT

def LCD_DATA_HEADER_OFFSET : ℕ := 32

abbrev PixelsData := List UInt8

/-- A pixel of a frame. -/
def pixel (frame : PixelsData) (x y : ℕ) : Bool := bitAt frame (DEFAULT_PBM_WIDTH * y + x)

/-! ### The LCD buffer -/

/-- What the loops change. -/
structure LCDDump where
  LCDBuffer : Cells UInt8
  PBMData : Cells UInt8
  LCDCol : ℕ

/-- The innermost loop, from bit 7 to bit 0: the bit of eight bytes, one below another. -/
def dumpBit (row PBMByte : ℕ) (s : LCDDump) (n : ℕ) : LCDDump :=
  let bit := 7 - n
  let rowOffset := DEFAULT_PBM_WIDTH * row
  let index := fun k => PBMByte + DEFAULT_PBM_WIDTH_IN_BYTES * k + rowOffset
  let column := packBits (fun k => (s.PBMData.data.getD (index k) 0).toNat >>> bit) 8
  { LCDBuffer := s.LCDBuffer.set (LCD_DATA_HEADER_OFFSET + s.LCDCol + rowOffset) (.ofNat column)
    PBMData := s.PBMData.touch ((List.range 8).map index)
    LCDCol := s.LCDCol + 1 }

def dumpByte (row : ℕ) (s : LCDDump) (PBMByte : ℕ) : LCDDump :=
  (List.range 8).foldl (dumpBit row PBMByte) s

def dumpRow (s : LCDDump) (row : ℕ) : LCDDump :=
  (List.range DEFAULT_PBM_WIDTH_IN_BYTES).foldl (dumpByte row) { s with LCDCol := 0 }

def dumpPBMDataIntoLCDBuffer (LCDBuffer PBMData : PixelsData) : LCDDump :=
  (List.range DEFAULT_PBM_HEIGHT_IN_BYTES).foldl dumpRow
    { LCDBuffer := { data := LCDBuffer }, PBMData := { data := PBMData }, LCDCol := 0 }

/-! ### The loops as one -/

/-- The indexes of the PBM bytes that an LCD byte is made of. -/
def columnIndex (q k : ℕ) : ℕ := q % 160 / 8 + 20 * k + 160 * (q / 160)

def columnByte (PBMData : PixelsData) (q : ℕ) : UInt8 :=
  .ofNat (packBits (fun k => (PBMData.getD (columnIndex q k) 0).toNat >>> (7 - q % 8)) 8)

/-- The first LCD bytes are written. -/
def dumped (LCDBuffer PBMData : PixelsData) : ℕ → Cells UInt8 × Cells UInt8
  | 0     => ({ data := LCDBuffer }, { data := PBMData })
  | q + 1 =>
    ((dumped LCDBuffer PBMData q).1.set (32 + q) (columnByte PBMData q),
      (dumped LCDBuffer PBMData q).2.touch ((List.range 8).map (columnIndex q)))

/-- The same as a state of the loops. -/
def dumpedAt (LCDBuffer PBMData : PixelsData) (q col : ℕ) : LCDDump :=
  ⟨(dumped LCDBuffer PBMData q).1, (dumped LCDBuffer PBMData q).2, col⟩

section

variable {LCDBuffer PBMData : PixelsData} {row PBMByte n q : ℕ}

@[simp] lemma dumped_data (q : ℕ) : (dumped LCDBuffer PBMData q).2.data = PBMData := by
  induction q with
  | zero => rfl
  | succ q ih => exact ih

@[simp] lemma length_dumped (q : ℕ) :
    (dumped LCDBuffer PBMData q).1.data.length = LCDBuffer.length := by
  induction q with
  | zero => rfl
  | succ q ih => rw [dumped, Cells.length_set, ih]

lemma getElem?_dumped (q j : ℕ) :
    (dumped LCDBuffer PBMData q).1.data[j]? =
      if 32 ≤ j ∧ j < 32 + q ∧ j < LCDBuffer.length then some (columnByte PBMData (j - 32))
      else LCDBuffer[j]? := by
  induction q with
  | zero => exact (if_neg (by omega)).symm
  | succ q ih =>
    rw [dumped, Cells.getElem?_set, ih, length_dumped]
    by_cases hj : j = 32 + q
    · by_cases hlength : j < LCDBuffer.length
      · rw [if_pos ⟨hj, hlength⟩, if_pos (by omega), hj, Nat.add_sub_cancel_left]
      · rw [if_neg (by omega), if_neg (by omega), if_neg (by omega)]
    · rw [if_neg fun h => hj h.1]
      exact if_congr (by omega) rfl rfl

lemma mem_accesses_dumped {i : ℕ} (hi : i ∈ (dumped LCDBuffer PBMData q).1.accesses) :
    32 ≤ i ∧ i < 32 + q := by
  induction q with
  | zero => cases hi
  | succ q ih =>
    rcases List.mem_append.mp hi with hi | hi
    · have hbounds := ih hi
      omega
    · rw [List.mem_singleton.mp hi]
      omega

lemma columnIndex_lt {k : ℕ} (hq : q < 960) (hk : k < 8) :
    columnIndex q k < DEFAULT_PBM_DATA_IN_BYTES := by
  have hsize : DEFAULT_PBM_DATA_IN_BYTES = 960 := rfl
  rw [columnIndex, hsize]
  omega

lemma mem_accesses_dumped_data {i : ℕ} (hq : q ≤ 960)
    (hi : i ∈ (dumped LCDBuffer PBMData q).2.accesses) : i < DEFAULT_PBM_DATA_IN_BYTES := by
  induction q with
  | zero => cases hi
  | succ q ih =>
    rcases List.mem_append.mp hi with hi | hi
    · exact ih (Nat.le_of_succ_le hq) hi
    · obtain ⟨k, hk, rfl⟩ := List.mem_map.mp hi
      exact columnIndex_lt hq (List.mem_range.mp hk)

/-- A bit of an LCD byte. -/
lemma testBit_columnByte (q : ℕ) {k : ℕ} (hk : k < 8) :
    (columnByte PBMData q).toNat.testBit k =
      (PBMData.getD (columnIndex q k) 0).toNat.testBit (7 - q % 8) := by
  rw [columnByte, testBit_toNat_ofNat, testBit_packBits, decide_eq_true hk, Bool.true_and,
    Bool.true_and, Nat.testBit_shiftRight, Nat.add_zero]

lemma dumpBit_dumpedAt (hbyte : PBMByte < 20) (hn : n < 8) :
    dumpBit row PBMByte (dumpedAt LCDBuffer PBMData (160 * row + 8 * PBMByte + n)
      (8 * PBMByte + n)) n =
      dumpedAt LCDBuffer PBMData (160 * row + 8 * PBMByte + n + 1) (8 * PBMByte + n + 1) := by
  have hrow : (160 * row + 8 * PBMByte + n) / 160 = row := by omega
  have hcol : (160 * row + 8 * PBMByte + n) % 160 / 8 = PBMByte := by omega
  have hbit : (160 * row + 8 * PBMByte + n) % 8 = n := by omega
  have hindex : columnIndex (160 * row + 8 * PBMByte + n) =
      fun k => PBMByte + DEFAULT_PBM_WIDTH_IN_BYTES * k + DEFAULT_PBM_WIDTH * row := by
    funext k
    rw [columnIndex, hrow, hcol]
    rfl
  have hplace : 32 + (160 * row + 8 * PBMByte + n) =
      LCD_DATA_HEADER_OFFSET + (8 * PBMByte + n) + DEFAULT_PBM_WIDTH * row := by
    rw [LCD_DATA_HEADER_OFFSET, DEFAULT_PBM_WIDTH]
    omega
  simp only [dumpBit, dumpedAt, dumped, columnByte, hindex, hbit, hplace, dumped_data]

lemma dumpByte_dumpedAt (hbyte : PBMByte < 20) :
    dumpByte row (dumpedAt LCDBuffer PBMData (160 * row + 8 * PBMByte) (8 * PBMByte)) PBMByte =
      dumpedAt LCDBuffer PBMData (160 * row + 8 * (PBMByte + 1)) (8 * (PBMByte + 1)) :=
  @Cells.foldl_range_eq _ (fun n => dumpedAt LCDBuffer PBMData (160 * row + 8 * PBMByte + n)
    (8 * PBMByte + n)) _ 8 fun _ hn => dumpBit_dumpedAt hbyte hn

lemma dumpRow_dumpedAt (col : ℕ) :
    dumpRow (dumpedAt LCDBuffer PBMData (160 * row) col) row =
      dumpedAt LCDBuffer PBMData (160 * (row + 1)) 160 :=
  @Cells.foldl_range_eq _ (fun PBMByte => dumpedAt LCDBuffer PBMData (160 * row + 8 * PBMByte)
    (8 * PBMByte)) _ 20 fun _ hbyte => dumpByte_dumpedAt hbyte

lemma dumpPBMDataIntoLCDBuffer_eq :
    dumpPBMDataIntoLCDBuffer LCDBuffer PBMData = dumpedAt LCDBuffer PBMData 960 160 :=
  @Cells.foldl_range_eq _ (fun row => dumpedAt LCDBuffer PBMData (160 * row)
    (if row = 0 then 0 else 160)) _ 6 fun _ _ => dumpRow_dumpedAt _

end

/-- Each pixel of the PBM frame is found in the LCD byte of its column; all accesses are in range,
the header is not touched, and the PBM frame stays as it is. -/
theorem dumpPBMDataIntoLCDBuffer_pixel (LCDBuffer PBMData : PixelsData)
    (hbuffer : LCDBuffer.length = DEFAULT_PBM_DATA_IN_BYTES + LCD_DATA_HEADER_OFFSET)
    (hdata : PBMData.length = DEFAULT_PBM_DATA_IN_BYTES) :
    let dump := dumpPBMDataIntoLCDBuffer LCDBuffer PBMData
    (∀ x y, x < DEFAULT_PBM_WIDTH → y < DEFAULT_PBM_HEIGHT →
      (dump.LCDBuffer.data.getD (32 + x + 160 * (y / 8)) 0).toNat.testBit (y % 8) =
        (PBMData.getD (20 * y + x / 8) 0).toNat.testBit (7 - x % 8)) ∧
    dump.LCDBuffer.InRange ∧ dump.PBMData.InRange ∧ dump.PBMData.data = PBMData ∧
    (∀ i ∈ dump.LCDBuffer.accesses, LCD_DATA_HEADER_OFFSET ≤ i) ∧
    ∀ i < LCD_DATA_HEADER_OFFSET, dump.LCDBuffer.data[i]? = LCDBuffer[i]? := by
  have hsize : DEFAULT_PBM_DATA_IN_BYTES = 960 := rfl
  have hheader : LCD_DATA_HEADER_OFFSET = 32 := rfl
  rw [dumpPBMDataIntoLCDBuffer_eq, dumpedAt]
  refine ⟨fun x y hx hy => ?_, fun i hi => ?_, fun i hi => ?_, dumped_data 960, fun i hi => ?_,
    fun i hi => ?_⟩
  · rw [DEFAULT_PBM_WIDTH] at hx
    rw [DEFAULT_PBM_HEIGHT] at hy
    have hindex : columnIndex (x + 160 * (y / 8)) (y % 8) = 20 * y + x / 8 := by
      rw [columnIndex]
      omega
    have hbit : (x + 160 * (y / 8)) % 8 = x % 8 := by omega
    have hplace : 32 + x + 160 * (y / 8) - 32 = x + 160 * (y / 8) := by omega
    rw [List.getD_eq_getElem?_getD, getElem?_dumped, if_pos (by omega), Option.getD_some, hplace,
      testBit_columnByte _ (Nat.mod_lt y (by decide)), hindex, hbit]
  · rw [length_dumped, hbuffer, hsize, hheader]
    have hbounds := mem_accesses_dumped hi
    omega
  · rw [dumped_data, hdata]
    exact mem_accesses_dumped_data le_rfl hi
  · exact (mem_accesses_dumped hi).1
  · rw [getElem?_dumped, if_neg (by omega)]

/-- The upper left pixel of a frame in which only the first pixels of the bytes are set. -/
theorem dumpPBMDataIntoLCDBuffer_first :
    ((dumpPBMDataIntoLCDBuffer (List.replicate 992 0) (List.replicate 960 0x80)).LCDBuffer.data.getD
      32 0).toNat.testBit 0 = true := by
  have hpixel := (dumpPBMDataIntoLCDBuffer_pixel (List.replicate 992 0) (List.replicate 960 0x80)
    List.length_replicate List.length_replicate).1 0 0 (by decide) (by decide)
  exact hpixel.trans (by decide)

end GLogiK
