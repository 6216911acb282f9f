import GLogiK.LCD.DisplayedText
import GLogiK.Lib.Painting

/-!
# Painted text

A printed character also clears what is on its right, up to the end of the last byte that is
changed. So a text paints its region of the frame, whatever was there.
-/

namespace GLogiK

open Actions Bitmap

namespace PBMFont

variable {frame frame' frame'' : PixelsData} {c : UInt8} {x y n base width : ℕ}

/-! ### On the right of a character -/

/-- The byte of the last bit is cleared after it, and the other bytes are what they were. -/
def RightCleared (frame frame' : PixelsData) (last p : ℕ) : Prop :=
  bitAt frame' p = if p / 8 ≤ last / 8 then false else bitAt frame p

lemma printByte_cleared {index o p : ℕ} (ho : o < 8) (hbase : 0 < base) (hbase8 : base ≤ 8)
    (hend : (8 * index + o + base - 1) / 8 < frame.length)
    (hprinted : printByte c index (8 - o) (base - ((8 - o : ℕ) : ℤ)) frame = (.ok (), frame'))
    (hp : 8 * index + o + base ≤ p) :
    RightCleared frame frame' (8 * index + o + base - 1) p := by
  have hindex : index < frame.length := by omega
  rw [printByte, bind_of_ok (changeAt_ok _ hindex)] at hprinted
  rw [RightCleared]
  by_cases hright : 8 < o + base
  · have hpos : (base : ℤ) - ((8 - o : ℕ) : ℤ) > 0 := by omega
    have hnext : index + 1 < frame.length := by omega
    have hleft : (8 - ((base : ℤ) - ((8 - o : ℕ) : ℤ))).toNat = 16 - o - base := by omega
    rw [if_pos hpos, hleft, bind_of_ok (changeAt_ok _ (by simpa using hnext)),
      changeAt_ok _ (by simpa using hindex)] at hprinted
    obtain rfl := (Prod.mk.inj hprinted).2
    have hp8 : p / 8 ≠ index := by omega
    rw [bitAt_modify_or _ (by simpa using hindex), bitAt_modify_const _ (by simpa using hnext),
      bitAt_modify_and _ hindex, decide_eq_false hp8, decide_eq_true hp8, Bool.true_or,
      Bool.and_true, Bool.false_and, Bool.or_false]
    by_cases hlast : p / 8 = index + 1
    · have hplace : ¬ 16 - o - base ≤ 7 - p % 8 := by omega
      rw [if_pos hlast, if_pos (by omega), Nat.testBit_shiftLeft, decide_eq_false hplace,
        Bool.false_and]
    · rw [if_neg hlast, if_neg (by omega)]
  · have hpos : ¬ (base : ℤ) - ((8 - o : ℕ) : ℤ) > 0 := by omega
    have hshift : (-((base : ℤ) - ((8 - o : ℕ) : ℤ))).toNat = 8 - o - base := by omega
    rw [if_neg hpos, hshift, changeAt_ok _ (by simpa using hindex)] at hprinted
    obtain rfl := (Prod.mk.inj hprinted).2
    rw [bitAt_modify_or _ (by simpa using hindex), bitAt_modify_and _ hindex]
    by_cases hlast : p / 8 = index
    · have hcut : ¬ 8 - o ≤ 7 - p % 8 := by omega
      have hplace : ¬ 8 - o - base ≤ 7 - p % 8 := by omega
      rw [if_pos (by omega), testBit_mask (Nat.sub_le 8 o) (by omega), decide_eq_false hcut,
        Nat.testBit_shiftLeft, decide_eq_false hplace]
      simp [hlast]
    · rw [if_neg (by omega)]
      simp [hlast]

section

variable {PBMData : PixelsData} (id : FontID) {charX charY i j : ℕ} {PBMXPos PBMYPos : UInt16}

/-- The bits after the last one that was printed. -/
def LineCleared (frame frame' : PixelsData) (x y n : ℕ) : Prop :=
  ∀ p, 160 * y + x + n ≤ p →
    if n = 0 then bitAt frame' p = bitAt frame p
    else RightCleared frame frame' (160 * y + x + n - 1) p

lemma printLineByte_cleared (hj : j < (id.font PBMData).charBytes) (hframe : frame.length = 960)
    (hx : PBMXPos.toNat + (id.font PBMData).charWidth.toNat < 160)
    (hy : PBMYPos.toNat + i < 43)
    (hcleared : LineCleared frame frame' PBMXPos.toNat (PBMYPos.toNat + i)
      ((id.font PBMData).shiftCharBase * j))
    (hlength : frame'.length = frame.length)
    (hprinted : (id.font PBMData).printLineByte charX charY PBMXPos PBMYPos i j frame' =
      (.ok (), frame'')) :
    LineCleared frame frame'' PBMXPos.toNat (PBMYPos.toNat + i)
      ((id.font PBMData).shiftCharBase * (j + 1)) := by
  obtain ⟨hmul, hle⟩ := shiftCharBase_mul id PBMData hj
  obtain ⟨hbase, hbase8⟩ := shiftCharBase_le id PBMData
  rw [Nat.mul_succ] at hle ⊢
  rw [hmul] at hle hcleared ⊢
  have hindex := @index_toNat PBMXPos PBMYPos i j (by omega)
  rw [printLineByte, hindex] at hprinted
  intro p hp
  have hstart : 8 * (20 * (PBMYPos.toNat + i) + PBMXPos.toNat / 8 + j) + PBMXPos.toNat % 8 +
      (id.font PBMData).shiftCharBase = 160 * (PBMYPos.toNat + i) + PBMXPos.toNat +
        (8 * j + (id.font PBMData).shiftCharBase) := by omega
  have hbyte := printByte_cleared (Nat.mod_lt PBMXPos.toNat (by decide)) hbase hbase8 (by omega)
    hprinted (hstart.trans_le hp)
  have hbefore := hcleared p (by omega)
  rw [if_neg (by omega)]
  rw [hstart] at hbyte
  refine hbyte.trans ?_
  split_ifs with hlast
  · rfl
  · split_ifs at hbefore with hj0
    · exact hbefore
    · exact hbefore.trans (if_neg (by omega))

/-- The bits of all lines that are on the right of a character. -/
def CellCleared (frame frame' : PixelsData) (x y width n : ℕ) : Prop :=
  ∀ i < n, ∀ p, 160 * (y + i) + x + width ≤ p → p < 160 * (y + i + 1) →
    RightCleared frame frame' (160 * (y + i) + x + width - 1) p

lemma CellCleared.step {cell : ℕ → ℕ → Bool} (h : CellCleared frame frame' x y width n)
    (hcell : CellPrinted frame frame' x y width n cell)
    (hline : LinePrinted frame' frame'' x (y + n) width (cell n))
    (hright : LineCleared frame' frame'' x (y + n) width) (hwidth : 0 < width) :
    CellCleared frame frame'' x y width (n + 1) := by
  intro i hi p hp hrow
  rcases Nat.lt_succ_iff_lt_or_eq.mp hi with hlt | rfl
  · have hbefore : bitAt frame'' p = bitAt frame' p := hline.before p (by omega)
    exact hbefore.trans (h i hlt p hp hrow)
  · have hfirst : bitAt frame' p = bitAt frame p := hcell.others p (.inr (.inl (by omega)))
    have hlast := hright p hp
    rw [if_neg hwidth.ne'] at hlast
    rw [RightCleared, ← hfirst]
    exact hlast

lemma charWidth_pos : 0 < (id.font PBMData).charWidth.toNat := by
  cases id <;> exact Nat.succ_pos _

lemma printLine_cleared (hdata : PBMData.length = (id.font PBMData).bitmapBytes)
    (hX : charX < 26) (hY : charY < 3) (hframe : frame.length = 960)
    (hx : PBMXPos.toNat + (id.font PBMData).charWidth.toNat < 160)
    (hy : PBMYPos.toNat + (id.font PBMData).charHeight.toNat < 43)
    (hi : i < (id.font PBMData).charHeight.toNat)
    (hprinted : (id.font PBMData).printLine charX charY PBMXPos PBMYPos i frame =
      (.ok (), frame')) :
    LineCleared frame frame' PBMXPos.toNat (PBMYPos.toNat + i)
      (id.font PBMData).charWidth.toNat := by
  obtain ⟨frame'', hok, hline, hcleared⟩ := forM_range_ok
    (fun j frame' => LinePrinted frame frame' PBMXPos.toNat (PBMYPos.toNat + i)
        ((id.font PBMData).shiftCharBase * j) ((id.font PBMData).charPixel charX charY i) ∧
      LineCleared frame frame' PBMXPos.toNat (PBMYPos.toNat + i)
        ((id.font PBMData).shiftCharBase * j)) _
    (fun j hj frame' h => by
      obtain ⟨hline, hcleared⟩ := h
      obtain ⟨frame'', hok, hline'⟩ := printLineByte_ok id hdata hX hY hi hj hframe hx hy hline
      exact ⟨frame'', hok, hline', printLineByte_cleared id hj hframe hx (by omega) hcleared
        hline.length hok⟩)
    ⟨LinePrinted.refl frame _ _ _, fun p _ => by rw [Nat.mul_zero, if_pos rfl]⟩
  rw [shiftCharBase_mul_charBytes] at hcleared
  obtain rfl := (Prod.mk.inj (hok.symm.trans hprinted)).2
  exact hcleared

lemma printLines_cleared (hdata : PBMData.length = (id.font PBMData).bitmapBytes)
    (hX : charX < 26) (hY : charY < 3) (hframe : frame.length = 960)
    (hx : PBMXPos.toNat + (id.font PBMData).charWidth.toNat < 160)
    (hy : PBMYPos.toNat + (id.font PBMData).charHeight.toNat < 43)
    (hprinted : (id.font PBMData).printLines charX charY PBMXPos PBMYPos frame =
      (.ok (), frame')) :
    CellCleared frame frame' PBMXPos.toNat PBMYPos.toNat (id.font PBMData).charWidth.toNat
      (id.font PBMData).charHeight.toNat := by
  obtain ⟨frame'', hok, -, hcleared⟩ := forM_range_ok
    (fun n frame' => CellPrinted frame frame' PBMXPos.toNat PBMYPos.toNat
        (id.font PBMData).charWidth.toNat n ((id.font PBMData).charPixel charX charY) ∧
      CellCleared frame frame' PBMXPos.toNat PBMYPos.toNat (id.font PBMData).charWidth.toNat n) _
    (fun n hn frame' h => by
      obtain ⟨hcell, hcleared⟩ := h
      have hframe' := hcell.length.trans hframe
      obtain ⟨frame'', hok, hline⟩ := printLine_ok id hdata hX hY hn hframe' hx hy
      have hright := printLine_cleared id hdata hX hY hframe' hx hy hn hok
      exact ⟨frame'', hok, hcell.step hx.le hline,
        hcleared.step hcell hline hright (charWidth_pos id)⟩)
    ⟨CellPrinted.refl frame _ _ _ _, fun i hi => absurd hi (Nat.not_lt_zero i)⟩
  obtain rfl := (Prod.mk.inj (hok.symm.trans hprinted)).2
  exact hcleared

end

/-! ### Characters -/

/-- The bits that a character paints. -/
def charRegion (font : PBMFont) (y x : ℕ) : Set ℕ :=
  {p | y ≤ p / DEFAULT_PBM_WIDTH ∧ p / DEFAULT_PBM_WIDTH < y + font.charHeight.toNat ∧
    x ≤ p % DEFAULT_PBM_WIDTH ∧
    p % DEFAULT_PBM_WIDTH / 8 ≤ (x + font.charWidth.toNat - 1) / 8}

lemma mem_charRegion {font : PBMFont} {p : ℕ} : p ∈ font.charRegion y x ↔
    y ≤ p / 160 ∧ p / 160 < y + font.charHeight.toNat ∧ x ≤ p % 160 ∧
      p % 160 / 8 ≤ (x + font.charWidth.toNat - 1) / 8 :=
  Iff.rfl

/-- What is painted: the character, and nothing on its right. -/
def charBit (font : PBMFont) (charX charY y x p : ℕ) : Bool :=
  decide (p % DEFAULT_PBM_WIDTH < x + font.charWidth.toNat) &&
    font.charPixel charX charY (p / DEFAULT_PBM_WIDTH - y) (p % DEFAULT_PBM_WIDTH - x)

/-- A character in the frame. -/
structure CharPainted (font : PBMFont) (charX charY y x : ℕ) (frame frame' : PixelsData) :
    Prop where
  length : frame'.length = frame.length
  inside : ∀ p ∈ font.charRegion y x, bitAt frame' p = font.charBit charX charY y x p
  outside : ∀ p ∉ font.charRegion y x, bitAt frame' p = bitAt frame p

lemma charPainted_of_cell {font : PBMFont} {charX charY : ℕ} (hwidth : 0 < font.charWidth.toNat)
    (hx : x + font.charWidth.toNat < 160)
    (hcell : CellPrinted frame frame' x y font.charWidth.toNat font.charHeight.toNat
      (font.charPixel charX charY))
    (hcleared : CellCleared frame frame' x y font.charWidth.toNat font.charHeight.toNat) :
    font.CharPainted charX charY y x frame frame' where
  length := hcell.length
  inside p hp := by
    rw [mem_charRegion] at hp
    rw [charBit, DEFAULT_PBM_WIDTH]
    obtain ⟨i, hi⟩ := Nat.exists_eq_add_of_le hp.1
    obtain ⟨k, hk⟩ := Nat.exists_eq_add_of_le hp.2.2.1
    have hplace : p = 160 * (y + i) + x + k := by omega
    rw [hi, hk, Nat.add_sub_cancel_left, Nat.add_sub_cancel_left]
    by_cases hk' : k < font.charWidth.toNat
    · rw [decide_eq_true (by omega), Bool.true_and, hplace]
      exact hcell.bits i (by omega) k hk'
    · rw [decide_eq_false (by omega), Bool.false_and]
      exact (hcleared i (by omega) p (by omega) (by omega)).trans (if_pos (by omega))
  outside p hp := by
    rw [mem_charRegion] at hp
    by_cases hright : y ≤ p / 160 ∧ p / 160 < y + font.charHeight.toNat ∧ x ≤ p % 160
    · obtain ⟨i, hi⟩ := Nat.exists_eq_add_of_le hright.1
      have hlast := hcleared i (by omega) p (by omega) (by omega)
      exact hlast.trans (if_neg (by omega))
    · exact hcell.others p (by omega)

variable {id : FontID} {PBMData : PixelsData} {charX charY : ℕ} {character : Char}
  {PBMXPos PBMYPos : UInt16}

/-- An accepted character paints its region. -/
lemma printCharacterOnFrame_painted (hdata : PBMData.length = (id.font PBMData).bitmapBytes)
    (hchar : (id.font PBMData).charsMap.lookup character = some (charX, charY))
    (hframe : frame.length = DEFAULT_PBM_DATA_IN_BYTES)
    (hx : PBMXPos.toNat + (id.font PBMData).charWidth.toNat < LCD_SCREEN_WIDTH)
    (hy : PBMYPos.toNat + (id.font PBMData).charHeight.toNat < LCD_SCREEN_HEIGHT) :
    ∃ frame', (id.font PBMData).printCharacterOnFrame character PBMYPos ⟨frame, PBMXPos⟩ =
        (.ok (), ⟨frame', (id.font PBMData).nextXPos character PBMXPos⟩) ∧
      (id.font PBMData).CharPainted charX charY PBMYPos.toNat PBMXPos.toNat frame frame' := by
  have hmap := charsMap_font id PBMData ▸ hchar
  obtain ⟨hX, hY⟩ := lookup_defaultCharsMap hmap
  obtain ⟨frame', hok, hcell⟩ := printLines_ok id hdata hX hY hframe hx hy
  have hcleared := printLines_cleared id hdata hX hY hframe hx hy hok
  refine ⟨frame', ?_, charPainted_of_cell (charWidth_pos id) hx hcell hcleared⟩
  simp only [printCharacterOnFrame, hchar]
  rw [if_neg (by omega), if_neg (by omega), hok]

/-! ### Texts -/

/-- A step on frames that paints a region. -/
abbrev PaintsFrame (region : Set ℕ) (step : PixelsData → PixelsData) : Prop :=
  Paints bitAt (fun frame => frame.length = DEFAULT_PBM_DATA_IN_BYTES) region step

/-- The frame after a text was printed, up to the first character that is refused. -/
def printText (font : PBMFont) (PBMYPos PBMXPos : UInt16) (cs : List Char) (frame : PixelsData) :
    PixelsData :=
  (cs.forM (fun c => font.printCharacterOnFrame c PBMYPos) ⟨frame, PBMXPos⟩).2.frame

/-- The bits that a text paints. -/
def textRegion (font : PBMFont) (y : ℕ) : ℕ → List Char → Set ℕ
  | _, []      => ∅
  | x, c :: cs =>
    {p | font.Accepted y x c ∧
      (p ∈ font.charRegion y x ∨ p ∈ font.textRegion y (x + font.advance c) cs)}

variable {c : Char} {cs : List Char}

lemma textRegion_of_accepted {font : PBMFont} (h : font.Accepted y x c) (cs : List Char) :
    font.textRegion y x (c :: cs) =
      font.charRegion y x ∪ font.textRegion y (x + font.advance c) cs :=
  Set.ext fun _ => and_iff_right h

lemma textRegion_of_refused {font : PBMFont} (h : ¬ font.Accepted y x c) (cs : List Char) :
    font.textRegion y x (c :: cs) = ∅ :=
  Set.eq_empty_of_forall_notMem fun _ hp => h hp.1

lemma printText_of_accepted (hdata : PBMData.length = (id.font PBMData).bitmapBytes)
    (h : (id.font PBMData).Accepted PBMYPos.toNat PBMXPos.toNat c)
    (hframe : frame.length = DEFAULT_PBM_DATA_IN_BYTES) (cs : List Char) :
    (id.font PBMData).printText PBMYPos PBMXPos (c :: cs) frame =
      (id.font PBMData).printText PBMYPos ((id.font PBMData).nextXPos c PBMXPos) cs
        ((id.font PBMData).printText PBMYPos PBMXPos [c] frame) := by
  obtain ⟨hknown, hx, hy⟩ := h
  obtain ⟨⟨charX, charY⟩, hchar⟩ := Option.isSome_iff_exists.mp hknown
  obtain ⟨frame', hok, -⟩ := printCharacterOnFrame_painted hdata hchar hframe hx hy
  have hloop : ∀ cs, (c :: cs).forM (fun c => (id.font PBMData).printCharacterOnFrame c PBMYPos)
      ⟨frame, PBMXPos⟩ = _ := fun _ => bind_of_ok hok
  rw [printText, printText, printText, hloop, hloop]
  rfl

lemma printText_of_refused {font : PBMFont} {PBMXPos PBMYPos : UInt16}
    (h : ¬ font.Accepted PBMYPos.toNat PBMXPos.toNat c) (cs : List Char) (frame : PixelsData) :
    font.printText PBMYPos PBMXPos (c :: cs) frame = frame := by
  obtain ⟨e, hrefused⟩ := @printCharacterOnFrame_refused font c PBMYPos ⟨frame, PBMXPos⟩ h
  have hloop : (c :: cs).forM (fun c => font.printCharacterOnFrame c PBMYPos)
      ⟨frame, PBMXPos⟩ = _ := bind_of_error hrefused
  rw [printText, hloop]

lemma charPainted_printText (hdata : PBMData.length = (id.font PBMData).bitmapBytes)
    (h : (id.font PBMData).Accepted PBMYPos.toNat PBMXPos.toNat c)
    (hchar : (id.font PBMData).charsMap.lookup c = some (charX, charY))
    (hframe : frame.length = DEFAULT_PBM_DATA_IN_BYTES) :
    (id.font PBMData).CharPainted charX charY PBMYPos.toNat PBMXPos.toNat frame
      ((id.font PBMData).printText PBMYPos PBMXPos [c] frame) := by
  obtain ⟨frame', hok, hpainted⟩ := printCharacterOnFrame_painted hdata hchar hframe h.2.1 h.2.2
  have hloop : [c].forM (fun c => (id.font PBMData).printCharacterOnFrame c PBMYPos)
    ⟨frame, PBMXPos⟩ = _ := bind_of_ok hok
  rw [printText, hloop]
  exact hpainted

lemma paintsFrame_char (hdata : PBMData.length = (id.font PBMData).bitmapBytes)
    (h : (id.font PBMData).Accepted PBMYPos.toNat PBMXPos.toNat c) :
    PaintsFrame ((id.font PBMData).charRegion PBMYPos.toNat PBMXPos.toNat)
      ((id.font PBMData).printText PBMYPos PBMXPos [c]) := by
  obtain ⟨⟨charX, charY⟩, hchar⟩ := Option.isSome_iff_exists.mp h.1
  have hpainted := fun frame => @charPainted_printText frame id PBMData charX charY PBMXPos PBMYPos
    c hdata h hchar
  exact .of_picture _ (fun frame hframe => (hpainted frame hframe).length.trans hframe)
    (fun frame hframe => (hpainted frame hframe).inside)
    (fun frame hframe => (hpainted frame hframe).outside)

/-- A text paints its region. -/
lemma paintsFrame_text (hdata : PBMData.length = (id.font PBMData).bitmapBytes)
    (PBMYPos PBMXPos : UInt16) (cs : List Char) :
    PaintsFrame ((id.font PBMData).textRegion PBMYPos.toNat PBMXPos.toNat cs)
      ((id.font PBMData).printText PBMYPos PBMXPos cs) := by
  induction cs generalizing PBMXPos with
  | nil => exact .nothing
  | cons c cs ih =>
    by_cases haccepted : (id.font PBMData).Accepted PBMYPos.toNat PBMXPos.toNat c
    · have hnext := (advance_spec id PBMData c PBMXPos (by have := haccepted.2.1; omega)).1
      have hrest := ih ((id.font PBMData).nextXPos c PBMXPos)
      rw [hnext] at hrest
      rw [textRegion_of_accepted haccepted]
      exact ((paintsFrame_char hdata haccepted).comp hrest).congr fun frame hframe =>
        printText_of_accepted hdata haccepted hframe cs
    · rw [textRegion_of_refused haccepted]
      exact Paints.nothing.congr fun frame _ => printText_of_refused haccepted cs frame

/-- A text that is completely printed goes on with the next one. -/
lemma printText_append (hdata : PBMData.length = (id.font PBMData).bitmapBytes)
    (hall : (id.font PBMData).printedChars PBMYPos.toNat PBMXPos.toNat cs = cs)
    (hframe : frame.length = DEFAULT_PBM_DATA_IN_BYTES) {XPos : UInt16}
    (hXPos : XPos.toNat = PBMXPos.toNat + (id.font PBMData).totalAdvance cs) (cs' : List Char) :
    (id.font PBMData).printText PBMYPos PBMXPos (cs ++ cs') frame =
      (id.font PBMData).printText PBMYPos XPos cs'
        ((id.font PBMData).printText PBMYPos PBMXPos cs frame) := by
  induction cs generalizing PBMXPos frame with
  | nil =>
    obtain rfl := UInt16.toNat_inj.mp hXPos
    rfl
  | cons c cs ih =>
    have haccepted : (id.font PBMData).Accepted PBMYPos.toNat PBMXPos.toNat c := by
      by_contra hrefused
      rw [printedChars, if_neg hrefused] at hall
      cases hall
    have hnext := (advance_spec id PBMData c PBMXPos (by have := haccepted.2.1; omega)).1
    rw [printedChars, if_pos haccepted, ← hnext] at hall
    rw [totalAdvance_cons, ← Nat.add_assoc, ← hnext] at hXPos
    rw [List.cons_append, printText_of_accepted hdata haccepted hframe,
      printText_of_accepted hdata haccepted hframe cs]
    exact ih (List.tail_eq_of_cons_eq hall) ((paintsFrame_char hdata haccepted).keeps _ hframe)
      hXPos

/-- Nothing is seen of the character. -/
def Blank (font : PBMFont) (c : Char) : Prop :=
  ∀ charX charY, font.charsMap.lookup c = some (charX, charY) →
    ∀ i < font.charHeight.toNat, ∀ k < font.charWidth.toNat, font.charPixel charX charY i k = false

/-- A text of blank characters clears its region. -/
lemma bitAt_printText_blank (hdata : PBMData.length = (id.font PBMData).bitmapBytes)
    (hblank : ∀ c ∈ cs, (id.font PBMData).Blank c)
    (hframe : frame.length = DEFAULT_PBM_DATA_IN_BYTES) {p : ℕ}
    (hp : p ∈ (id.font PBMData).textRegion PBMYPos.toNat PBMXPos.toNat cs) :
    bitAt ((id.font PBMData).printText PBMYPos PBMXPos cs frame) p = false := by
  induction cs generalizing PBMXPos frame with
  | nil => exact hp.elim
  | cons c cs ih =>
    obtain ⟨hc, hcs⟩ := List.forall_mem_cons.mp hblank
    by_cases haccepted : (id.font PBMData).Accepted PBMYPos.toNat PBMXPos.toNat c
    · have hnext := (advance_spec id PBMData c PBMXPos (by have := haccepted.2.1; omega)).1
      rw [textRegion_of_accepted haccepted, ← hnext] at hp
      rw [printText_of_accepted hdata haccepted hframe]
      have hframe' := (paintsFrame_char hdata haccepted).keeps _ hframe
      by_cases hrest : p ∈ (id.font PBMData).textRegion PBMYPos.toNat
          ((id.font PBMData).nextXPos c PBMXPos).toNat cs
      · exact ih hcs hframe' hrest
      · obtain ⟨⟨charX, charY⟩, hchar⟩ := Option.isSome_iff_exists.mp haccepted.1
        have hfirst := hp.resolve_right hrest
        rw [(paintsFrame_text hdata PBMYPos _ cs).outside _ hframe' p hrest,
          (charPainted_printText hdata haccepted hchar hframe).inside p hfirst, charBit]
        rw [mem_charRegion] at hfirst
        by_cases hwidth : p % 160 < PBMXPos.toNat + (id.font PBMData).charWidth.toNat
        · rw [DEFAULT_PBM_WIDTH, hc charX charY hchar _ (by omega) _ (by omega), Bool.and_false]
        · rw [DEFAULT_PBM_WIDTH, decide_eq_false hwidth, Bool.false_and]
    · rw [textRegion_of_refused haccepted] at hp
      exact hp.elim

end PBMFont

/-! ### Strings -/

open PBMFont LCDPlugin

/-- A string is written as a text. -/
lemma writeStringOnPBMFrame_eq_printText {fonts : FontsManager} {fontID : FontID}
    {PBMData : PixelsData} (hfont : fonts.readPBM fontID = .ok PBMData) (string : String)
    (PBMXPos PBMYPos : Int16) (frame : PixelsData) :
    (writeStringOnPBMFrame fonts fontID string PBMXPos PBMYPos frame).1 =
      (fontID.font PBMData).printText (printedYPos (fontID.font PBMData) PBMYPos)
        (printedXPos (fontID.font PBMData) string PBMXPos) string.toList frame := by
  rw [(writeStringOnPBMFrame_eq fonts fontID string PBMXPos PBMYPos frame).1, writeString_eq hfont]
  rfl

/-! ### Equal frames -/

/-- A byte is known by its bits. -/
lemma eq_of_bitAt {frame frame' : PixelsData} (hlength : frame.length = frame'.length)
    (h : bitAt frame = bitAt frame') : frame = frame' := by
  refine List.ext_getElem hlength fun i hi hi' => ?_
  apply UInt8.toNat_inj.mp
  refine Nat.eq_of_testBit_eq fun k => ?_
  by_cases hk : k < 8
  · have hbit := congrFun h (8 * i + (7 - k))
    have hbyte : (8 * i + (7 - k)) / 8 = i := by omega
    have hplace : 7 - (8 * i + (7 - k)) % 8 = k := by omega
    rw [bitAt, bitAt, hbyte, hplace, List.getD_eq_getElem _ _ hi, List.getD_eq_getElem _ _ hi']
      at hbit
    exact hbit
  · rw [testBit_byte_of_le _ (not_lt.mp hk), testBit_byte_of_le _ (not_lt.mp hk)]

end GLogiK
