import GLogiK.LCD.Glyphs
import GLogiK.LCD.LCDPlugin

/-!
# Centred strings

A string is centred by one loop, and it is printed by another one, character by character. Both
count the same width. But the position of each character is checked too strictly: a string whose
last cell ends with the last column of the screen is not completely written.
-/

namespace GLogiK

open Actions

namespace PBMFont

variable {font : PBMFont} {c : Char} {cs : List Char}

/-! ### The width of a string -/

/-- What printing a character adds to the position. -/
def advance (font : PBMFont) (c : Char) : ℕ := (font.nextXPos c 0).toNat

def totalAdvance (font : PBMFont) (cs : List Char) : ℕ := (cs.map font.advance).sum

lemma totalAdvance_cons (c : Char) (cs : List Char) :
    font.totalAdvance (c :: cs) = font.advance c + font.totalAdvance cs :=
  List.sum_cons

/-- Both loops count alike. -/
lemma advance_spec (id : FontID) (PBMData : PixelsData) (c : Char) (XPos : UInt16)
    (hX : XPos.toNat ≤ LCD_SCREEN_WIDTH) :
    ((id.font PBMData).nextXPos c XPos).toNat = XPos.toNat + (id.font PBMData).advance c ∧
      ((id.font PBMData).advance c ≤ XPos.toNat →
        ((id.font PBMData).shiftCenteredXPos XPos c).toNat =
          XPos.toNat - (id.font PBMData).advance c) := by
  rw [LCD_SCREEN_WIDTH] at hX
  cases id
  case MONOSPACE85 =>
    simp [advance, nextXPos, shiftCenteredXPos, FontID.font, FontMonospace85, UInt16.toNat_add,
      UInt16.toNat_sub]
    omega
  case MONOSPACE86 =>
    simp [advance, nextXPos, shiftCenteredXPos, FontID.font, FontMonospace86, UInt16.toNat_add,
      UInt16.toNat_sub]
    omega
  case DEJAVUSANSBOLD1616 =>
    by_cases hwide : c ∈ hackstring
    · simp [advance, nextXPos, shiftCenteredXPos, FontID.font, FontDejaVuSansBold1616, hwide,
        UInt16.toNat_add, UInt16.toNat_sub]
      omega
    · simp [advance, nextXPos, shiftCenteredXPos, FontID.font, FontDejaVuSansBold1616, hwide,
        UInt16.toNat_add, UInt16.toNat_sub]
      omega

lemma foldl_shiftCenteredXPos (id : FontID) (PBMData : PixelsData) (cs : List Char)
    (XPos : UInt16) (hX : XPos.toNat ≤ LCD_SCREEN_WIDTH)
    (htotal : (id.font PBMData).totalAdvance cs ≤ XPos.toNat) :
    (cs.foldl (id.font PBMData).shiftCenteredXPos XPos).toNat =
      XPos.toNat - (id.font PBMData).totalAdvance cs := by
  induction cs generalizing XPos with
  | nil => rfl
  | cons c cs ih =>
    rw [totalAdvance_cons] at htotal ⊢
    have hfirst := (advance_spec id PBMData c XPos hX).2 (by omega)
    rw [List.foldl_cons, ih _ (by omega) (by omega), hfirst, Nat.sub_sub]

/-- A string that is not too wide is centred. -/
lemma getCenteredXPos_toNat (id : FontID) (PBMData : PixelsData) (string : String)
    (htotal : (id.font PBMData).totalAdvance string.toList ≤ LCD_SCREEN_WIDTH) :
    ((id.font PBMData).getCenteredXPos string).toNat =
      (LCD_SCREEN_WIDTH - (id.font PBMData).totalAdvance string.toList) / 2 := by
  have hfold := foldl_shiftCenteredXPos id PBMData string.toList (.ofNat LCD_SCREEN_WIDTH)
    (by decide) htotal
  rw [getCenteredXPos, UInt16.toNat_div, hfold]
  rfl

/-! ### Printing all characters -/

/-- The characters are printed one after another, and none of them is refused. -/
inductive PrintsAll (font : PBMFont) (PBMYPos : UInt16) : List Char → PrintState → PrintState → Prop
  | nil (s : PrintState) : PrintsAll font PBMYPos [] s s
  | cons {c : Char} {cs : List Char} {s s₁ s₂ : PrintState}
      (first : font.printCharacterOnFrame c PBMYPos s = (.ok (), s₁))
      (rest : PrintsAll font PBMYPos cs s₁ s₂) : PrintsAll font PBMYPos (c :: cs) s s₂

lemma forM_eq_ok_iff {PBMYPos : UInt16} {s s' : PrintState} :
    cs.forM (fun c => font.printCharacterOnFrame c PBMYPos) s = (.ok (), s') ↔
      PrintsAll font PBMYPos cs s s' := by
  constructor
  · intro h
    induction cs generalizing s with
    | nil =>
      cases h
      exact .nil _
    | cons c cs ih =>
      obtain ⟨_, s₁, hfirst, hrest⟩ := bind_eq_ok h
      exact .cons hfirst (ih hrest)
  · intro h
    induction h with
    | nil => rfl
    | cons hfirst _ ih => exact (bind_of_ok hfirst).trans ih

variable {PBMData : PixelsData} {PBMXPos PBMYPos : UInt16} {frame : PixelsData}

/-- All characters are printed when the last one has enough place. -/
lemma exists_printsAll_iff (id : FontID) (hdata : PBMData.length = (id.font PBMData).bitmapBytes)
    (hknown : ∀ c ∈ cs, ((id.font PBMData).charsMap.lookup c).isSome)
    (hframe : frame.length = DEFAULT_PBM_DATA_IN_BYTES)
    (htotal : PBMXPos.toNat + (id.font PBMData).totalAdvance cs ≤ LCD_SCREEN_WIDTH) :
    (∃ s', (id.font PBMData).PrintsAll PBMYPos cs ⟨frame, PBMXPos⟩ s') ↔ cs = [] ∨
      PBMXPos.toNat + (id.font PBMData).totalAdvance cs.dropLast +
        (id.font PBMData).charWidth.toNat < LCD_SCREEN_WIDTH ∧
      PBMYPos.toNat + (id.font PBMData).charHeight.toNat < LCD_SCREEN_HEIGHT := by
  induction cs generalizing frame PBMXPos with
  | nil => exact iff_of_true ⟨_, .nil _⟩ (.inl rfl)
  | cons c cs ih =>
    obtain ⟨hc, hcs⟩ := List.forall_mem_cons.mp hknown
    obtain ⟨⟨charX, charY⟩, hchar⟩ := Option.isSome_iff_exists.mp hc
    rw [totalAdvance_cons] at htotal
    have hnext := (advance_spec id PBMData c PBMXPos (by omega)).1
    have hdrop : (id.font PBMData).totalAdvance (c :: cs).dropLast =
        if cs = [] then 0
        else (id.font PBMData).advance c + (id.font PBMData).totalAdvance cs.dropLast := by
      split_ifs with hlast
      · rw [hlast]
        rfl
      · rw [List.dropLast_cons_of_ne_nil hlast, totalAdvance_cons]
    rw [hdrop]
    constructor
    · rintro ⟨s', hprints⟩
      rcases hprints with _ | ⟨hfirst, hrest⟩
      have haccepted := printCharacterOnFrame_accepted (congrArg Prod.fst hfirst)
      have hX : PBMXPos.toNat + (id.font PBMData).charWidth.toNat < LCD_SCREEN_WIDTH :=
        haccepted.1
      obtain ⟨frame', hok, hcell⟩ := printCharacterOnFrame_ok id hdata hchar hframe hX haccepted.2
      obtain rfl := congrArg Prod.snd (hfirst.symm.trans hok)
      rcases (ih hcs (hcell.length.trans hframe) (by omega)).mp ⟨s', hrest⟩ with hlast | ⟨hend, -⟩
      · rw [if_pos hlast]
        exact .inr haccepted
      · refine .inr ⟨?_, haccepted.2⟩
        split_ifs <;> omega
    · rintro (hnil | ⟨hend, hY⟩)
      · cases hnil
      obtain ⟨frame', hok, hcell⟩ :=
        @printCharacterOnFrame_ok _ _ id _ _ _ PBMXPos PBMYPos hdata hchar hframe (by omega) hY
      have hlast : cs = [] ∨ ((id.font PBMData).nextXPos c PBMXPos).toNat +
          (id.font PBMData).totalAdvance cs.dropLast + (id.font PBMData).charWidth.toNat <
            LCD_SCREEN_WIDTH ∧
          PBMYPos.toNat + (id.font PBMData).charHeight.toNat < LCD_SCREEN_HEIGHT := by
        by_cases hcs' : cs = []
        · exact .inl hcs'
        · rw [if_neg hcs'] at hend
          exact .inr ⟨by omega, hY⟩
      obtain ⟨s', hrest⟩ := (ih hcs (hcell.length.trans hframe) (by omega)).mpr hlast
      exact ⟨s', .cons hok hrest⟩

end PBMFont

/-! ### Writing centred -/

open PBMFont LCDPlugin

/-- The column where a string begins. -/
def printedXPos (font : PBMFont) (string : String) (PBMXPos : Int16) : UInt16 :=
  if PBMXPos < 0 then font.getCenteredXPos string else PBMXPos.toUInt16

/-- The row where a string is written. -/
def printedYPos (font : PBMFont) (PBMYPos : Int16) : UInt16 :=
  if PBMYPos < 0 then font.getCenteredYPos else PBMYPos.toUInt16

/-- The row is accepted. -/
def RowAccepted (font : PBMFont) (PBMYPos : Int16) : Prop :=
  PBMYPos < 0 ∨ PBMYPos.toUInt16.toNat + font.charHeight.toNat < LCD_SCREEN_HEIGHT

/-- The first column of a centred string. -/
def centredStart (font : PBMFont) (string : String) : ℕ :=
  (LCD_SCREEN_WIDTH - font.totalAdvance string.toList) / 2

/-- The column after the last cell. -/
def lastCellEnd (font : PBMFont) (string : String) : ℕ :=
  centredStart font string + font.totalAdvance string.toList.dropLast + font.charWidth.toNat

/-- The frame shows all characters, the first one at the place that centres the string. -/
def WrittenCentred (font : PBMFont) (string : String) (PBMYPos : Int16)
    (frame frame' : PixelsData) : Prop :=
  (font.getCenteredXPos string).toNat = centredStart font string ∧
  ∃ s', font.PrintsAll (printedYPos font PBMYPos) string.toList
    ⟨frame, .ofNat (centredStart font string)⟩ s' ∧ s'.frame = frame'

lemma rowAccepted_iff (id : FontID) (PBMData : PixelsData) (PBMYPos : Int16) :
    (printedYPos (id.font PBMData) PBMYPos).toNat + (id.font PBMData).charHeight.toNat <
      LCD_SCREEN_HEIGHT ↔ RowAccepted (id.font PBMData) PBMYPos := by
  rw [printedYPos, RowAccepted]
  split_ifs with hcentred
  · refine iff_of_true ?_ (.inl hcentred)
    cases id <;> simp [getCenteredYPos, FontID.font, FontMonospace85, FontMonospace86,
      FontDejaVuSansBold1616, LCD_SCREEN_HEIGHT]
  · exact ⟨.inr, fun h => h.resolve_left hcentred⟩

lemma withFont_apply {α : Type} {fonts : FontsManager} {fontID : FontID} {PBMData : PixelsData}
    (hfont : fonts.readPBM fontID = .ok PBMData) (use : PBMFont → Action String PrintState α) :
    fonts.withFont fontID use = use (fontID.font PBMData) := by
  funext s
  simp only [FontsManager.withFont, hfont]

/-- A string is written as its characters are printed. -/
lemma writeString_eq {fonts : FontsManager} {fontID : FontID} {PBMData : PixelsData}
    (hfont : fonts.readPBM fontID = .ok PBMData) (string : String) (PBMXPos PBMYPos : Int16)
    (s : PrintState) :
    writeString fonts fontID string PBMXPos PBMYPos s =
      string.toList.forM (fun c => (fontID.font PBMData).printCharacterOnFrame c
          (printedYPos (fontID.font PBMData) PBMYPos))
        { s with PBMXPos := printedXPos (fontID.font PBMData) string PBMXPos } := by
  have hXPos : LCDPlugin.writtenXPos fonts fontID string PBMXPos s =
      (.ok (printedXPos (fontID.font PBMData) string PBMXPos), s) := by
    rw [LCDPlugin.writtenXPos, FontsManager.getCenteredXPos, withFont_apply hfont, printedXPos]
    split_ifs <;> rfl
  have hYPos : LCDPlugin.writtenYPos fonts fontID PBMYPos s =
      (.ok (printedYPos (fontID.font PBMData) PBMYPos), s) := by
    rw [LCDPlugin.writtenYPos, FontsManager.getCenteredYPos, withFont_apply hfont, printedYPos]
    split_ifs <;> rfl
  have hprint : fonts.printCharacterOnFrame fontID =
      (fontID.font PBMData).printCharacterOnFrame := by
    funext c YPos
    rw [FontsManager.printCharacterOnFrame, withFont_apply hfont]
  rw [writeString, bind_of_ok hXPos, bind_of_ok hYPos, hprint]
  exact bind_of_ok rfl

lemma writeString_centred {fonts : FontsManager} {fontID : FontID} {PBMData : PixelsData}
    (hfont : fonts.readPBM fontID = .ok PBMData) (string : String) {PBMXPos : Int16}
    (hX : PBMXPos < 0) (PBMYPos : Int16) (s : PrintState) :
    writeString fonts fontID string PBMXPos PBMYPos s =
      string.toList.forM (fun c => (fontID.font PBMData).printCharacterOnFrame c
          (printedYPos (fontID.font PBMData) PBMYPos))
        { s with PBMXPos := (fontID.font PBMData).getCenteredXPos string } := by
  rw [writeString_eq hfont, printedXPos, if_pos hX]

/-- A string that fits is written centred exactly when it is empty, or when its last cell does not
end with the last column of the screen and its row is accepted. -/
theorem writeStringOnPBMFrame_centred_iff (fonts : FontsManager) (fontID : FontID)
    (PBMData : PixelsData) (hfont : fonts.readPBM fontID = .ok PBMData)
    (hdata : PBMData.length = (fontID.font PBMData).bitmapBytes) (string : String)
    (hknown : ∀ c ∈ string.toList, ((fontID.font PBMData).charsMap.lookup c).isSome)
    (htotal : (fontID.font PBMData).totalAdvance string.toList ≤ LCD_SCREEN_WIDTH)
    (hend : lastCellEnd (fontID.font PBMData) string ≤ LCD_SCREEN_WIDTH) (PBMXPos PBMYPos : Int16)
    (hX : PBMXPos < 0) (frame : PixelsData) (hframe : frame.length = DEFAULT_PBM_DATA_IN_BYTES) :
    WrittenCentred (fontID.font PBMData) string PBMYPos frame
        (writeStringOnPBMFrame fonts fontID string PBMXPos PBMYPos frame).1 ↔
      string = "" ∨ lastCellEnd (fontID.font PBMData) string ≠ LCD_SCREEN_WIDTH ∧
        RowAccepted (fontID.font PBMData) PBMYPos := by
  have hstart := getCenteredXPos_toNat fontID PBMData string htotal
  have hplace : (fontID.font PBMData).getCenteredXPos string =
      .ofNat (centredStart (fontID.font PBMData) string) := by
    rw [← UInt16.ofNat_toNat (x := (fontID.font PBMData).getCenteredXPos string), hstart]
    rfl
  have hprints := @exists_printsAll_iff string.toList PBMData
    ((fontID.font PBMData).getCenteredXPos string) (printedYPos (fontID.font PBMData) PBMYPos)
    frame fontID hdata hknown hframe (by omega)
  have hstrict : lastCellEnd (fontID.font PBMData) string ≠ LCD_SCREEN_WIDTH ↔
      lastCellEnd (fontID.font PBMData) string < LCD_SCREEN_WIDTH := hend.lt_iff_ne.symm
  rw [rowAccepted_iff, hstart, String.toList_eq_nil_iff] at hprints
  rw [hstrict, WrittenCentred, ← hplace, writeStringOnPBMFrame, writeString_centred hfont string hX]
  refine Iff.trans ⟨?_, fun h => ⟨hstart, ?_⟩⟩ hprints
  · rintro ⟨-, s', hall, -⟩
    exact ⟨s', hall⟩
  · obtain ⟨s', hall⟩ := h
    rw [forM_eq_ok_iff.mpr hall]
    exact ⟨s', hall, rfl⟩

/-- A short string in the middle of an empty frame. -/
theorem writeStringOnPBMFrame_centred_ab :
    WrittenCentred (FontMonospace85 (List.replicate 960 0)) "ab" (-1) (List.replicate 960 0)
      (writeStringOnPBMFrame ⟨fun _ => .ok (List.replicate 960 0)⟩ .MONOSPACE85 "ab" (-1) (-1)
        (List.replicate 960 0)).1 :=
  (writeStringOnPBMFrame_centred_iff ⟨fun _ => .ok (List.replicate 960 0)⟩ .MONOSPACE85
    (List.replicate 960 0) rfl (List.length_replicate.trans (bitmapBytes_font .MONOSPACE85 _).symm)
    "ab" (List.all_eq_true.mp (by decide)) (by decide) (by decide) (-1) (-1) (by decide)
    (List.replicate 960 0) List.length_replicate).mpr (.inr ⟨by decide, .inl (by decide)⟩)

/-- 32 characters that fill the whole width: the last one is not printed. -/
theorem not_writtenCentred_32 : ¬ ∀ (fonts : FontsManager) (fontID : FontID) (PBMData : PixelsData),
    fonts.readPBM fontID = .ok PBMData → PBMData.length = (fontID.font PBMData).bitmapBytes →
    ∀ string : String,
      (∀ c ∈ string.toList, ((fontID.font PBMData).charsMap.lookup c).isSome) →
      (fontID.font PBMData).totalAdvance string.toList ≤ LCD_SCREEN_WIDTH →
      lastCellEnd (fontID.font PBMData) string ≤ LCD_SCREEN_WIDTH →
    ∀ PBMXPos PBMYPos : Int16, PBMXPos < 0 → PBMYPos < 0 →
    ∀ frame : PixelsData, frame.length = DEFAULT_PBM_DATA_IN_BYTES →
      WrittenCentred (fontID.font PBMData) string PBMYPos frame
        (writeStringOnPBMFrame fonts fontID string PBMXPos PBMYPos frame).1 := by
  intro hall
  have hwritten := hall ⟨fun _ => .ok (List.replicate 960 0)⟩ .MONOSPACE85
    (List.replicate 960 0) rfl
    (List.length_replicate.trans (bitmapBytes_font .MONOSPACE85 _).symm)
    "abcdefghijklmnopqrstuvwxyzabcdef" (List.all_eq_true.mp (by decide)) (by decide) (by decide)
    (-1) (-1) (by decide) (by decide) (List.replicate 960 0) List.length_replicate
  obtain ⟨-, s', hprints, -⟩ := hwritten
  have hplace := (exists_printsAll_iff .MONOSPACE85
    (List.length_replicate.trans (bitmapBytes_font .MONOSPACE85 _).symm)
    (List.all_eq_true.mp (by decide)) List.length_replicate (by decide)).mp ⟨s', hprints⟩
  rcases hplace with hnil | ⟨hend, -⟩
  · cases hnil
  · revert hend
    decide

end GLogiK
