import GLogiK.LCD.CenteredStrings

/-!
# Displayed text

A string that is written on a frame is seen on the LCD screen: of each character that is printed,
the pixels that the next one leaves, and around the text whatever was there.
-/

namespace GLogiK

open Actions Bitmap PBMFont

/-! ### The screen -/

/-- A pixel of the LCD screen: a byte has eight pixels of a column. -/
def lcdPixel (LCDBuffer : PixelsData) (x y : ℕ) : Bool :=
  (LCDBuffer.getD (LCD_DATA_HEADER_OFFSET + x + DEFAULT_PBM_WIDTH * (y / 8)) 0).toNat.testBit (y % 8)

/-- The pixels of the frame are the pixels of the screen. -/
lemma lcdPixel_dump {LCDBuffer frame : PixelsData} {x y : ℕ}
    (hbuffer : LCDBuffer.length = DEFAULT_PBM_DATA_IN_BYTES + LCD_DATA_HEADER_OFFSET)
    (hx : x < DEFAULT_PBM_WIDTH) (hy : y < DEFAULT_PBM_HEIGHT) :
    lcdPixel (dumpPBMDataIntoLCDBuffer LCDBuffer frame).LCDBuffer.data x y = pixel frame x y := by
  have hlength : LCDBuffer.length = 992 := hbuffer
  rw [DEFAULT_PBM_WIDTH] at hx
  rw [DEFAULT_PBM_HEIGHT] at hy
  rw [lcdPixel, dumpPBMDataIntoLCDBuffer_eq, dumpedAt, List.getD_eq_getElem?_getD, getElem?_dumped,
    LCD_DATA_HEADER_OFFSET, DEFAULT_PBM_WIDTH, if_pos (by omega), Option.getD_some,
    testBit_columnByte _ (Nat.mod_lt y (by decide)), pixel, bitAt, DEFAULT_PBM_WIDTH]
  have hindex : columnIndex (32 + x + 160 * (y / 8) - 32) (y % 8) = (160 * y + x) / 8 := by
    rw [columnIndex]
    omega
  have hbit : (32 + x + 160 * (y / 8) - 32) % 8 = (160 * y + x) % 8 := by omega
  rw [hindex, hbit]

/-! ### Text -/

namespace PBMFont

variable {font : PBMFont} {screen : ℕ → ℕ → Bool} {x y : ℕ} {c : Char} {cs : List Char}

/-- A character that is printed. -/
def Accepted (font : PBMFont) (y x : ℕ) (c : Char) : Prop :=
  (font.charsMap.lookup c).isSome ∧ x + font.charWidth.toNat < LCD_SCREEN_WIDTH ∧
    y + font.charHeight.toNat < LCD_SCREEN_HEIGHT

instance (font : PBMFont) (y x : ℕ) (c : Char) : Decidable (font.Accepted y x c) :=
  inferInstanceAs (Decidable (_ ∧ _))

/-- The characters up to the first one that is refused. -/
def printedChars (font : PBMFont) (y : ℕ) : ℕ → List Char → List Char
  | _, []      => []
  | x, c :: cs =>
    if font.Accepted y x c then c :: font.printedChars y (x + font.advance c) cs else []

/-- The screen shows the text from a column on. A character may reach into the next one, which is
printed over it. -/
def Shows (font : PBMFont) (screen : ℕ → ℕ → Bool) (y : ℕ) : ℕ → List Char → Prop
  | _, []      => True
  | x, c :: cs =>
    (∃ charX charY, font.charsMap.lookup c = some (charX, charY) ∧
      ∀ k < font.charWidth.toNat, (cs = [] ∨ k < font.advance c) →
        ∀ i < font.charHeight.toNat, screen (x + k) (y + i) = font.charPixel charX charY i k) ∧
    font.Shows screen y (x + font.advance c) cs

/-- The pixels around a text: above, below, and on its left. -/
def Around (font : PBMFont) (y x px py : ℕ) : Prop :=
  py < y ∨ y + font.charHeight.toNat ≤ py ∨ px < x

variable {PBMXPos PBMYPos : UInt16} {frame frame' : PixelsData}

/-- What printing leaves: all characters up to the first refused one, and nothing else. -/
structure Printed (font : PBMFont) (y x : ℕ) (cs : List Char) (frame frame' : PixelsData) :
    Prop where
  length : frame'.length = frame.length
  shows : font.Shows (pixel frame') y x cs
  around : ∀ px py, px < DEFAULT_PBM_WIDTH → font.Around y x px py →
    pixel frame' px py = pixel frame px py
  nothing : cs = [] → frame' = frame

/-- A refused character is not printed. -/
lemma printCharacterOnFrame_refused {s : PrintState}
    (h : ¬ font.Accepted PBMYPos.toNat s.PBMXPos.toNat c) :
    ∃ e, font.printCharacterOnFrame c PBMYPos s = (.error e, s) := by
  rw [printCharacterOnFrame]
  split
  case h_1 hunknown => exact ⟨_, rfl⟩
  case h_2 charX charY hchar =>
    split_ifs with hx hy
    · exact ⟨_, rfl⟩
    · exact ⟨_, rfl⟩
    · refine absurd ⟨?_, ?_, ?_⟩ h
      · rw [hchar]
        rfl
      · omega
      · omega

/-- The characters are printed one over the end of another. -/
lemma Printed.cons {charX charY : ℕ} {frame'' : PixelsData}
    (hchar : font.charsMap.lookup c = some (charX, charY))
    (hx : x + font.charWidth.toNat < LCD_SCREEN_WIDTH)
    (hcell : CellPrinted frame frame' x y font.charWidth.toNat font.charHeight.toNat
      (font.charPixel charX charY))
    (hrest : font.Printed y (x + font.advance c) cs frame' frame'') :
    font.Printed y x (c :: cs) frame frame'' where
  length := hrest.length.trans hcell.length
  shows := by
    refine ⟨⟨charX, charY, hchar, fun k hk hover i hi => ?_⟩, hrest.shows⟩
    have hbit : pixel frame' (x + k) (y + i) = font.charPixel charX charY i k := by
      rw [pixel, ← hcell.bits i hi k hk, DEFAULT_PBM_WIDTH, Nat.add_assoc]
    rw [← hbit]
    rcases hover with hlast | hk'
    · rw [hrest.nothing hlast]
    · rw [LCD_SCREEN_WIDTH] at hx
      apply hrest.around
      · rw [DEFAULT_PBM_WIDTH]
        omega
      · exact .inr (.inr (Nat.add_lt_add_left hk' x))
  around px py hpx hp := by
    have hafter : pixel frame'' px py = pixel frame' px py := by
      apply hrest.around px py hpx
      rcases hp with habove | hbelow | hleft
      · exact .inl habove
      · exact .inr (.inl hbelow)
      · exact .inr (.inr (Nat.lt_add_right _ hleft))
    rw [hafter]
    rw [DEFAULT_PBM_WIDTH] at hpx
    apply hcell.others
    rw [DEFAULT_PBM_WIDTH]
    rw [Around] at hp
    omega
  nothing h := nomatch h

/-- The loop over the characters ends with the first one that is refused. -/
lemma forM_printCharacterOnFrame (id : FontID) {PBMData : PixelsData}
    (hdata : PBMData.length = (id.font PBMData).bitmapBytes)
    (hframe : frame.length = DEFAULT_PBM_DATA_IN_BYTES) :
    ((cs.forM (fun c => (id.font PBMData).printCharacterOnFrame c PBMYPos) ⟨frame, PBMXPos⟩).1 =
        .ok () ↔ (id.font PBMData).printedChars PBMYPos.toNat PBMXPos.toNat cs = cs) ∧
      (id.font PBMData).Printed PBMYPos.toNat PBMXPos.toNat
        ((id.font PBMData).printedChars PBMYPos.toNat PBMXPos.toNat cs) frame
        (cs.forM (fun c => (id.font PBMData).printCharacterOnFrame c PBMYPos)
          ⟨frame, PBMXPos⟩).2.frame := by
  induction cs generalizing frame PBMXPos with
  | nil => exact ⟨iff_of_true rfl rfl, rfl, trivial, fun _ _ _ _ => rfl, fun _ => rfl⟩
  | cons c cs ih =>
    rw [printedChars]
    by_cases haccepted : (id.font PBMData).Accepted PBMYPos.toNat PBMXPos.toNat c
    · obtain ⟨hknown, hx, hy⟩ := haccepted
      obtain ⟨⟨charX, charY⟩, hchar⟩ := Option.isSome_iff_exists.mp hknown
      obtain ⟨frame', hok, hcell⟩ := printCharacterOnFrame_ok id hdata hchar hframe hx hy
      have hnext := (advance_spec id PBMData c PBMXPos (by omega)).1
      have hloop : (c :: cs).forM (fun c => (id.font PBMData).printCharacterOnFrame c PBMYPos)
          ⟨frame, PBMXPos⟩ = _ := bind_of_ok hok
      obtain ⟨hend, hprinted⟩ :=
        @ih ((id.font PBMData).nextXPos c PBMXPos) frame' (hcell.length.trans hframe)
      rw [hnext] at hend hprinted
      rw [if_pos ⟨hknown, hx, hy⟩, hloop]
      refine ⟨hend.trans ⟨congrArg _, fun h => (List.cons.inj h).2⟩, ?_⟩
      exact hprinted.cons hchar hx hcell
    · obtain ⟨e, hrefused⟩ :=
        @printCharacterOnFrame_refused (id.font PBMData) c PBMYPos ⟨frame, PBMXPos⟩ haccepted
      have hloop : (c :: cs).forM (fun c => (id.font PBMData).printCharacterOnFrame c PBMYPos)
          ⟨frame, PBMXPos⟩ = _ := bind_of_error hrefused
      rw [if_neg haccepted, hloop]
      exact ⟨iff_of_false nofun nofun, rfl, trivial, fun _ _ _ _ => rfl, fun _ => rfl⟩

/-- A text is shown on the LCD screen as it is in the frame. -/
lemma Shows.lcd {LCDBuffer : PixelsData}
    (hbuffer : LCDBuffer.length = DEFAULT_PBM_DATA_IN_BYTES + LCD_DATA_HEADER_OFFSET)
    (h : font.Shows (pixel frame) y x (font.printedChars y x cs)) :
    font.Shows (lcdPixel (dumpPBMDataIntoLCDBuffer LCDBuffer frame).LCDBuffer.data) y x
      (font.printedChars y x cs) := by
  induction cs generalizing x with
  | nil => trivial
  | cons c cs ih =>
    rw [printedChars] at h ⊢
    split_ifs at h ⊢ with haccepted
    · obtain ⟨⟨charX, charY, hchar, hpixels⟩, hrest⟩ := h
      refine ⟨⟨charX, charY, hchar, fun k hk hover i hi => ?_⟩, ih hrest⟩
      obtain ⟨-, hx, hy⟩ := haccepted
      rw [LCD_SCREEN_WIDTH] at hx
      rw [LCD_SCREEN_HEIGHT] at hy
      rw [← hpixels k hk hover i hi]
      apply lcdPixel_dump hbuffer
      · rw [DEFAULT_PBM_WIDTH]
        omega
      · rw [DEFAULT_PBM_HEIGHT]
        omega
    · trivial

end PBMFont

/-! ### Writing -/

open PBMFont LCDPlugin

/-- What was printed stays, and a warning tells of an exception. -/
lemma writeStringOnPBMFrame_eq (fonts : FontsManager) (fontID : FontID) (string : String)
    (PBMXPos PBMYPos : Int16) (frame : PixelsData) :
    let written := writeStringOnPBMFrame fonts fontID string PBMXPos PBMYPos frame
    let tried := writeString fonts fontID string PBMXPos PBMYPos ⟨frame, 0⟩
    written.1 = tried.2.frame ∧ (written.2 = none ↔ tried.1 = .ok ()) := by
  intro written tried
  rcases htried : writeString fonts fontID string PBMXPos PBMYPos ⟨frame, 0⟩ with ⟨e | _, s⟩
  · have hwritten : written = (s.frame, some e) := by
      simp only [written, writeStringOnPBMFrame, htried]
    rw [hwritten, show tried = _ from htried]
    exact ⟨rfl, by simp⟩
  · have hwritten : written = (s.frame, none) := by
      simp only [written, writeStringOnPBMFrame, htried]
    rw [hwritten, show tried = _ from htried]
    exact ⟨rfl, iff_of_true rfl rfl⟩

/-- A string that is written on the frame is seen on the LCD screen up to the first character that
is refused, and nothing else of the screen is changed above, below, and on the left. There is no
warning exactly when the whole string is seen. -/
theorem writeStringOnPBMFrame_shown (fonts : FontsManager) (fontID : FontID) (PBMData : PixelsData)
    (hfont : fonts.readPBM fontID = .ok PBMData)
    (hdata : PBMData.length = (fontID.font PBMData).bitmapBytes) (string : String)
    (PBMXPos PBMYPos : Int16) (frame : PixelsData)
    (hframe : frame.length = DEFAULT_PBM_DATA_IN_BYTES) (LCDBuffer : PixelsData)
    (hbuffer : LCDBuffer.length = DEFAULT_PBM_DATA_IN_BYTES + LCD_DATA_HEADER_OFFSET) :
    let font := fontID.font PBMData
    let x := (printedXPos font string PBMXPos).toNat
    let y := (printedYPos font PBMYPos).toNat
    let shown := font.printedChars y x string.toList
    let written := writeStringOnPBMFrame fonts fontID string PBMXPos PBMYPos frame
    let screen := fun frame => lcdPixel (dumpPBMDataIntoLCDBuffer LCDBuffer frame).LCDBuffer.data
    (written.2 = none ↔ shown = string.toList) ∧
      font.Shows (screen written.1) y x shown ∧
      ∀ px py, px < DEFAULT_PBM_WIDTH → py < DEFAULT_PBM_HEIGHT → font.Around y x px py →
        screen written.1 px py = screen frame px py := by
  intro font x y shown written screen
  obtain ⟨hend, hprinted⟩ := @forM_printCharacterOnFrame string.toList
    (printedXPos font string PBMXPos) (printedYPos font PBMYPos) frame fontID PBMData hdata hframe
  rw [← writeString_eq hfont string PBMXPos PBMYPos ⟨frame, 0⟩] at hend hprinted
  obtain ⟨hframe', hwarning⟩ := writeStringOnPBMFrame_eq fonts fontID string PBMXPos PBMYPos frame
  rw [← hframe'] at hprinted
  refine ⟨hwarning.trans hend, hprinted.shows.lcd hbuffer, fun px py hpx hpy haround => ?_⟩
  have hafter : screen written.1 px py = pixel written.1 px py := lcdPixel_dump hbuffer hpx hpy
  have hbefore : screen frame px py = pixel frame px py := lcdPixel_dump hbuffer hpx hpy
  rw [hafter, hbefore]
  exact hprinted.around px py hpx haround

/-- The second character is written when the first one leaves enough place. -/
theorem writeStringOnPBMFrame_shown_ab :
    (writeStringOnPBMFrame ⟨fun _ => .ok (List.replicate 960 0)⟩ .MONOSPACE85 "ab" 149 5
      (List.replicate 960 0)).2 = none ∧
    (writeStringOnPBMFrame ⟨fun _ => .ok (List.replicate 960 0)⟩ .MONOSPACE85 "ab" 150 5
      (List.replicate 960 0)).2 ≠ none := by
  have hshown := fun PBMXPos => (writeStringOnPBMFrame_shown
    ⟨fun _ => .ok (List.replicate 960 0)⟩ .MONOSPACE85 (List.replicate 960 0) rfl
    (List.length_replicate.trans (bitmapBytes_font .MONOSPACE85 _).symm) "ab" PBMXPos 5
    (List.replicate 960 0) List.length_replicate (List.replicate 992 0) List.length_replicate).1
  exact ⟨(hshown 149).mpr (by decide), mt (hshown 150).mp (by decide)⟩

end GLogiK
