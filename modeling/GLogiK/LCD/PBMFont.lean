import GLogiK.LCD.PBM
import GLogiK.Lib.Actions

/-!
# Fonts

`PBMFont` and the three fonts. A font is a bitmap whose characters have all the same size; a
character is copied from there to a frame, line by line. A byte of a `std::string` is a `Char` below
256.
-/

namespace GLogiK

open Actions

/-- The degree symbol. -/
def deg : Char := '\xB0'

def hackstring : List Char := ['m', 'G', 'M', 'W', '%']

/-- The characters of a row of the bitmap, from left to right. -/
def charsRow (charY : ℕ) (characters : List Char) : List (Char × ℕ × ℕ) :=
  characters.zipIdx.map fun entry => (entry.1, entry.2, charY)

def defaultCharsMap : List (Char × ℕ × ℕ) :=
  charsRow 0 "abcdefghijklmnopqrstuvwxyz".toList ++
    charsRow 1 "ABCDEFGHIJKLMNOPQRSTUVWXYZ".toList ++
    charsRow 2 ("1234567890 .:?!;/-%".toList ++ [deg])

structure PBMFont where
  fontName : String
  PBMData : PixelsData
  PBMWidth : UInt16
  PBMHeight : UInt16
  charWidth : UInt16
  charHeight : UInt16
  fontLeftShift : UInt16 := 0
  extraLeftShift : UInt16 := 0
  charsMap : List (Char × ℕ × ℕ) := defaultCharsMap

/-! ### The fonts -/

def FontMonospace85 (PBMData : PixelsData) : PBMFont where
  fontName := "monospace85"
  PBMData := PBMData
  PBMWidth := 160
  PBMHeight := 48
  charWidth := 5
  charHeight := 10

def FontMonospace86 (PBMData : PixelsData) : PBMFont where
  fontName := "monospace86"
  PBMData := PBMData
  PBMWidth := 160
  PBMHeight := 48
  charWidth := 6
  charHeight := 10

def FontDejaVuSansBold1616 (PBMData : PixelsData) : PBMFont where
  fontName := "DejaVuSansBold1616"
  PBMData := PBMData
  PBMWidth := 416
  PBMHeight := 64
  charWidth := 16
  charHeight := 16
  fontLeftShift := 3
  extraLeftShift := 2

inductive FontID
  | MONOSPACE85
  | MONOSPACE86
  | DEJAVUSANSBOLD1616
  deriving DecidableEq, Repr

/-- The font that `initializeFont` makes from its bitmap. -/
def FontID.font : FontID → PixelsData → PBMFont
  | .MONOSPACE85        => FontMonospace85
  | .MONOSPACE86        => FontMonospace86
  | .DEJAVUSANSBOLD1616 => FontDejaVuSansBold1616

/-- What printing changes: the frame, and the position that goes on. -/
structure PrintState where
  frame : PixelsData
  PBMXPos : UInt16
  deriving DecidableEq, Repr

namespace PBMFont

variable (font : PBMFont)

def charBytes : ℕ := if font.charWidth.toNat / 8 = 0 then 1 else font.charWidth.toNat / 8

def shiftCharBase : ℕ := if font.charWidth.toNat % 8 = 0 then 8 else font.charWidth.toNat

/-! ### Centred positions -/

/-- One character is added to a string that ends at the right border. -/
def shiftCenteredXPos (XPos : UInt16) (c : Char) : UInt16 :=
  let XPos := XPos - (font.charWidth - font.fontLeftShift)
  if font.extraLeftShift > 0 ∧ c ∉ hackstring then XPos + font.extraLeftShift else XPos

def getCenteredXPos (string : String) : UInt16 :=
  string.toList.foldl font.shiftCenteredXPos (.ofNat LCD_SCREEN_WIDTH) / 2

def getCenteredYPos : UInt16 := (.ofNat LCD_SCREEN_HEIGHT - font.charHeight) / 2

/-! ### Lines of characters -/

/-- A byte at an index, and 0 when the index is wrong. -/
def byteAt (index : ℕ) (f : ℕ → ℕ) : UInt8 :=
  font.PBMData[index]?.elim 0 fun byte => .ofNat (f byte.toNat)

/-- Two bytes; only the second index is checked. -/
def bytesAt (index : ℕ) (f : ℕ → ℕ → ℕ) : UInt8 :=
  font.PBMData[index + 1]?.elim 0 fun next =>
    .ofNat (f (font.PBMData.getD index 0).toNat next.toNat)

/-- The index of the first byte of a line. -/
def lineIndex (charX charY line : ℕ) : UInt16 :=
  .ofNat (charY * font.charHeight.toNat * (font.PBMWidth.toNat / 8) +
    charX * font.charWidth.toNat / 8 + line * (font.PBMWidth.toNat / 8))

def getCharacterLine (charX charY line charByte : ℕ) : UInt8 :=
  let i := (font.lineIndex charX charY line).toNat
  if font.charWidth = 6 then
    match charX % 4 with
    | 0 => font.byteAt i fun byte => byte >>> 2
    | 1 => font.bytesAt i fun byte next => next >>> 4 ||| (byte &&& 0b00000011) <<< 4
    | 2 => font.bytesAt i fun byte next => next >>> 6 ||| (byte &&& 0b00001111) <<< 2
    | _ => font.byteAt i fun byte => byte &&& 0b00111111
  else if font.charWidth = 5 then
    match charX % 8 with
    | 0 => font.byteAt i fun byte => byte >>> 3
    | 1 => font.bytesAt i fun byte next => next >>> 6 ||| (byte &&& 0b00000111) <<< 2
    | 2 => font.byteAt i fun byte => (byte &&& 0b00111110) >>> 1
    | 3 => font.bytesAt i fun byte next => next >>> 4 ||| (byte &&& 0b00000001) <<< 4
    | 4 => font.bytesAt i fun byte next => next >>> 7 ||| (byte &&& 0b00001111) <<< 1
    | 5 => font.byteAt i fun byte => (byte &&& 0b01111100) >>> 2
    | 6 => font.bytesAt i fun byte next => next >>> 5 ||| (byte &&& 0b00000011) <<< 3
    | _ => font.byteAt i fun byte => byte &&& 0b00011111
  else if font.charWidth.toNat % 8 = 0 then font.byteAt (i + charByte) id
  else 0

/-! ### Printing -/

/-- `frame.at(i)` is changed. The index that is reported when it is wrong is the one of the first
byte. -/
def changeAt (index i : ℕ) (f : ℕ → ℕ) : Action ℕ PixelsData Unit := fun frame =>
  if i < frame.length then (.ok (), frame.modify i fun byte => .ofNat (f byte.toNat))
  else (.error index, frame)

/-- A byte of a line; with a right shift it goes on in the next byte of the frame. -/
def printByte (c : UInt8) (index xModuloComp8 : ℕ) (rightShift : ℤ) :
    Action ℕ PixelsData Unit := do
  changeAt index index fun byte => byte &&& 0b11111111 <<< xModuloComp8
  if rightShift > 0 then do
    changeAt index (index + 1) fun _ => c.toNat <<< (8 - rightShift).toNat
    changeAt index index fun byte => byte ||| c.toNat >>> rightShift.toNat
  else changeAt index index fun byte => byte ||| c.toNat <<< (-rightShift).toNat

def printLineByte (charX charY : ℕ) (PBMXPos PBMYPos : UInt16) (i j : ℕ) :
    Action ℕ PixelsData Unit :=
  let xByte := PBMXPos.toNat / 8
  let xModuloComp8 := 8 - PBMXPos.toNat % 8
  let rightShift : ℤ := font.shiftCharBase - xModuloComp8
  let c := font.getCharacterLine charX charY i j
  let index := UInt16.ofNat (DEFAULT_PBM_WIDTH_IN_BYTES * (PBMYPos.toNat + i) + xByte + j)
  printByte c index.toNat xModuloComp8 rightShift

def printLine (charX charY : ℕ) (PBMXPos PBMYPos : UInt16) (i : ℕ) : Action ℕ PixelsData Unit :=
  (List.range font.charBytes).forM (font.printLineByte charX charY PBMXPos PBMYPos i)

def printLines (charX charY : ℕ) (PBMXPos PBMYPos : UInt16) : Action ℕ PixelsData Unit :=
  (List.range font.charHeight.toNat).forM (font.printLine charX charY PBMXPos PBMYPos)

/-- The position of the next character. The characters of `hackstring` are wider than others. -/
def nextXPos (character : Char) (PBMXPos : UInt16) : UInt16 :=
  let PBMXPos := PBMXPos + (font.charWidth - font.fontLeftShift)
  if font.extraLeftShift > 0 ∧ character ∉ hackstring then PBMXPos - font.extraLeftShift
  else PBMXPos

/-- The exception is the text of a `GLogiKExcept`. -/
def printCharacterOnFrame (character : Char) (PBMYPos : UInt16) : Action String PrintState Unit :=
  fun s =>
    match font.charsMap.lookup character with
    | none =>
      (.error (font.fontName ++ " font : unknown character : " ++ String.singleton character), s)
    | some (charX, charY) =>
      if (s.PBMXPos.toNat : ℤ) ≥ LCD_SCREEN_WIDTH - font.charWidth.toNat then
        (.error (font.fontName ++ " font : pre-breaking write string loop : x : " ++
          toString s.PBMXPos.toNat), s)
      else if (PBMYPos.toNat : ℤ) ≥ LCD_SCREEN_HEIGHT - font.charHeight.toNat then
        (.error (font.fontName ++ " font : pre-breaking write string loop : y : " ++
          toString PBMYPos.toNat), s)
      else
        match font.printLines charX charY s.PBMXPos PBMYPos s.frame with
        | (.error index, frame) =>
          (.error (font.fontName ++ " font : wrong frame index : " ++ toString index),
            { s with frame })
        | (.ok _, frame)        => (.ok (), { frame, PBMXPos := font.nextXPos character s.PBMXPos })

end PBMFont

end GLogiK
