import GLogiK.LCD.PBMFont
import GLogiK.Lib.Cells

/-!
# Drawing on a frame

What an `LCDPlugin` writes and draws on its current frame: strings in one of the fonts, the progress
bar, and vertical lines. The drawings access the frame without check.
-/

namespace GLogiK

open Actions

/-! ### Strings -/

/-- A font is made when it is used first, and it can only be made when its bitmap can be read. -/
structure FontsManager where
  readPBM : FontID → Except String PixelsData

namespace FontsManager

variable (fonts : FontsManager)

/-- The font that is used, and the exception when it cannot be made. -/
def withFont {α : Type} (fontID : FontID) (use : PBMFont → Action String PrintState α) :
    Action String PrintState α := fun s =>
  match fonts.readPBM fontID with
  | .error e   => (.error e, s)
  | .ok bitmap => use (fontID.font bitmap) s

def getCenteredXPos (fontID : FontID) (string : String) : Action String PrintState UInt16 :=
  fonts.withFont fontID fun font => pure (font.getCenteredXPos string)

def getCenteredYPos (fontID : FontID) : Action String PrintState UInt16 :=
  fonts.withFont fontID fun font => pure font.getCenteredYPos

def printCharacterOnFrame (fontID : FontID) (c : Char) (PBMYPos : UInt16) :
    Action String PrintState Unit :=
  fonts.withFont fontID fun font => font.printCharacterOnFrame c PBMYPos

end FontsManager

namespace LCDPlugin

/-- A negative position is the centred one. -/
def writtenXPos (fonts : FontsManager) (fontID : FontID) (string : String) (PBMXPos : Int16) :
    Action String PrintState UInt16 :=
  if PBMXPos < 0 then fonts.getCenteredXPos fontID string else pure PBMXPos.toUInt16

def writtenYPos (fonts : FontsManager) (fontID : FontID) (PBMYPos : Int16) :
    Action String PrintState UInt16 :=
  if PBMYPos < 0 then fonts.getCenteredYPos fontID else pure PBMYPos.toUInt16

/-- What is tried. -/
def writeString (fonts : FontsManager) (fontID : FontID) (string : String)
    (PBMXPos PBMYPos : Int16) : Action String PrintState Unit := do
  let XPos ← writtenXPos fonts fontID string PBMXPos
  let YPos ← writtenYPos fonts fontID PBMYPos
  modify fun s => { s with PBMXPos := XPos }
  string.toList.forM fun c => fonts.printCharacterOnFrame fontID c YPos

/-- The frame, and the warning in the log when something went wrong. -/
def writeStringOnPBMFrame (fonts : FontsManager) (fontID : FontID) (string : String)
    (PBMXPos PBMYPos : Int16) (frame : PixelsData) : PixelsData × Option String :=
  match writeString fonts fontID string PBMXPos PBMYPos ⟨frame, 0⟩ with
  | (.ok _, s)    => (s.frame, none)
  | (.error e, s) => (s.frame, some e)

/-! ### The progress bar -/

def PROGRESS_BAR_WIDTH : ℕ := 102

def PROGRESS_BAR_HEIGHT : ℕ := 7

/-- `frame[i] |= bits`. -/
def orAt (frame : Cells UInt8) (i bits : ℕ) : Cells UInt8 :=
  frame.modify i fun byte => .ofNat (byte.toNat ||| bits)

def drawHorizontalLine (frame : Cells UInt8) (index : UInt16) : Cells UInt8 :=
  (List.range 12).foldl (fun frame i => frame.set (index.toNat + i) 0b11111111)
    (orAt frame (index.toNat + 12) 0b11111100)

/-- The pattern of the bar on the left of the percentage, and its border on the right. -/
def progressByte (percent : UInt16) (line i : ℕ) : UInt8 :=
  let B10 : UInt8 := 0b10101010
  let B01 : UInt8 := 0b01010101
  let B11 : UInt8 := 0b11111111
  let percentByte := percent.toNat / 8
  let leftShift := 8 - 1 - percent.toNat % 8
  let Byte1 := if line % 2 = 1 then B10 else B01
  let Byte2 := if line % 2 = 1 then B01 else B10
  let cByte := if leftShift % 2 = 1 then Byte2 else Byte1
  let getShiftedByte := fun b : UInt8 => UInt8.ofNat (b.toNat <<< leftShift)
  if i = 0 ∧ percent.toNat < 8 then getShiftedByte cByte
  else if i < percentByte then (if i < 8 then Byte1 else B11)
  else if i = percentByte then (if i < 8 then getShiftedByte cByte else getShiftedByte B11)
  else 0

def drawProgressBarLine (percent : UInt16) (frame : Cells UInt8) (index : UInt16) (line : ℕ) :
    Cells UInt8 :=
  let frame := (List.range 12).foldl
    (fun frame i => frame.set (index.toNat + i) (progressByte percent line i)) frame
  let leftShift := 8 - 1 - percent.toNat % 8
  let frame := frame.set (index.toNat + 12)
    (if percent.toNat / 8 = 12 then .ofNat (0b11111111 <<< leftShift) else 0)
  orAt (orAt frame index.toNat 0b10000000) (index.toNat + 12) 0b00000100

/-- The index of the first byte of a drawing. -/
def drawingIndex (PBMXPos PBMYPos : UInt16) : UInt16 :=
  .ofNat (DEFAULT_PBM_WIDTH_IN_BYTES * PBMYPos.toNat + PBMXPos.toNat / 8)

/-- The index of the first byte of a line below. -/
def lineIndex (index : UInt16) (i : ℕ) : UInt16 :=
  .ofNat (index.toNat + DEFAULT_PBM_WIDTH_IN_BYTES * i)

/-- One horizontal line, five lines of the bar, and one horizontal line. -/
def drawProgressBar (percent index : UInt16) (frame : Cells UInt8) : Cells UInt8 :=
  let frame := drawHorizontalLine frame index
  let frame := (List.range' 1 (PROGRESS_BAR_HEIGHT - 2)).foldl
    (fun frame i => drawProgressBarLine percent frame (lineIndex index i) i) frame
  drawHorizontalLine frame (lineIndex index (PROGRESS_BAR_HEIGHT - 1))

/-- The frame, and the warning in the log. Only one byte of the first line is checked. -/
def drawProgressBarOnPBMFrame (percent PBMXPos PBMYPos : UInt16) (frame : Cells UInt8) :
    Cells UInt8 × Option String :=
  if PBMXPos.toNat + PROGRESS_BAR_WIDTH > LCD_SCREEN_WIDTH - 1 then
    (frame, some ("wrong progress bar X position : " ++ toString PBMXPos.toNat))
  else
    let index := drawingIndex PBMXPos PBMYPos
    if index.toNat + 12 < frame.data.length then (drawProgressBar percent index frame, none)
    else (frame, some "wrong frame index")

/-! ### The padlock -/

/-- The bytes of the padlock, one below another: closed, open again, or none. -/
def padlockBytes (lockedPlugin everLocked : Bool) : List UInt8 :=
  if lockedPlugin then
    [0b00000000, 0b00110000, 0b01001000, 0b01111000, 0b01111000, 0b01111000]
  else if everLocked then
    [0b00000110, 0b00001001, 0b00001000, 0b01111000, 0b01111000, 0b01111000]
  else [0, 0, 0, 0, 0, 0]

/-- Both positions are 1. The frame, and `_everLocked` after the call. -/
def drawPadlockOnPBMFrame (lockedPlugin everLocked : Bool) (frame : Cells UInt8) :
    Cells UInt8 × Bool :=
  let index := drawingIndex 1 1
  let everLocked := everLocked || lockedPlugin
  let frame := (padlockBytes lockedPlugin everLocked).zipIdx.foldl
    (fun frame entry => frame.set (index.toNat + DEFAULT_PBM_WIDTH_IN_BYTES * entry.2) entry.1)
    frame
  (frame, everLocked)

/-- A plugin whose calls all draw the padlock keeps the flag once it is set. -/
lemma everLocked_foldl {σ γ : Type*} {next : σ → γ → σ} {everLocked : σ → Bool}
    {lockedPlugin : γ → Bool}
    (h : ∀ s call, everLocked (next s call) = (everLocked s || lockedPlugin call)) (s : σ)
    (calls : List γ) :
    everLocked (calls.foldl next s) = (everLocked s || calls.any lockedPlugin) := by
  induction calls generalizing s with
  | nil => exact (Bool.or_false _).symm
  | cons call calls ih => rw [List.foldl_cons, ih, h, List.any_cons, Bool.or_assoc]

/-! ### Vertical lines -/

/-- The first row is left out. -/
def drawVerticalLineOnPBMFrame (PBMXPos PBMYPos size : UInt16) (frame : Cells UInt8) :
    Cells UInt8 :=
  let index := drawingIndex PBMXPos PBMYPos
  (List.range' 1 (size.toNat - 1)).foldl
    (fun frame i => orAt frame (index.toNat + DEFAULT_PBM_WIDTH_IN_BYTES * i) 0b00100000) frame

end LCDPlugin

end GLogiK
