import GLogiK.LCD.PBM
import GLogiK.Lib.InputStream

/-!
# PBM files

`PBMFile` reads the bitmap of a frame or of a font from a file. The header has two numbers, which
are converted as `std::stoul` does and narrowed to 16 bits.
-/

namespace GLogiK

open Actions

/-! ### Numbers -/

abbrev Bytes := List UInt8

/-- Blanks of the C locale. -/
def isspace (c : UInt8) : Bool := c = 0x20 || (0x09 ≤ c && c ≤ 0x0d)

def isdigit (c : UInt8) : Bool := 0x30 ≤ c && c ≤ 0x39

def decimalValue (digits : Bytes) : ℕ := digits.foldl (fun n c => 10 * n + (c.toNat - 0x30)) 0

/-- Whether there is a minus sign, and what follows the sign. -/
def dropSign : Bytes → Bool × Bytes
  | 0x2b :: s => (false, s)
  | 0x2d :: s => (true, s)
  | s         => (false, s)

inductive StdExcept
  | invalid_argument
  | out_of_range
  deriving DecidableEq, Repr

/-- What follows the digits is not looked at, and a minus sign negates modulo 2^64. -/
def stoul (s : Bytes) : Except StdExcept ℕ :=
  let signed := dropSign (s.dropWhile isspace)
  let digits := signed.2.takeWhile isdigit
  let value := decimalValue digits
  if digits = [] then .error .invalid_argument
  else if value ≥ 2 ^ 64 then .error .out_of_range
  else .ok (if signed.1 then (2 ^ 64 - value) % 2 ^ 64 else value)

def toUL (s : Bytes) : Except String ℕ :=
  match stoul s with
  | .error .invalid_argument => .error "stoul invalid argument"
  | .error .out_of_range     => .error "stoul out of range"
  | .ok ret                  => .ok ret

def toUInt (s : Bytes) : Except String UInt32 := do
  let ret ← toUL s
  if ret > 2 ^ 32 - 1 then .error "UINT_MAX out of range" else .ok (.ofNat ret)

/-! ### The header -/

/-- What the stream throws, and what `PBMFile` and the conversions throw. -/
inductive PBMExcept
  | failure
  | GLogiKExcept (e : String)
  deriving DecidableEq, Repr

abbrev PBMAction := Action PBMExcept (InputStream UInt8)

def PBMAction.ofExcept {α : Type} : Except String α → PBMAction α
  | .error e  => throw (.GLogiKExcept e)
  | .ok value => pure value

def white : UInt8 := 0x0a

def space : UInt8 := 0x20

def comment : UInt8 := 0x23

/-- The loop, for as many comments as there are bytes at most. -/
def skipComments : ℕ → PBMAction Unit
  | 0     => throw .failure
  | n + 1 => do
    let c ← InputStream.get .failure
    if c = comment then
      let _ ← InputStream.getline .failure white
      skipComments n
    else InputStream.unget .failure

/-- The magic, the width and the height. -/
def parsePBMHeader : PBMAction (Bytes × UInt16 × UInt16) := do
  let magic ← InputStream.getline .failure white
  (fun pbm => skipComments (pbm.rest.length + 1) pbm : PBMAction Unit)
  let ex ← InputStream.getline .failure space
  let width ← PBMAction.ofExcept (toUInt ex)
  let ex ← InputStream.getline .failure white
  let height ← PBMAction.ofExcept (toUInt ex)
  pure (magic, width.toUInt16, height.toUInt16)

/-! ### The data -/

def extractPBMData (PBMData : PixelsData) : PBMAction PixelsData := do
  let data ← InputStream.read .failure PBMData.length
  if PBMData.length ≠ data.length then throw (.GLogiKExcept "unexpected numbers of bytes read")
  else do
    InputStream.ignore .failure
    let eof ← InputStream.eof
    if ¬ eof then throw (.GLogiKExcept "EoF NOT reached, that is unexpected") else pure data

/-- The magic of a bitmap in bytes. -/
def P4 : Bytes := [0x50, 0x34]

def readHeaderAndData (PBMData : PixelsData) (PBMWidth PBMHeight : UInt16) :
    PBMAction PixelsData := do
  let (magic, width, height) ← parsePBMHeader
  if magic ≠ P4 ∨ width ≠ PBMWidth ∨ height ≠ PBMHeight then
    throw (.GLogiKExcept "wrong PBM header")
  else extractPBMData PBMData

/-- The file could be opened, and has these bytes. -/
def readPBM (file : Bytes) (PBMData : PixelsData) (PBMWidth PBMHeight : UInt16) :
    Except String PixelsData :=
  match (readHeaderAndData PBMData PBMWidth PBMHeight { rest := file }).1 with
  | .error .failure          => .error "PBM ifstream error"
  | .error (.GLogiKExcept e) => .error e
  | .ok data                 => .ok data

end GLogiK
