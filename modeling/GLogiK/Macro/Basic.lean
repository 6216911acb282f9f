import GLogiK.Base
import Mathlib.Data.List.Sort

/-!
# Checking recorded macros

The passes of `GKeysMacro`: the positions of press and release events are collected, missing
release events are added and redundant ones erased, and a macro that is still too long is
shortened. A position is the number of events before it.
-/

namespace GLogiK

/-- An event of a macro and its position. -/
structure MacroEvent where
  key : KeyEvent
  index : ℕ
  deriving DecidableEq, Repr

/-- The press and the release events of a macro whose first position is `i`. -/
def fillInVectors (i : ℕ) : MacroType → List MacroEvent × List MacroEvent
  | [] => ([], [])
  | e :: m =>
    let (pressedEvents, releasedEvents) := fillInVectors (i + 1) m
    match e.event with
    | .eventKeyPress   => (⟨e, i⟩ :: pressedEvents, releasedEvents)
    | .eventKeyRelease => (pressedEvents, ⟨e, i⟩ :: releasedEvents)
    | .eventKeyUnknown => (pressedEvents, releasedEvents)

/-- The first release of the key after `pressed`, and the list with that release erased. -/
def takeRelease (pressed : MacroEvent) :
    List MacroEvent → Option (MacroEvent × List MacroEvent)
  | [] => none
  | r :: rs =>
    if pressed.key.code = r.key.code ∧ pressed.index < r.index then some (r, rs)
    else (takeRelease pressed rs).map fun p => (p.1, r :: p.2)

/-- The event added for a press that has no release. -/
def missingRelease (e : KeyEvent) : KeyEvent :=
  { e with event := .eventKeyRelease, interval := 1 }

/-- First loop of `fixMacroReleaseEvents`: every press consumes its release or gets a new one
at the end of the macro. The releases that are left are redundant. -/
def addMissingReleases :
    List MacroEvent → List MacroEvent → MacroType → MacroType × List MacroEvent
  | [], releasedEvents, m => (m, releasedEvents)
  | pressed :: pressedEvents, releasedEvents, m =>
    match takeRelease pressed releasedEvents with
    | some (_, rest) => addMissingReleases pressedEvents rest m
    | none => addMissingReleases pressedEvents releasedEvents (m ++ [missingRelease pressed.key])

/-- Second loop of `fixMacroReleaseEvents`: erase the redundant releases, last one first. -/
def eraseRedundantReleases (redundant : List MacroEvent) (m : MacroType) : MacroType :=
  redundant.reverse.foldl (fun m r => m.eraseIdx r.index) m

def fixMacroReleaseEvents (pressedEvents releasedEvents : List MacroEvent) (m : MacroType) :
    MacroType :=
  let (m, redundant) := addMissingReleases pressedEvents releasedEvents m
  eraseRedundantReleases redundant m

/-- The positions of the presses that have a release, and of these releases. -/
def pairIndexes : List MacroEvent → List MacroEvent → List ℕ → List ℕ
  | [], _, indexes => indexes
  | pressed :: pressedEvents, releasedEvents, indexes =>
    match takeRelease pressed releasedEvents with
    | some (r, rest) => pairIndexes pressedEvents rest (indexes ++ [pressed.index, r.index])
    | none => pairIndexes pressedEvents releasedEvents indexes

/-- Erase positions two by two while the macro is too long; the head of the list is the back
of the sorted vector. -/
def eraseBack : List ℕ → MacroType → MacroType
  | j :: i :: indexes, m =>
    if MACRO_T_MAX_SIZE ≤ m.length then eraseBack indexes ((m.eraseIdx j).eraseIdx i) else m
  | _, m => m

def fixMacroSize (pressedEvents releasedEvents : List MacroEvent) (m : MacroType) : MacroType :=
  let indexes := (pairIndexes pressedEvents releasedEvents []).insertionSort (· ≤ ·)
  let m := eraseBack indexes.reverse m
  -- last resort, `macro.resize(MACRO_T_MAX_SIZE - 1)`
  if MACRO_T_MAX_SIZE ≤ m.length then m.take (MACRO_T_MAX_SIZE - 1) else m

def checkMacro (m : MacroType) : MacroType :=
  let (pressedEvents, releasedEvents) := fillInVectors 0 m
  let m := fixMacroReleaseEvents pressedEvents releasedEvents m
  if MACRO_T_MAX_SIZE ≤ m.length then
    let (pressedEvents, releasedEvents) := fillInVectors 0 m
    fixMacroSize pressedEvents releasedEvents m
  else m

end GLogiK
