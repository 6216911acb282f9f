import GLogiK.Base
import GLogiK.DBus.ArgBase
import GLogiK.Lib.Actions
import Mathlib.Order.Basic

/-!
# Appending and reading arguments

The `Type…` classes append a value to a message, and the `Arg…` classes read it from the stacks of
a message that was decoded.
-/

namespace GLogiK

/-! ### Compound arguments -/

/-- `toEnumType` of an event value. -/
def EventValue.toEnumType : EventValue → UInt8
  | .eventKeyRelease => 0
  | .eventKeyPress   => 1
  | .eventKeyUnknown => 2

def EventValue.ofEnumType : UInt8 → Option EventValue
  | 0 => some .eventKeyRelease
  | 1 => some .eventKeyPress
  | 2 => some .eventKeyUnknown
  | _ => none

inductive GKBinary
  | invalid
  | daemon
  | desktopService
  | guiQt
  deriving DecidableEq, Repr

def GKBinary.toEnumType : GKBinary → UInt8
  | .invalid        => 0
  | .daemon         => 1
  | .desktopService => 2
  | .guiQt          => 3

def GKBinary.ofEnumType : UInt8 → Option GKBinary
  | 0 => some .invalid
  | 1 => some .daemon
  | 2 => some .desktopService
  | 3 => some .guiQt
  | _ => none

instance : LinearOrder GKBinary :=
  LinearOrder.lift' (fun bin => bin.toEnumType.toNat) fun a b => by
    cases a <;> cases b <;> decide

structure GKDependency where
  dependency : String
  compileTimeVersion : String
  runTimeVersion : String := "-"
  deriving DecidableEq, Repr

abbrev GKDepsArray := List GKDependency

abbrev GKDepsMap := StdMap GKBinary GKDepsArray

/-- The properties of an LCD plugin. -/
structure LCDPP where
  id : ℕ := 0
  name : String := "unknown"
  desc : String := "unknown"
  deriving DecidableEq, Repr

abbrev LCDPPArray := List LCDPP

/-! ### Appending -/

/-- An empty string is replaced by the number 0. A string is sent up to its first NUL, and those of
the program have none. -/
def appendString (value : String) : Value :=
  if value.isEmpty then .basic (.uint64 0) else .basic (.string value)

def appendBoolean (value : Bool) : Value := .basic (.boolean value)

def appendUInt64 (value : ℕ) : Value := .basic (.uint64 value)

def appendUInt8 (value : UInt8) : Value := .basic (.byte value)

def appendUInt16 (value : UInt16) : Value := .basic (.uint16 value)

def appendStringArray (stringArray : List String) : List Value :=
  [appendUInt64 stringArray.length,
    .array (.basic .string) (stringArray.map appendString)]

/-- The signature (tss). -/
def LCDPP.type : DBusType := .struct [.basic .uint64, .basic .string, .basic .string]

def appendLCDPP (plugin : LCDPP) : Value :=
  .struct [appendUInt64 plugin.id, appendString plugin.name, appendString plugin.desc]

def appendLCDPPArray (pluginsArray : LCDPPArray) : List Value :=
  [appendUInt64 pluginsArray.length, .array LCDPP.type (pluginsArray.map appendLCDPP)]

/-- The signature (sss). -/
def GKDependency.type : DBusType := .struct [.basic .string, .basic .string, .basic .string]

def appendGKDependency (dep : GKDependency) : Value :=
  .struct [appendString dep.dependency, appendString dep.compileTimeVersion,
    appendString dep.runTimeVersion]

/-- The signature (yta(sss)). -/
def GKDepsMap.entryType : DBusType :=
  .struct [.basic .byte, .basic .uint64, .array GKDependency.type]

def appendGKDepsMapEntry (entry : GKBinary × GKDepsArray) : Value :=
  .struct [appendUInt8 entry.1.toEnumType, appendUInt64 entry.2.length,
    .array GKDependency.type (entry.2.map appendGKDependency)]

def appendGKDepsMap (depsMap : GKDepsMap) : List Value :=
  [appendUInt64 depsMap.size,
    .array GKDepsMap.entryType (depsMap.toList.map appendGKDepsMapEntry)]

/-- The signature (yyq). -/
def KeyEvent.type : DBusType := .struct [.basic .byte, .basic .byte, .basic .uint16]

def appendKeyEvent (keyEvent : KeyEvent) : Value :=
  .struct [appendUInt8 keyEvent.code, appendUInt8 keyEvent.event.toEnumType,
    appendUInt16 keyEvent.interval]

/-- No size is appended. -/
def appendMacro (events : MacroType) : List Value :=
  [.array KeyEvent.type (events.map appendKeyEvent)]

/-! ### Reading -/

/-- `GLogiKExcept`, from which `EmptyContainer` is derived. -/
inductive GLogiKExcept
  | emptyContainer (what : String)
  | other (what : String)
  deriving DecidableEq, Repr

/-- A reader pops from the stacks. It may throw when it has popped something. -/
abbrev ArgReader := ExceptT GLogiKExcept (StateM Arguments)

def getNextBooleanArgument : ArgReader Bool := fun args =>
  match args.booleanArguments with
  | []            => (.error (.emptyContainer "missing argument : boolean"), args)
  | value :: rest => (.ok value, { args with booleanArguments := rest })

def getNextByteArgument : ArgReader UInt8 := fun args =>
  match args.byteArguments with
  | []            => (.error (.emptyContainer "missing argument : byte"), args)
  | value :: rest => (.ok value, { args with byteArguments := rest })

def getNextUInt16Argument : ArgReader UInt16 := fun args =>
  match args.uint16Arguments with
  | []            => (.error (.emptyContainer "missing argument : uint16"), args)
  | value :: rest => (.ok value, { args with uint16Arguments := rest })

def getNextInt32Argument : ArgReader Int32 := fun args =>
  match args.int32Arguments with
  | []            => (.error (.emptyContainer "missing argument : int32"), args)
  | value :: rest => (.ok value, { args with int32Arguments := rest })

def getNextUInt64Argument : ArgReader ℕ := fun args =>
  match args.uint64Arguments with
  | []            => (.error (.emptyContainer "missing argument : uint64"), args)
  | value :: rest => (.ok value, { args with uint64Arguments := rest })

def popString : ArgReader String := fun args =>
  match args.stringArguments with
  | []            => (.error (.emptyContainer "missing argument : string"), args)
  | value :: rest => (.ok value, { args with stringArguments := rest })

/-- A string of another size is logged, and returned. -/
def getNextStringArgument : ArgReader String := do
  let size ← getNextUInt64Argument
  if size ≠ 0 then popString else return ""

/-- The sizes of the strings stay on their stack. -/
def getNextStringArray : ArgReader (List String) := do
  let size ← getNextUInt64Argument
  fun args =>
    if args.stringArguments.length < size then (.error (.other "wrong string array size"), args)
    else (.ok (args.stringArguments.take size),
      { args with stringArguments := args.stringArguments.drop size })

/-- `catch (const EmptyContainer & e)`, which throws the text. -/
def rebuilding {α : Type} (failed : String) (reader : ArgReader α) : ArgReader α := fun args =>
  match reader args with
  | (.error (.emptyContainer _), args) => (.error (.other failed), args)
  | result                             => result

/-- A `while` loop that pushes what it reads. -/
def getNextTimes {α : Type} (reader : ArgReader α) : ℕ → ArgReader (List α)
  | 0     => return []
  | n + 1 => do return (← reader) :: (← getNextTimes reader n)

def getNextGKBinaryArgument : ArgReader GKBinary :=
  rebuilding "get GKBinary argument failed" do
    match GKBinary.ofEnumType (← getNextByteArgument) with
    | none          => throw (.other "wrong GKBinary value")
    | some .invalid => throw (.other "invalid GKBinary")
    | some bin      => return bin

def getNextGKDependency : ArgReader GKDependency := do
  let dependency ← getNextStringArgument
  let compileTime ← getNextStringArgument
  let runTime ← getNextStringArgument
  return ⟨dependency, compileTime, runTime⟩

def getNextGKDepsMapEntry : ArgReader (GKBinary × GKDepsArray) := do
  let bin ← getNextGKBinaryArgument
  let depsArraySize ← getNextUInt64Argument
  let depsArray ← getNextTimes getNextGKDependency depsArraySize
  return (bin, depsArray)

def getNextGKDepsMapArgument : ArgReader GKDepsMap :=
  rebuilding "rebuilding GKDepsMap_type map failed" do
    let depsMapSize ← getNextUInt64Argument
    let entries ← getNextTimes getNextGKDepsMapEntry depsMapSize
    return entries.foldl (fun depsMap entry => depsMap.insert entry.1 entry.2) ∅

def getNextLCDPP : ArgReader LCDPP := do
  let id ← getNextUInt64Argument
  let name ← getNextStringArgument
  let desc ← getNextStringArgument
  return ⟨id, name, desc⟩

/-- The size is read outside of the `try` block. -/
def getNextLCDPPArrayArgument : ArgReader LCDPPArray := do
  let size ← getNextUInt64Argument
  rebuilding "rebuilding LCDPluginsProperties vector failed" (getNextTimes getNextLCDPP size)

def getNextKeyEvent : ArgReader KeyEvent := do
  let code ← getNextByteArgument
  match EventValue.ofEnumType (← getNextByteArgument) with
  | none       => throw (.other "wrong event value for enum conversion")
  | some event => return ⟨code, event, ← getNextUInt16Argument⟩

section

variable {α β : Type} {args args' : Arguments}

lemma ArgReader.bind_eq_of_ok {reader : ArgReader α} {next : α → ArgReader β} {value : α}
    (h : reader args = (.ok value, args')) : (reader >>= next) args = next value args' :=
  Actions.bind_of_ok h

/-- A computation that succeeds has gone through both of its parts. -/
lemma ArgReader.bind_eq_ok {reader : ArgReader α} {next : α → ArgReader β} {value : β}
    (h : (reader >>= next) args = (.ok value, args')) :
    ∃ first between, reader args = (.ok first, between) ∧
      next first between = (.ok value, args') :=
  Actions.bind_eq_ok h

lemma getNextByteArgument_eq_ok {value : UInt8}
    (h : getNextByteArgument args = (.ok value, args')) :
    args.byteArguments = value :: args'.byteArguments := by
  simp only [getNextByteArgument] at h
  cases hbytes : args.byteArguments with
  | nil =>
    rw [hbytes] at h
    cases h
  | cons value' rest =>
    rw [hbytes] at h
    cases h
    rfl

lemma getNextUInt16Argument_eq_ok {value : UInt16}
    (h : getNextUInt16Argument args = (.ok value, args')) :
    args'.byteArguments = args.byteArguments := by
  simp only [getNextUInt16Argument] at h
  cases hvalues : args.uint16Arguments with
  | nil =>
    rw [hvalues] at h
    cases h
  | cons value' rest =>
    rw [hvalues] at h
    cases h
    rfl

/-- Each round of the loop pops bytes. -/
lemma length_lt_of_getNextKeyEvent {keyEvent : KeyEvent}
    (h : getNextKeyEvent args = (.ok keyEvent, args')) :
    args'.byteArguments.length < args.byteArguments.length := by
  obtain ⟨code, s₁, hcode, h⟩ := ArgReader.bind_eq_ok h
  obtain ⟨value, s₂, hvalue, h⟩ := ArgReader.bind_eq_ok h
  rw [getNextByteArgument_eq_ok hcode, getNextByteArgument_eq_ok hvalue]
  cases hevent : EventValue.ofEnumType value with
  | none =>
    rw [hevent] at h
    cases h
  | some event =>
    rw [hevent] at h
    obtain ⟨interval, s₃, hinterval, h⟩ := ArgReader.bind_eq_ok h
    cases h
    rw [getNextUInt16Argument_eq_ok hinterval, List.length_cons, List.length_cons]
    omega

end

/-- The `do … while` loop. Without a size, the macro goes on while bytes are left. -/
def rebuildMacro (macroSize : ℕ) (events : MacroType) : ArgReader MacroType := fun args =>
  match _h : getNextKeyEvent args with
  | (.error e, args') => (.error e, args')
  | (.ok keyEvent, args') =>
    let events := events ++ [keyEvent]
    let done := if 0 < macroSize then events.length = macroSize else args'.byteArguments = []
    if done then (.ok events, args') else rebuildMacro macroSize events args'
  termination_by args => args.byteArguments.length
  decreasing_by exact length_lt_of_getNextKeyEvent _h

def getNextMacroArgument (macroSize : ℕ := 0) : ArgReader MacroType :=
  rebuilding "rebuilding macro failed" (rebuildMacro macroSize [])

end GLogiK
