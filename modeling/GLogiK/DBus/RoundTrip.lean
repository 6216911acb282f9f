import GLogiK.DBus.Reading

/-!
# Round trips

The arguments that were appended to a message are read back from its stacks, in their order.
-/

namespace GLogiK

open Arguments

/-! ### Arguments -/

inductive Argument
  | string (value : String)
  | boolean (value : Bool)
  | uint64 (value : ℕ)
  | uint16 (value : UInt16)
  | byte (value : UInt8)
  | stringArray (values : List String)
  | gkDepsMap (depsMap : GKDepsMap)
  | lcdPPArray (pluginsArray : LCDPPArray)
  | events (keyEvents : MacroType)

/-- The type of an argument, by which its reader is chosen. -/
inductive ArgumentType
  | string
  | boolean
  | uint64
  | uint16
  | byte
  | stringArray
  | gkDepsMap
  | lcdPPArray
  | events
  deriving DecidableEq, Repr

def Argument.type : Argument → ArgumentType
  | .string _      => .string
  | .boolean _     => .boolean
  | .uint64 _      => .uint64
  | .uint16 _      => .uint16
  | .byte _        => .byte
  | .stringArray _ => .stringArray
  | .gkDepsMap _   => .gkDepsMap
  | .lcdPPArray _  => .lcdPPArray
  | .events _      => .events

def Argument.append : Argument → List Value
  | .string value       => [appendString value]
  | .boolean value      => [appendBoolean value]
  | .uint64 value       => [appendUInt64 value]
  | .uint16 value       => [appendUInt16 value]
  | .byte value         => [appendUInt8 value]
  | .stringArray values => appendStringArray values
  | .gkDepsMap map      => appendGKDepsMap map
  | .lcdPPArray plugins => appendLCDPPArray plugins
  | .events keyEvents   => appendMacro keyEvents

/-- A macro is read without its size. -/
def ArgumentType.getNext : ArgumentType → ArgReader Argument
  | .string      => do return .string (← getNextStringArgument)
  | .boolean     => do return .boolean (← getNextBooleanArgument)
  | .uint64      => do return .uint64 (← getNextUInt64Argument)
  | .uint16      => do return .uint16 (← getNextUInt16Argument)
  | .byte        => do return .byte (← getNextByteArgument)
  | .stringArray => do return .stringArray (← getNextStringArray)
  | .gkDepsMap   => do return .gkDepsMap (← getNextGKDepsMapArgument)
  | .lcdPPArray  => do return .lcdPPArray (← getNextLCDPPArrayArgument)
  | .events      => do return .events (← getNextMacroArgument)

def getNextArguments : List ArgumentType → ArgReader (List Argument)
  | []            => return []
  | type :: types => do return (← type.getNext) :: (← getNextArguments types)

/-- A message of the arguments is decoded, and they are read from the stacks. -/
def ReadsBack (before : Arguments) (args : List Argument) : Prop :=
  ∃ decoded, before.fillInArguments (some (args.flatMap Argument.append)) = some decoded ∧
    (getNextArguments (args.map Argument.type) decoded).1 = .ok args

/-! ### The message of the arguments -/

lemma traversableAll_of_not_isStruct {values : List Value}
    (h : ∀ value ∈ values, value.Traversable ∧ value.isStruct = false) : TraversableAll values := by
  induction values with
  | nil => trivial
  | cons value values ih =>
    obtain ⟨htraversable, hstruct⟩ := h value List.mem_cons_self
    refine ⟨htraversable, ih fun value' hmem => h value' (List.mem_cons_of_mem _ hmem), ?_⟩
    intro hisStruct
    rw [hstruct] at hisStruct
    cases hisStruct

lemma traversableAll_of_hasContents {values : List Value}
    (h : ∀ value ∈ values, value.Traversable ∧ value.HasContents) : TraversableAll values := by
  induction values with
  | nil => trivial
  | cons value values ih =>
    have hrest := fun value' hmem => h value' (List.mem_cons_of_mem _ hmem)
    exact ⟨(h value List.mem_cons_self).1, ih hrest, fun _ value' hmem => (hrest value' hmem).2⟩

lemma traversable_appendString (value : String) :
    (appendString value).Traversable ∧ (appendString value).isStruct = false := by
  simp only [appendString]
  split_ifs <;> exact ⟨trivial, rfl⟩

/-- An array of structs none of which has a struct for a field. -/
lemma traversable_array_structs {α : Type} {element : DBusType} {fields : α → List Value}
    {values : List α} (h : ∀ value ∈ values, fields value ≠ [] ∧
      ∀ field ∈ fields value, field.Traversable ∧ field.isStruct = false) :
    (Value.array element (values.map fun value => .struct (fields value))).Traversable := by
  apply traversableAll_of_hasContents
  intro value hmem
  obtain ⟨value, hvalue, rfl⟩ := List.mem_map.mp hmem
  obtain ⟨hne, hfields⟩ := h value hvalue
  exact ⟨⟨hne, traversableAll_of_not_isStruct hfields⟩, trivial⟩

lemma traversable_append (arg : Argument) :
    ∀ value ∈ arg.append, value.Traversable ∧ value.isStruct = false := by
  have hsized : ∀ {size : ℕ} {element : DBusType} {elements : List Value},
      (Value.array element elements).Traversable →
      ∀ value ∈ [appendUInt64 size, .array element elements],
        value.Traversable ∧ value.isStruct = false := by
    intro size element elements h
    simp only [List.forall_mem_cons]
    exact ⟨⟨trivial, rfl⟩, ⟨h, rfl⟩, List.forall_mem_nil _⟩
  cases arg with
  | string value => simpa [Argument.append] using traversable_appendString value
  | boolean value => simp [Argument.append, appendBoolean, Value.Traversable, Value.isStruct]
  | uint64 value => simp [Argument.append, appendUInt64, Value.Traversable, Value.isStruct]
  | uint16 value => simp [Argument.append, appendUInt16, Value.Traversable, Value.isStruct]
  | byte value => simp [Argument.append, appendUInt8, Value.Traversable, Value.isStruct]
  | stringArray values =>
    apply hsized
    apply traversableAll_of_not_isStruct
    intro value hmem
    obtain ⟨value, -, rfl⟩ := List.mem_map.mp hmem
    exact traversable_appendString value
  | gkDepsMap map =>
    apply hsized
    apply traversable_array_structs
    intro entry _
    have hdeps : (Value.array GKDependency.type (entry.2.map appendGKDependency)).Traversable := by
      apply traversable_array_structs
      intro dep _
      simp [traversable_appendString]
    simp only [List.forall_mem_cons]
    exact ⟨List.cons_ne_nil _ _, ⟨trivial, rfl⟩, ⟨trivial, rfl⟩, ⟨hdeps, rfl⟩, List.forall_mem_nil _⟩
  | lcdPPArray plugins =>
    apply hsized
    apply traversable_array_structs
    intro plugin _
    simp only [List.forall_mem_cons]
    exact ⟨List.cons_ne_nil _ _, ⟨trivial, rfl⟩, traversable_appendString _,
      traversable_appendString _, List.forall_mem_nil _⟩
  | events keyEvents =>
    have hevents : (Value.array KeyEvent.type (keyEvents.map appendKeyEvent)).Traversable := by
      apply traversable_array_structs
      intro keyEvent _
      simp [appendUInt8, appendUInt16, Value.Traversable, Value.isStruct]
    simp only [Argument.append, appendMacro, List.forall_mem_cons]
    exact ⟨⟨hevents, rfl⟩, List.forall_mem_nil _⟩

lemma traversableAll_flatMap_append (args : List Argument) :
    TraversableAll (args.flatMap Argument.append) := by
  apply traversableAll_of_not_isStruct
  intro value hmem
  obtain ⟨arg, -, hvalue⟩ := List.mem_flatMap.mp hmem
  exact traversable_append arg value hvalue

/-- No unix fd is appended. -/
def Value.NoUnixFd (value : Value) : Prop := value.leaves.filterMap Basic.toInt32? = []

lemma toInt32?_leavesOf {values : List Value} (h : ∀ value ∈ values, value.NoUnixFd) :
    (leavesOf values).filterMap Basic.toInt32? = [] := by
  induction values with
  | nil => rfl
  | cons value values ih =>
    rw [leavesOf, List.filterMap_append, h value List.mem_cons_self,
      ih fun value' hmem => h value' (List.mem_cons_of_mem _ hmem)]
    rfl

lemma noUnixFd_appendString (value : String) : (appendString value).NoUnixFd := by
  simp only [appendString]
  split_ifs <;> rfl

lemma noUnixFd_array {α : Type} {element : DBusType} {append : α → Value} {values : List α}
    (h : ∀ value, (append value).NoUnixFd) :
    (Value.array element (values.map append)).NoUnixFd := by
  apply toInt32?_leavesOf
  intro value hmem
  obtain ⟨value, -, rfl⟩ := List.mem_map.mp hmem
  exact h value

lemma noUnixFd_struct {fields : List Value} (h : ∀ field ∈ fields, field.NoUnixFd) :
    (Value.struct fields).NoUnixFd := toInt32?_leavesOf h

lemma noUnixFd_append (arg : Argument) : ∀ value ∈ arg.append, value.NoUnixFd := by
  cases arg with
  | string value =>
    exact List.forall_mem_singleton.mpr (noUnixFd_appendString value)
  | boolean value => exact List.forall_mem_singleton.mpr rfl
  | uint64 value => exact List.forall_mem_singleton.mpr rfl
  | uint16 value => exact List.forall_mem_singleton.mpr rfl
  | byte value => exact List.forall_mem_singleton.mpr rfl
  | stringArray values =>
    exact List.forall_mem_cons.mpr
      ⟨rfl, List.forall_mem_singleton.mpr (noUnixFd_array noUnixFd_appendString)⟩
  | gkDepsMap map =>
    refine List.forall_mem_cons.mpr ⟨rfl, List.forall_mem_singleton.mpr (noUnixFd_array ?_)⟩
    intro entry
    apply noUnixFd_struct
    have hdeps : (Value.array GKDependency.type (entry.2.map appendGKDependency)).NoUnixFd := by
      apply noUnixFd_array
      intro dep
      apply noUnixFd_struct
      simp [noUnixFd_appendString]
    simp only [List.forall_mem_cons]
    exact ⟨rfl, rfl, hdeps, List.forall_mem_nil _⟩
  | lcdPPArray plugins =>
    refine List.forall_mem_cons.mpr ⟨rfl, List.forall_mem_singleton.mpr (noUnixFd_array ?_)⟩
    intro plugin
    apply noUnixFd_struct
    simp only [List.forall_mem_cons]
    exact ⟨rfl, noUnixFd_appendString _, noUnixFd_appendString _, List.forall_mem_nil _⟩
  | events keyEvents =>
    exact List.forall_mem_singleton.mpr (noUnixFd_array fun _ => rfl)

/-- The stacks give the leaves of the arguments, and then what an earlier message left behind. -/
lemma fillInArguments_flatMap_append (before : Arguments) (args : List Argument) :
    ∃ stale, before.fillInArguments (some (args.flatMap Argument.append)) =
      some (ofLeaves (leavesOf (args.flatMap Argument.append)) ++ { int32Arguments := stale }) := by
  have hint32 : (leavesOf (args.flatMap Argument.append)).filterMap Basic.toInt32? = [] := by
    apply toInt32?_leavesOf
    intro value hmem
    obtain ⟨arg, -, hvalue⟩ := List.mem_flatMap.mp hmem
    exact noUnixFd_append arg value hvalue
  rw [fillInArguments_of_traversable before (traversableAll_flatMap_append args)]
  split_ifs with hbody
  · rw [hbody]
    exact ⟨_, rfl⟩
  · refine ⟨before.int32Arguments.reverse, congrArg some ?_⟩
    rw [hint32]
    simp [append_def, ofLeaves, hint32]

/-! ### Macros -/

lemma EventValue.ofEnumType_toEnumType (event : EventValue) :
    EventValue.ofEnumType event.toEnumType = some event := by
  cases event <;> rfl

lemma reads_getNextKeyEvent (keyEvent : KeyEvent) :
    Reads getNextKeyEvent (appendKeyEvent keyEvent).leaves keyEvent := by
  refine (reads_getNextByteArgument keyEvent.code).bind
    ((reads_getNextByteArgument keyEvent.event.toEnumType).bind ?_)
  rw [EventValue.ofEnumType_toEnumType]
  exact (reads_getNextUInt16Argument keyEvent.interval).bind (reads_pure keyEvent)

/-- A round of the loop. -/
lemma rebuildMacro_of_ok {events : MacroType} {keyEvent : KeyEvent} {args args' : Arguments}
    (h : getNextKeyEvent args = (.ok keyEvent, args')) :
    rebuildMacro 0 events args =
      if args'.byteArguments = [] then (.ok (events ++ [keyEvent]), args')
      else rebuildMacro 0 (events ++ [keyEvent]) args' := by
  rw [rebuildMacro]
  split
  · rename_i h'
    rw [h] at h'
    cases h'
  · rename_i h'
    rw [h] at h'
    cases h'
    simp

/-- A macro without its size is read to the last byte. -/
lemma rebuildMacro_eq {args : Arguments} (hbytes : args.byteArguments = []) {keyEvents : MacroType}
    (hne : keyEvents ≠ []) (events : MacroType) :
    rebuildMacro 0 events (ofLeaves (leavesOf (keyEvents.map appendKeyEvent)) ++ args) =
      (.ok (events ++ keyEvents), args) := by
  induction keyEvents generalizing events with
  | nil => exact absurd rfl hne
  | cons keyEvent keyEvents ih =>
    rw [List.map_cons, leavesOf, ofLeaves_append,
      rebuildMacro_of_ok (reads_getNextKeyEvent keyEvent _)]
    cases keyEvents with
    | nil => exact if_pos hbytes
    | cons next rest =>
      rw [if_neg ?_, ih (List.cons_ne_nil _ _), List.append_assoc]
      · rfl
      · exact List.cons_ne_nil _ _

lemma reads_getNextMacroArgument {args : Arguments} (hbytes : args.byteArguments = [])
    {keyEvents : MacroType} (hne : keyEvents ≠ []) :
    getNextMacroArgument 0 (ofLeaves (leavesOf (appendMacro keyEvents)) ++ args) =
      (.ok keyEvents, args) := by
  rw [appendMacro, leavesOf_singleton]
  exact rebuilding_eq_of_ok (rebuildMacro_eq hbytes hne [])

/-! ### Decoding undoes encoding -/

/-- The argument pushes bytes. -/
def Argument.CarriesBytes (arg : Argument) : Prop :=
  (leavesOf arg.append).filterMap Basic.toByte? ≠ []

instance (arg : Argument) : Decidable arg.CarriesBytes :=
  inferInstanceAs (Decidable (_ ≠ []))

/-- A string array has no string, no binary of a map is invalid, and a macro has an event. -/
def Argument.Valid : Argument → Prop
  | .string _ | .boolean _ | .uint64 _ | .uint16 _ | .byte _ | .lcdPPArray _ => True
  | .stringArray values => values = []
  | .gkDepsMap map      => .invalid ∉ map
  | .events keyEvents   => keyEvents ≠ []

instance : (arg : Argument) → Decidable arg.Valid
  | .string _ | .boolean _ | .uint64 _ | .uint16 _ | .byte _ | .lcdPPArray _ =>
    inferInstanceAs (Decidable True)
  | .stringArray values => inferInstanceAs (Decidable (values = []))
  | .gkDepsMap map      => inferInstanceAs (Decidable (.invalid ∉ map))
  | .events keyEvents   => inferInstanceAs (Decidable (keyEvents ≠ []))

/-- The arguments are valid, and no bytes come after a macro. -/
def Decodable : List Argument → Prop
  | []          => True
  | arg :: args => arg.Valid ∧ Decodable args ∧
    (arg.type = .events → ∀ later ∈ args, ¬ later.CarriesBytes)

instance Decodable.decidable : (args : List Argument) → Decidable (Decodable args)
  | []          => inferInstanceAs (Decidable True)
  | arg :: args =>
    have := Decodable.decidable args
    inferInstanceAs (Decidable (arg.Valid ∧ Decodable args ∧
      (arg.type = .events → ∀ later ∈ args, ¬ later.CarriesBytes)))

lemma toByte?_leavesOf_flatMap {args : List Argument} (h : ∀ arg ∈ args, ¬ arg.CarriesBytes) :
    (leavesOf (args.flatMap Argument.append)).filterMap Basic.toByte? = [] := by
  induction args with
  | nil => rfl
  | cons arg args ih =>
    rw [List.flatMap_cons, leavesOf_append, List.filterMap_append,
      not_not.mp (h arg List.mem_cons_self),
      ih fun arg' hmem => h arg' (List.mem_cons_of_mem _ hmem)]
    rfl

lemma map_eq_of_ok {α : Type} {reader : ArgReader α} {value : α} {args args' : Arguments}
    (f : α → Argument) (h : reader args = (.ok value, args')) :
    (reader >>= fun value => pure (f value)) args = (.ok (f value), args') := by
  rw [ArgReader.bind_eq_of_ok h]
  rfl

/-- The reader of an argument pops what was pushed for it. -/
lemma getNext_eq {arg : Argument} (h : arg.Valid) {rest : Arguments}
    (hbytes : arg.type = .events → rest.byteArguments = []) :
    arg.type.getNext (ofLeaves (leavesOf arg.append) ++ rest) = (.ok arg, rest) := by
  cases arg with
  | string value =>
    have hread := reads_getNextStringArgument value rest
    rw [← leavesOf_singleton] at hread
    exact map_eq_of_ok Argument.string hread
  | boolean value => exact map_eq_of_ok Argument.boolean (reads_getNextBooleanArgument value rest)
  | uint64 value => exact map_eq_of_ok Argument.uint64 (reads_getNextUInt64Argument value rest)
  | uint16 value => exact map_eq_of_ok Argument.uint16 (reads_getNextUInt16Argument value rest)
  | byte value => exact map_eq_of_ok Argument.byte (reads_getNextByteArgument value rest)
  | stringArray values =>
    obtain rfl : values = [] := h
    rfl
  | gkDepsMap map =>
    exact map_eq_of_ok Argument.gkDepsMap (reads_getNextGKDepsMapArgument h rest)
  | lcdPPArray plugins =>
    exact map_eq_of_ok Argument.lcdPPArray (reads_getNextLCDPPArrayArgument plugins rest)
  | events keyEvents =>
    exact map_eq_of_ok Argument.events (reads_getNextMacroArgument (hbytes rfl) h)

/-- All arguments are read, one after the other. -/
lemma getNextArguments_eq {under : Arguments} (hunder : under.byteArguments = [])
    {args : List Argument} (h : Decodable args) :
    getNextArguments (args.map Argument.type)
      (ofLeaves (leavesOf (args.flatMap Argument.append)) ++ under) = (.ok args, under) := by
  induction args with
  | nil => rfl
  | cons arg args ih =>
    obtain ⟨harg, hargs, hlast⟩ := h
    rw [List.flatMap_cons, leavesOf_append, ofLeaves_append]
    have hbytes : arg.type = .events →
        (ofLeaves (leavesOf (args.flatMap Argument.append)) ++ under).byteArguments = [] := by
      intro hmacro
      have hlater := toByte?_leavesOf_flatMap (hlast hmacro)
      simp only [append_def, ofLeaves, hlater, hunder, List.append_nil]
    rw [List.map_cons, getNextArguments, ArgReader.bind_eq_of_ok (getNext_eq harg hbytes),
      ArgReader.bind_eq_of_ok (ih hargs)]
    rfl

/-- Decoding undoes encoding: strings that may be empty, numbers, bytes, maps of dependencies,
arrays of plugins and a last macro are read as they were appended. -/
theorem readsBack_of_decodable (before : Arguments) {args : List Argument} (h : Decodable args) :
    ReadsBack before args := by
  obtain ⟨stale, hfill⟩ := fillInArguments_flatMap_append before args
  refine ⟨_, hfill, ?_⟩
  rw [getNextArguments_eq rfl h]

/-- A map, an array of plugins and a macro, with empty strings. -/
theorem readsBack_compound : ReadsBack {}
    [.gkDepsMap ((∅ : GKDepsMap).insert .daemon [⟨"libdbus", "", "-"⟩, ⟨"", "", ""⟩]),
      .lcdPPArray [⟨1, "", "clock"⟩, ⟨2, "splash", ""⟩], .string "", .byte 3, .uint16 4,
      .events [⟨30, .eventKeyPress, 0⟩, ⟨30, .eventKeyRelease, 5⟩], .uint64 7] := by
  apply readsBack_of_decodable
  decide +kernel

end GLogiK
