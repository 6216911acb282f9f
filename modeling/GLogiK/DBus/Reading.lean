import GLogiK.DBus.ArgTypes
import GLogiK.DBus.Traversal

/-!
# What the readers pop

A reader reads a value from a list of leaves if it pops just these leaves and returns the value,
whatever lies under them on the stacks.
-/

namespace GLogiK

namespace Arguments

/-- The first stacks lie on the second ones. -/
instance : Append Arguments where
  append args under :=
    { stringArguments := args.stringArguments ++ under.stringArguments
      int32Arguments := args.int32Arguments ++ under.int32Arguments
      byteArguments := args.byteArguments ++ under.byteArguments
      uint16Arguments := args.uint16Arguments ++ under.uint16Arguments
      uint64Arguments := args.uint64Arguments ++ under.uint64Arguments
      booleanArguments := args.booleanArguments ++ under.booleanArguments }

lemma append_def (args under : Arguments) : args ++ under =
    { stringArguments := args.stringArguments ++ under.stringArguments
      int32Arguments := args.int32Arguments ++ under.int32Arguments
      byteArguments := args.byteArguments ++ under.byteArguments
      uint16Arguments := args.uint16Arguments ++ under.uint16Arguments
      uint64Arguments := args.uint64Arguments ++ under.uint64Arguments
      booleanArguments := args.booleanArguments ++ under.booleanArguments } := rfl

lemma ofLeaves_append (leaves rest : List Basic) (args : Arguments) :
    ofLeaves (leaves ++ rest) ++ args = ofLeaves leaves ++ (ofLeaves rest ++ args) := by
  simp [ofLeaves, append_def]

end Arguments

open Arguments

variable {α β : Type}

/-- The reader pops the leaves, and returns the value. -/
def Reads (reader : ArgReader α) (leaves : List Basic) (value : α) : Prop :=
  ∀ args : Arguments, reader (ofLeaves leaves ++ args) = (.ok value, args)

/-! ### Rules -/

lemma reads_pure (value : α) : Reads (pure value) [] value := fun _ => rfl

lemma Reads.bind {reader : ArgReader α} {next : α → ArgReader β} {leaves rest : List Basic}
    {first : α} {value : β} (h : Reads reader leaves first)
    (hnext : Reads (next first) rest value) :
    Reads (reader >>= next) (leaves ++ rest) value := by
  intro args
  rw [ofLeaves_append, ArgReader.bind_eq_of_ok (h _)]
  exact hnext args

lemma rebuilding_eq_of_ok {failed : String} {reader : ArgReader α} {value : α}
    {args args' : Arguments} (h : reader args = (.ok value, args')) :
    rebuilding failed reader args = (.ok value, args') := by
  simp [rebuilding, h]

lemma Reads.rebuilding {failed : String} {reader : ArgReader α} {leaves : List Basic} {value : α}
    (h : Reads reader leaves value) : Reads (rebuilding failed reader) leaves value :=
  fun args => rebuilding_eq_of_ok (h args)

/-- A loop reads the values one after the other. -/
lemma reads_getNextTimes {reader : ArgReader α} {leaves : α → List Basic} {values : List α}
    (h : ∀ value ∈ values, Reads reader (leaves value) value) :
    Reads (getNextTimes reader values.length) (values.flatMap leaves) values := by
  induction values with
  | nil => exact reads_pure []
  | cons value values ih =>
    have hvalue := h value List.mem_cons_self
    have hvalues := ih fun value' hmem => h value' (List.mem_cons_of_mem _ hmem)
    rw [List.flatMap_cons, ← List.append_nil (values.flatMap leaves)]
    exact hvalue.bind (hvalues.bind (reads_pure _))

/-! ### Basic values and strings -/

lemma reads_getNextBooleanArgument (value : Bool) :
    Reads getNextBooleanArgument (appendBoolean value).leaves value := fun _ => rfl

lemma reads_getNextByteArgument (value : UInt8) :
    Reads getNextByteArgument (appendUInt8 value).leaves value := fun _ => rfl

lemma reads_getNextUInt16Argument (value : UInt16) :
    Reads getNextUInt16Argument (appendUInt16 value).leaves value := fun _ => rfl

lemma reads_getNextUInt64Argument (value : ℕ) :
    Reads getNextUInt64Argument (appendUInt64 value).leaves value := fun _ => rfl

/-- An empty string is read from its number, and any other one from its size and itself. -/
lemma reads_getNextStringArgument (value : String) :
    Reads getNextStringArgument (appendString value).leaves value := by
  intro args
  by_cases hempty : value = ""
  · subst hempty
    rfl
  · have hsize : value.utf8ByteSize ≠ 0 := fun h => hempty (String.utf8ByteSize_eq_zero_iff.mp h)
    have hleaves : (appendString value).leaves = [.string value] := by
      simp [appendString, String.isEmpty_iff, hempty, Value.leaves]
    rw [hleaves]
    have hnumber : getNextUInt64Argument (ofLeaves [.string value] ++ args) =
        (.ok value.utf8ByteSize,
          { args with stringArguments := value :: args.stringArguments }) := rfl
    rw [getNextStringArgument, ArgReader.bind_eq_of_ok hnumber, if_pos hsize]
    rfl

/-! ### Arrays of structs -/

lemma leavesOf_map (append : α → Value) (values : List α) :
    leavesOf (values.map append) = values.flatMap fun value => (append value).leaves := by
  induction values with
  | nil => rfl
  | cons value values ih =>
    rw [List.map_cons, leavesOf, ih]
    rfl

lemma leavesOf_append (values rest : List Value) :
    leavesOf (values ++ rest) = leavesOf values ++ leavesOf rest := by
  induction values with
  | nil => rfl
  | cons value values ih => rw [List.cons_append, leavesOf, leavesOf, ih, List.append_assoc]

lemma leavesOf_singleton (value : Value) : leavesOf [value] = value.leaves := by
  simp [leavesOf]

lemma reads_getNextLCDPP (plugin : LCDPP) :
    Reads getNextLCDPP (appendLCDPP plugin).leaves plugin :=
  (reads_getNextUInt64Argument plugin.id).bind
    ((reads_getNextStringArgument plugin.name).bind
      ((reads_getNextStringArgument plugin.desc).bind (reads_pure plugin)))

lemma reads_getNextGKDependency (dep : GKDependency) :
    Reads getNextGKDependency (appendGKDependency dep).leaves dep :=
  (reads_getNextStringArgument dep.dependency).bind
    ((reads_getNextStringArgument dep.compileTimeVersion).bind
      ((reads_getNextStringArgument dep.runTimeVersion).bind (reads_pure dep)))

/-- An array that is read by its size. -/
lemma reads_array {reader : ArgReader α} {append : α → Value} {values : List α}
    (h : ∀ value ∈ values, Reads reader (append value).leaves value) :
    Reads (getNextTimes reader values.length) (leavesOf (values.map append)) values := by
  rw [leavesOf_map]
  exact reads_getNextTimes h

theorem reads_getNextLCDPPArrayArgument (pluginsArray : LCDPPArray) :
    Reads getNextLCDPPArrayArgument (leavesOf (appendLCDPPArray pluginsArray)) pluginsArray := by
  have hplugins : Reads _ (leavesOf (pluginsArray.map appendLCDPP)) pluginsArray :=
    reads_array fun plugin _ => reads_getNextLCDPP plugin
  rw [appendLCDPPArray, leavesOf, leavesOf_singleton]
  exact (reads_getNextUInt64Argument _).bind hplugins.rebuilding

/-! ### The dependencies map -/

lemma reads_getNextGKBinaryArgument {bin : GKBinary} (h : bin ≠ .invalid) :
    Reads getNextGKBinaryArgument (appendUInt8 bin.toEnumType).leaves bin := by
  apply Reads.rebuilding
  intro args
  rw [ArgReader.bind_eq_of_ok (reads_getNextByteArgument _ args)]
  cases bin with
  | invalid => exact absurd rfl h
  | daemon => rfl
  | desktopService => rfl
  | guiQt => rfl

lemma reads_getNextGKDepsMapEntry {entry : GKBinary × GKDepsArray} (h : entry.1 ≠ .invalid) :
    Reads getNextGKDepsMapEntry (appendGKDepsMapEntry entry).leaves entry := by
  have hdeps : Reads _ (leavesOf (entry.2.map appendGKDependency)) entry.2 :=
    reads_array fun dep _ => reads_getNextGKDependency dep
  exact (reads_getNextGKBinaryArgument h).bind
    ((reads_getNextUInt64Argument _).bind (hdeps.bind (reads_pure entry)))

theorem reads_getNextGKDepsMapArgument {depsMap : GKDepsMap} (h : .invalid ∉ depsMap) :
    Reads getNextGKDepsMapArgument (leavesOf (appendGKDepsMap depsMap)) depsMap := by
  have hvalid : ∀ entry ∈ depsMap.toList, entry.1 ≠ .invalid := by
    intro entry hmem hinvalid
    exact h (hinvalid ▸ mem_of_mem_toList hmem)
  have hentries := reads_array fun entry hmem => reads_getNextGKDepsMapEntry (hvalid entry hmem)
  rw [Std.ExtTreeMap.length_toList] at hentries
  have hmap : Reads (pure (depsMap.toList.foldl
      (fun depsMap entry => depsMap.insert entry.1 entry.2) (∅ : GKDepsMap))) [] depsMap := by
    rw [foldl_insert_toList]
    exact reads_pure depsMap
  apply Reads.rebuilding
  exact (reads_getNextUInt64Argument depsMap.size).bind (hentries.bind hmap)

end GLogiK
