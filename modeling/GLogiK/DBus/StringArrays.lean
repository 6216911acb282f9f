import GLogiK.DBus.RoundTrip

/-!
# String arrays among other arguments

The strings of an array leave their sizes among the numbers of the message, and no reader pops
them. What is read after the array goes wrong, unless the sizes happen to be what it should read.
-/

namespace GLogiK

open Arguments

/-- An argument at top level. The strings of an array are not empty. -/
inductive FlatArgument
  | string (value : String)
  | uint64 (value : ℕ)
  | byte (value : UInt8)
  | stringArray (values : List {value : String // value ≠ ""})

namespace FlatArgument

def toArgument : FlatArgument → Argument
  | .string value       => .string value
  | .uint64 value       => .uint64 value
  | .byte value         => .byte value
  | .stringArray values => .stringArray (values.map Subtype.val)

/-- The strings that decoding pushes. -/
def strings : FlatArgument → List String
  | .string value       => if value = "" then [] else [value]
  | .stringArray values => values.map Subtype.val
  | _                   => []

/-- The numbers that decoding pushes. The size of an array comes before the sizes of its strings. -/
def numbers : FlatArgument → List ℕ
  | .string value       => [value.utf8ByteSize]
  | .uint64 value       => [value]
  | .byte _             => []
  | .stringArray values => values.length :: values.map fun value => value.1.utf8ByteSize

def bytes : FlatArgument → List UInt8
  | .byte value => [value]
  | _           => []

/-- The reader of the argument needs this number. The number 0 stands for an empty string, and any
other one for a string that is popped. -/
def Needs (number : ℕ) : FlatArgument → Prop
  | .string value       => number = 0 ↔ value = ""
  | .uint64 value       => number = value
  | .byte _             => False
  | .stringArray values => number = values.length

/-- Each reader of a number gets one that it needs. -/
def Aligned : List FlatArgument → List ℕ → Prop
  | [], _                         => True
  | .byte _ :: args, numbers      => Aligned args numbers
  | _ :: _, []                    => False
  | arg :: args, number :: numbers => arg.Needs number ∧ Aligned args numbers

lemma ne_empty_of_mem_strings {arg : FlatArgument} {value : String} (h : value ∈ arg.strings) :
    value ≠ "" := by
  cases arg with
  | string value' =>
    simp only [strings] at h
    split_ifs at h with hempty
    · cases h
    · rwa [List.mem_singleton.mp h]
  | uint64 _ => cases h
  | byte _ => cases h
  | stringArray values =>
    obtain ⟨value, -, rfl⟩ := List.mem_map.mp h
    exact value.2

/-! ### What decoding pushes -/

lemma leaves_appendString {value : String} (h : value ≠ "") :
    (appendString value).leaves = [.string value] := by
  simp [appendString, String.isEmpty_iff, h, Value.leaves]

lemma leavesOf_strings (values : List {value : String // value ≠ ""}) :
    leavesOf ((values.map Subtype.val).map appendString) =
      values.map fun value => .string value.1 := by
  induction values with
  | nil => rfl
  | cons value values ih =>
    rw [List.map_cons, List.map_cons, leavesOf, ih, leaves_appendString value.2]
    rfl

/-- The stacks of one argument. -/
lemma filterMap_leavesOf_append (arg : FlatArgument) :
    (leavesOf arg.toArgument.append).filterMap Basic.toString? = arg.strings ∧
      (leavesOf arg.toArgument.append).filterMap Basic.toUInt64? = arg.numbers ∧
      (leavesOf arg.toArgument.append).filterMap Basic.toByte? = arg.bytes := by
  cases arg with
  | string value =>
    rw [toArgument, Argument.append, leavesOf_singleton]
    by_cases hempty : value = ""
    · subst hempty
      exact ⟨rfl, rfl, rfl⟩
    · rw [leaves_appendString hempty, strings, if_neg hempty]
      exact ⟨rfl, rfl, rfl⟩
  | uint64 value => exact ⟨rfl, rfl, rfl⟩
  | byte value => exact ⟨rfl, rfl, rfl⟩
  | stringArray values =>
    have hleaves : leavesOf (toArgument (.stringArray values)).append =
        .uint64 values.length :: values.map fun value => .string value.1 := by
      rw [toArgument, Argument.append, appendStringArray, leavesOf, leavesOf_singleton,
        Value.leaves, leavesOf_strings, List.length_map]
      rfl
    rw [hleaves]
    refine ⟨?_, ?_, ?_⟩
    · simp [List.filterMap_map, Function.comp_def, Basic.toString?, strings, List.filterMap_cons]
    · simp [List.filterMap_map, Function.comp_def, Basic.toUInt64?, numbers]
    · simp [List.filterMap_map, Function.comp_def, Basic.toByte?, bytes, List.filterMap_cons]

lemma filterMap_leavesOf_flatMap (args : List FlatArgument) :
    let leaves := leavesOf ((args.map toArgument).flatMap Argument.append)
    leaves.filterMap Basic.toString? = args.flatMap strings ∧
      leaves.filterMap Basic.toUInt64? = args.flatMap numbers ∧
      leaves.filterMap Basic.toByte? = args.flatMap bytes := by
  induction args with
  | nil => exact ⟨rfl, rfl, rfl⟩
  | cons arg args ih =>
    obtain ⟨hstrings, hnumbers, hbytes⟩ := filterMap_leavesOf_append arg
    obtain ⟨ihstrings, ihnumbers, ihbytes⟩ := ih
    simp only [List.map_cons, List.flatMap_cons, leavesOf_append, List.filterMap_append]
    rw [hstrings, hnumbers, hbytes, ihstrings, ihnumbers, ihbytes]
    exact ⟨rfl, rfl, rfl⟩

end FlatArgument

/-! ### What the readers pop -/

lemma ArgReader.eq_of_fst {α : Type} {reader : ArgReader α} {value : α} {args : Arguments}
    (h : (reader args).1 = .ok value) : reader args = (.ok value, (reader args).2) :=
  Prod.ext h rfl

lemma ArgReader.eq_ok_iff {α : Type} {reader : ArgReader α} {value value' : α}
    {args rest rest' : Arguments} (h : reader args = (.ok value, rest)) :
    reader args = (.ok value', rest') ↔ value = value' ∧ rest' = rest := by
  rw [h]
  constructor
  · intro heq
    cases heq
    exact ⟨rfl, rfl⟩
  · rintro ⟨rfl, rfl⟩
    rfl

lemma ArgReader.ne_ok_of_error {α : Type} {reader : ArgReader α} {value : α} {e : GLogiKExcept}
    {args rest rest' : Arguments} (h : reader args = (.error e, rest)) :
    reader args ≠ (.ok value, rest') := by
  rw [h]
  nofun

lemma getNextArguments_cons_eq_ok {type : ArgumentType} {types : List ArgumentType}
    {value : Argument} {values : List Argument} {args : Arguments} :
    (getNextArguments (type :: types) args).1 = .ok (value :: values) ↔ ∃ rest,
      type.getNext args = (.ok value, rest) ∧ (getNextArguments types rest).1 = .ok values := by
  constructor
  · intro h
    obtain ⟨first, rest, hread, hothers⟩ := ArgReader.bind_eq_ok (ArgReader.eq_of_fst h)
    obtain ⟨others, rest', hrest, hpure⟩ := ArgReader.bind_eq_ok hothers
    cases (Prod.ext_iff.mp hpure).1
    exact ⟨rest, hread, (Prod.ext_iff.mp hrest).1⟩
  · rintro ⟨rest, hread, hrest⟩
    rw [getNextArguments, ArgReader.bind_eq_of_ok hread,
      ArgReader.bind_eq_of_ok (ArgReader.eq_of_fst hrest)]
    rfl

/-- A reader that wraps what it reads. -/
lemma map_eq_ok_iff {α : Type} {reader : ArgReader α} {f : α → Argument}
    (hf : Function.Injective f) {value : α} {args rest : Arguments} :
    (reader >>= fun value => pure (f value)) args = (.ok (f value), rest) ↔
      reader args = (.ok value, rest) := by
  constructor
  · intro h
    obtain ⟨value', rest', hread, hpure⟩ := ArgReader.bind_eq_ok h
    obtain ⟨hvalue, rfl⟩ := Prod.ext_iff.mp hpure
    cases hf (Except.ok.inj hvalue)
    exact hread
  · intro h
    exact map_eq_of_ok f h

lemma getNextUInt64Argument_of_nil {args : Arguments} (h : args.uint64Arguments = []) :
    getNextUInt64Argument args = (.error (.emptyContainer "missing argument : uint64"), args) := by
  simp only [getNextUInt64Argument, h]

lemma getNextUInt64Argument_of_cons {args : Arguments} {number : ℕ} {numbers : List ℕ}
    (h : args.uint64Arguments = number :: numbers) :
    getNextUInt64Argument args = (.ok number, { args with uint64Arguments := numbers }) := by
  simp only [getNextUInt64Argument, h]

/-- A string is read by its number. -/
lemma getNextStringArgument_of_cons {args : Arguments} {number : ℕ} {numbers : List ℕ}
    (h : args.uint64Arguments = number :: numbers) :
    getNextStringArgument args =
      if number ≠ 0 then popString { args with uint64Arguments := numbers }
      else (.ok "", { args with uint64Arguments := numbers }) := by
  rw [getNextStringArgument, ArgReader.bind_eq_of_ok (getNextUInt64Argument_of_cons h)]
  split_ifs <;> rfl

lemma getNextStringArray_of_cons {args : Arguments} {number : ℕ} {numbers : List ℕ}
    (h : args.uint64Arguments = number :: numbers) :
    getNextStringArray args =
      if args.stringArguments.length < number then
        (.error (.other "wrong string array size"), { args with uint64Arguments := numbers })
      else (.ok (args.stringArguments.take number),
        { args with
          uint64Arguments := numbers
          stringArguments := args.stringArguments.drop number }) := by
  rw [getNextStringArray, ArgReader.bind_eq_of_ok (getNextUInt64Argument_of_cons h)]

namespace FlatArgument

/-- An argument that is not a byte has a number. -/
lemma not_getNext_eq_ok {arg : FlatArgument} (harg : ∀ value, arg ≠ .byte value)
    {decoded rest : Arguments} (hnumbers : decoded.uint64Arguments = []) :
    arg.toArgument.type.getNext decoded ≠ (.ok arg.toArgument, rest) := by
  have hnumber := getNextUInt64Argument_of_nil hnumbers
  intro h
  cases arg with
  | byte value => exact harg value rfl
  | string value =>
    obtain ⟨_, _, hread, _⟩ := ArgReader.bind_eq_ok h
    obtain ⟨_, _, hread, _⟩ := ArgReader.bind_eq_ok hread
    exact ArgReader.ne_ok_of_error hnumber hread
  | uint64 value =>
    obtain ⟨_, _, hread, _⟩ := ArgReader.bind_eq_ok h
    exact ArgReader.ne_ok_of_error hnumber hread
  | stringArray values =>
    obtain ⟨_, _, hread, _⟩ := ArgReader.bind_eq_ok h
    obtain ⟨_, _, hread, _⟩ := ArgReader.bind_eq_ok hread
    exact ArgReader.ne_ok_of_error hnumber hread

/-- A string is read just when its number says whether it is empty: no string on the stack is. -/
lemma getNextStringArgument_eq_ok_iff {value : String} {args : List FlatArgument}
    {decoded rest : Arguments} {number : ℕ} {numbers : List ℕ}
    (hstrings : decoded.stringArguments = (.string value :: args).flatMap strings)
    (hnumbers : decoded.uint64Arguments = number :: numbers) :
    getNextStringArgument decoded = (.ok value, rest) ↔ (number = 0 ↔ value = "") ∧
      rest = { decoded with
        uint64Arguments := numbers
        stringArguments := args.flatMap strings } := by
  have hread := getNextStringArgument_of_cons hnumbers
  rw [List.flatMap_cons, strings] at hstrings
  by_cases hzero : number = 0
  · rw [if_neg (not_not.mpr hzero)] at hread
    rw [ArgReader.eq_ok_iff hread, iff_true_intro hzero, true_iff, eq_comm (a := "")]
    refine and_congr_right fun hempty => ?_
    rw [if_pos hempty, List.nil_append] at hstrings
    rw [← hstrings]
  · rw [if_pos hzero] at hread
    rw [iff_false_intro hzero, false_iff]
    by_cases hempty : value = ""
    · -- a string of a later argument is popped, or none is left
      rw [if_pos hempty, List.nil_append] at hstrings
      refine iff_of_false ?_ fun h => h.1 hempty
      cases hlater : args.flatMap strings with
      | nil =>
        rw [hlater] at hstrings
        have hpop : getNextStringArgument decoded =
            (.error (.emptyContainer "missing argument : string"),
              { decoded with uint64Arguments := numbers }) := by
          rw [hread]
          simp only [popString, hstrings]
        exact ArgReader.ne_ok_of_error hpop
      | cons other others =>
        rw [hlater] at hstrings
        have hpop : getNextStringArgument decoded = (.ok other,
            { decoded with uint64Arguments := numbers, stringArguments := others }) := by
          rw [hread]
          simp only [popString, hstrings]
        intro h
        obtain ⟨arg, -, hmem⟩ := List.mem_flatMap.mp (hlater ▸ List.mem_cons_self)
        exact ne_empty_of_mem_strings hmem (((ArgReader.eq_ok_iff hpop).mp h).1.trans hempty)
    · rw [if_neg hempty, List.singleton_append] at hstrings
      have hpop : getNextStringArgument decoded = (.ok value,
          { decoded with
            uint64Arguments := numbers
            stringArguments := args.flatMap strings }) := by
        rw [hread]
        simp only [popString, hstrings]
      rw [ArgReader.eq_ok_iff hpop]
      simp [hempty]

/-- The strings of an array are on top of their stack. -/
lemma getNextStringArray_eq_ok_iff {values : List {value : String // value ≠ ""}}
    {args : List FlatArgument} {decoded rest : Arguments} {number : ℕ} {numbers : List ℕ}
    (hstrings : decoded.stringArguments = (.stringArray values :: args).flatMap strings)
    (hnumbers : decoded.uint64Arguments = number :: numbers) :
    getNextStringArray decoded = (.ok (values.map Subtype.val), rest) ↔ number = values.length ∧
      rest = { decoded with
        uint64Arguments := numbers
        stringArguments := args.flatMap strings } := by
  have hread := getNextStringArray_of_cons hnumbers
  rw [List.flatMap_cons, strings] at hstrings
  by_cases hlt : decoded.stringArguments.length < number
  · rw [if_pos hlt] at hread
    refine iff_of_false (ArgReader.ne_ok_of_error hread) ?_
    rintro ⟨hnumber, -⟩
    rw [hstrings, List.length_append, List.length_map] at hlt
    omega
  · rw [if_neg hlt] at hread
    rw [ArgReader.eq_ok_iff hread, hstrings]
    rw [hstrings, List.length_append, List.length_map, not_lt] at hlt
    have hlength : (values.map Subtype.val).length = values.length := List.length_map _
    constructor
    · rintro ⟨htake, hrest⟩
      have hnumber := congrArg List.length htake
      rw [List.length_take, List.length_append, hlength] at hnumber
      have hnumber' : number = values.length := by omega
      refine ⟨hnumber', ?_⟩
      rw [hrest, hnumber', ← hlength, List.drop_left]
    · rintro ⟨hnumber, hrest⟩
      rw [hnumber, ← hlength, List.take_left, List.drop_left]
      exact ⟨rfl, hrest⟩

/-- The reader of an argument with a number reads it just when it gets a number that it needs. -/
lemma getNext_eq_ok_iff {arg : FlatArgument} (harg : ∀ value, arg ≠ .byte value)
    {args : List FlatArgument} {decoded rest : Arguments} {number : ℕ} {numbers : List ℕ}
    (hstrings : decoded.stringArguments = (arg :: args).flatMap strings)
    (hnumbers : decoded.uint64Arguments = number :: numbers) :
    arg.toArgument.type.getNext decoded = (.ok arg.toArgument, rest) ↔ arg.Needs number ∧
      rest = { decoded with
        uint64Arguments := numbers
        stringArguments := args.flatMap strings } := by
  cases arg with
  | byte value => exact absurd rfl (harg value)
  | string value =>
    exact (map_eq_ok_iff fun _ _ => Argument.string.inj).trans
      (getNextStringArgument_eq_ok_iff hstrings hnumbers)
  | uint64 value =>
    refine (map_eq_ok_iff fun _ _ => Argument.uint64.inj).trans ?_
    rw [ArgReader.eq_ok_iff (getNextUInt64Argument_of_cons hnumbers)]
    rw [show decoded.stringArguments = args.flatMap strings from hstrings]
    rfl
  | stringArray values =>
    exact (map_eq_ok_iff fun _ _ => Argument.stringArray.inj).trans
      (getNextStringArray_eq_ok_iff hstrings hnumbers)

lemma getNext_byte_eq_ok_iff {value : UInt8} {args : List FlatArgument} {decoded rest : Arguments}
    (hbytes : decoded.byteArguments = (.byte value :: args).flatMap bytes) :
    ArgumentType.byte.getNext decoded = (.ok (.byte value), rest) ↔
      rest = { decoded with byteArguments := args.flatMap bytes } := by
  have hread : getNextByteArgument decoded =
      (.ok value, { decoded with byteArguments := args.flatMap bytes }) := by
    simp only [getNextByteArgument, hbytes]
    rfl
  exact (ArgReader.eq_ok_iff (map_eq_of_ok Argument.byte hread)).trans (and_iff_right rfl)

lemma bytes_eq_nil {arg : FlatArgument} (harg : ∀ value, arg ≠ .byte value) : arg.bytes = [] := by
  cases arg with
  | byte value => exact absurd rfl (harg value)
  | _ => rfl

/-- The arguments are read just when each reader gets a number that it needs: strings and bytes are
always where their reader looks for them. -/
lemma getNextArguments_eq_ok_iff {args : List FlatArgument} {decoded : Arguments}
    (hstrings : decoded.stringArguments = args.flatMap strings)
    (hbytes : decoded.byteArguments = args.flatMap bytes) :
    (getNextArguments ((args.map toArgument).map Argument.type) decoded).1 =
        .ok (args.map toArgument) ↔ Aligned args decoded.uint64Arguments := by
  induction args generalizing decoded with
  | nil => exact iff_of_true rfl trivial
  | cons arg args ih =>
    rw [List.map_cons, List.map_cons, getNextArguments_cons_eq_ok]
    by_cases harg : ∃ value, arg = .byte value
    · obtain ⟨value, rfl⟩ := harg
      have ih := @ih { decoded with byteArguments := args.flatMap bytes } hstrings rfl
      constructor
      · rintro ⟨rest, hread, hrest⟩
        rw [(getNext_byte_eq_ok_iff hbytes).mp hread] at hrest
        exact ih.mp hrest
      · intro h
        exact ⟨_, (getNext_byte_eq_ok_iff hbytes).mpr rfl, ih.mpr h⟩
    · push Not at harg
      rw [List.flatMap_cons, bytes_eq_nil harg, List.nil_append] at hbytes
      cases hnumbers : decoded.uint64Arguments with
      | nil =>
        have hnot : ¬ Aligned (arg :: args) [] := by
          cases arg with
          | byte value => exact absurd rfl (harg value)
          | _ => exact id
        refine iff_of_false ?_ hnot
        rintro ⟨rest, hread, -⟩
        exact not_getNext_eq_ok harg hnumbers hread
      | cons number numbers =>
        have haligned : Aligned (arg :: args) (number :: numbers) ↔
            arg.Needs number ∧ Aligned args numbers := by
          cases arg with
          | byte value => exact absurd rfl (harg value)
          | _ => exact Iff.rfl
        rw [haligned]
        have ih := @ih { decoded with
          uint64Arguments := numbers
          stringArguments := args.flatMap strings } rfl hbytes
        constructor
        · rintro ⟨rest, hread, hrest⟩
          obtain ⟨hneeds, rfl⟩ := (getNext_eq_ok_iff harg hstrings hnumbers).mp hread
          exact ⟨hneeds, ih.mp hrest⟩
        · rintro ⟨hneeds, hargs⟩
          exact ⟨_, (getNext_eq_ok_iff harg hstrings hnumbers).mpr ⟨hneeds, rfl⟩, ih.mpr hargs⟩

end FlatArgument

/-- Strings, numbers, bytes and string arrays are read back just when each reader of a number gets
one that it needs from the numbers that were pushed. -/
theorem readsBack_iff_aligned (before : Arguments) (args : List FlatArgument) :
    ReadsBack before (args.map FlatArgument.toArgument) ↔
      FlatArgument.Aligned args (args.flatMap FlatArgument.numbers) := by
  obtain ⟨stale, hfill⟩ := fillInArguments_flatMap_append before (args.map FlatArgument.toArgument)
  obtain ⟨hstrings, hnumbers, hbytes⟩ := FlatArgument.filterMap_leavesOf_flatMap args
  simp only [ReadsBack, hfill, Option.some_inj, exists_eq_left']
  rw [FlatArgument.getNextArguments_eq_ok_iff]
  · simp only [append_def, ofLeaves, List.append_nil, hnumbers]
  · simp only [append_def, ofLeaves, List.append_nil, hstrings]
  · simp only [append_def, ofLeaves, List.append_nil, hbytes]

/-- An array that is all of a message is read back. -/
lemma getNextStringArray_of_message (before : Arguments) {texts : List String}
    (h : ∀ text ∈ texts, text ≠ "") :
    ∃ decoded rest, before.fillInArguments (some (appendStringArray texts)) = some decoded ∧
      getNextStringArray decoded = (.ok texts, rest) := by
  lift texts to List {value : String // value ≠ ""} using h
  obtain ⟨stale, hfill⟩ := fillInArguments_flatMap_append before
    [FlatArgument.toArgument (.stringArray texts)]
  obtain ⟨hstrings, hnumbers, -⟩ :=
    FlatArgument.filterMap_leavesOf_append (.stringArray texts)
  rw [List.flatMap_singleton] at hfill
  let decoded := ofLeaves (leavesOf (FlatArgument.toArgument (.stringArray texts)).append) ++
    { int32Arguments := stale }
  have htexts : decoded.stringArguments = texts.map Subtype.val := by
    simp only [decoded, append_def, ofLeaves, List.append_nil]
    exact hstrings
  have hsizes : decoded.uint64Arguments =
      texts.length :: texts.map fun text => text.1.utf8ByteSize := by
    simp only [decoded, append_def, ofLeaves, List.append_nil]
    exact hnumbers
  refine ⟨decoded, (getNextStringArray decoded).2, hfill, ArgReader.eq_of_fst ?_⟩
  rw [getNextStringArray_of_cons hsizes, htexts, List.length_map, if_neg (lt_irrefl _),
    List.take_of_length_le (by rw [List.length_map])]

/-- The size of the string in the array is read in place of the number 5. -/
theorem not_readsBack_stringArray :
    ¬ ReadsBack {} ([.stringArray [⟨"a", by decide⟩], .uint64 5].map FlatArgument.toArgument) := by
  rintro ⟨decoded, hfill, hread⟩
  have hdecoded : decoded =
      { stringArguments := ["a"], uint64Arguments := [1, 1, 5] } := by
    cases hfill
    rfl
  rw [hdecoded] at hread
  cases hread

end GLogiK
