import GLogiK.DBus.ArgBase

/-!
# The traversal of a message

The struct case of `decodeArgumentFromIterator` recurses into whatever follows a struct. A message
is decoded as it should when only values that have contents follow a struct.
-/

namespace GLogiK

/-! ### Traversable messages -/

/-- The value can be recursed into, and has a first content. -/
def Value.HasContents : Value → Prop
  | .basic _          => False
  | .array _ elements => elements ≠ []
  | .struct _         => True
  | .variant _        => True

mutual
/-- A struct has a field, as in every message that is well-formed. -/
def Value.Traversable : Value → Prop
  | .basic _          => True
  | .array _ elements => TraversableAll elements
  | .struct fields    => fields ≠ [] ∧ TraversableAll fields
  | .variant value    => value.Traversable

/-- After a struct come structs, variants and arrays that are not empty. -/
def TraversableAll : List Value → Prop
  | []                => True
  | value :: siblings =>
    value.Traversable ∧ TraversableAll siblings ∧
      (value.isStruct → ∀ sibling ∈ siblings, sibling.HasContents)
end

/-! ### Traversable messages are decoded -/

lemma decodeSiblings_cons_eq_some {value : Value} {siblings : List Value} {leaves : List Basic} :
    decodeSiblings (value :: siblings) = some leaves ↔ ∃ contents rest,
      recurse value = some contents ∧ decodeSiblings siblings = some rest ∧
        leaves = contents ++ rest := by
  simp [decodeSiblings, Option.bind_eq_some_iff, @eq_comm _ leaves]

lemma decodeArguments_cons_eq_some {value : Value} {siblings : List Value} {leaves : List Basic} :
    decodeArguments (value :: siblings) = some leaves ↔
      ∃ first rest, decodeValue value = some first ∧
      (if value.isStruct then decodeSiblings siblings else
        if siblings.isEmpty then some [] else decodeArguments siblings) = some rest ∧
      leaves = first ++ rest := by
  simp only [decodeArguments, Option.bind_eq_bind, Option.bind_eq_some_iff]
  refine exists_congr fun first => ?_
  rw [exists_and_left]
  refine and_congr_right fun _ => ?_
  split_ifs with hstruct hempty
  · simp [Option.bind_eq_some_iff, @eq_comm _ leaves]
  · simp [@eq_comm _ leaves]
  · simp [Option.bind_eq_some_iff, @eq_comm _ leaves]

mutual
/-- A value is decoded, and its contents are if it has some. -/
lemma Value.Traversable.decode : (value : Value) → value.Traversable →
    decodeValue value = some value.leaves ∧
      (value.HasContents → recurse value = some value.leaves)
  | .basic _, _ => ⟨rfl, False.elim⟩
  | .array _ elements, h => by
    have hall := TraversableAll.decode elements h
    constructor
    · cases elements with
      | nil => rfl
      | cons value values => exact hall.1 (List.cons_ne_nil _ _)
    · exact hall.1
  | .struct fields, h => by
    have hall := TraversableAll.decode fields h.2
    exact ⟨hall.1 h.1, fun _ => hall.1 h.1⟩
  | .variant value, h => by
    have hvalue := Value.Traversable.decode value h
    exact ⟨hvalue.1, fun _ => hvalue.1⟩

lemma TraversableAll.decode : (values : List Value) → TraversableAll values →
    (values ≠ [] → decodeArguments values = some (leavesOf values)) ∧
      ((∀ value ∈ values, value.HasContents) → decodeSiblings values = some (leavesOf values))
  | [], _ => ⟨fun hne => absurd rfl hne, fun _ => rfl⟩
  | value :: siblings, ⟨h, hs, hstruct⟩ => by
    have hvalue := Value.Traversable.decode value h
    have hsiblings := TraversableAll.decode siblings hs
    constructor
    · intro _
      refine decodeArguments_cons_eq_some.mpr ⟨_, _, hvalue.1, ?_, rfl⟩
      split_ifs with hisStruct hempty
      · exact hsiblings.2 (hstruct hisStruct)
      · rw [List.isEmpty_iff.mp hempty]
        rfl
      · exact hsiblings.1 fun hnil => hempty (List.isEmpty_iff.mpr hnil)
    · intro hcontents
      have hrest := hsiblings.2 fun sibling hmem => hcontents sibling (List.mem_cons_of_mem _ hmem)
      exact decodeSiblings_cons_eq_some.mpr
        ⟨_, _, hvalue.2 (hcontents value List.mem_cons_self), hrest, rfl⟩
end

/-! ### Messages that are decoded are traversable -/

mutual
lemma traversable_of_decodeValue : (value : Value) →
    ((decodeValue value).isSome → value.Traversable) ∧
      ((recurse value).isSome → value.Traversable ∧ value.HasContents)
  | .basic _ => ⟨fun _ => trivial, fun h => by cases h⟩
  | .array _ elements => by
    have hall := (traversableAll_of_decodeArguments elements).1
    cases elements with
    | nil => exact ⟨fun _ => trivial, fun h => by cases h⟩
    | cons value values => exact ⟨hall, fun h => ⟨hall h, List.cons_ne_nil _ _⟩⟩
  | .struct fields => by
    have hall : (decodeArguments fields).isSome → fields ≠ [] ∧ TraversableAll fields := by
      intro h
      refine ⟨?_, (traversableAll_of_decodeArguments fields).1 h⟩
      rintro rfl
      cases h
    exact ⟨hall, fun h => ⟨hall h, trivial⟩⟩
  | .variant value => by
    have hvalue := (traversable_of_decodeValue value).1
    exact ⟨hvalue, fun h => ⟨hvalue h, trivial⟩⟩

lemma traversableAll_of_decodeArguments : (values : List Value) →
    ((decodeArguments values).isSome → TraversableAll values) ∧
      ((decodeSiblings values).isSome →
        TraversableAll values ∧ ∀ value ∈ values, value.HasContents)
  | [] => ⟨fun _ => trivial, fun _ => ⟨trivial, nofun⟩⟩
  | value :: siblings => by
    have hvalue := traversable_of_decodeValue value
    have hsiblings := traversableAll_of_decodeArguments siblings
    constructor
    · intro h
      obtain ⟨leaves, hleaves⟩ := Option.isSome_iff_exists.mp h
      obtain ⟨first, rest, hfirst, hrest, -⟩ := decodeArguments_cons_eq_some.mp hleaves
      have htraversable := hvalue.1 (Option.isSome_of_eq_some hfirst)
      split_ifs at hrest with hstruct hempty
      · obtain ⟨hs, hcontents⟩ := hsiblings.2 (Option.isSome_of_eq_some hrest)
        exact ⟨htraversable, hs, fun _ => hcontents⟩
      · rw [List.isEmpty_iff.mp hempty]
        exact ⟨htraversable, trivial, fun _ => nofun⟩
      · exact ⟨htraversable, hsiblings.1 (Option.isSome_of_eq_some hrest),
          fun h => absurd h hstruct⟩
    · intro h
      obtain ⟨leaves, hleaves⟩ := Option.isSome_iff_exists.mp h
      obtain ⟨contents, rest, hfirst, hrest, -⟩ := decodeSiblings_cons_eq_some.mp hleaves
      obtain ⟨htraversable, hcontents⟩ := hvalue.2 (Option.isSome_of_eq_some hfirst)
      obtain ⟨hs, hall⟩ := hsiblings.2 (Option.isSome_of_eq_some hrest)
      have hvalues : ∀ v ∈ value :: siblings, v.HasContents :=
        List.forall_mem_cons.mpr ⟨hcontents, hall⟩
      exact ⟨⟨htraversable, hs, fun _ => hall⟩, hvalues⟩
end

/-! ### The arguments after a message -/

namespace Arguments

lemma ofLeaves_eq_iff_nil {leaves : List Basic} {stale : List Int32} :
    { ofLeaves leaves with int32Arguments := stale ++ leaves.filterMap Basic.toInt32? } =
      ofLeaves leaves ↔ stale = [] := by
  constructor
  · intro h
    have hint32 := congrArg (·.int32Arguments.length) h
    simpa [ofLeaves] using hint32
  · intro h
    rw [h]
    rfl

/-- A traversable message leaves its own leaves on the stacks, behind the values of an earlier one
that were not cleared. -/
lemma fillInArguments_of_traversable (args : Arguments) {body : List Value}
    (h : TraversableAll body) :
    args.fillInArguments (some body) = some (if body = [] then
        { int32Arguments := args.int32Arguments }
      else { ofLeaves (leavesOf body) with
        int32Arguments :=
          args.int32Arguments.reverse ++ (leavesOf body).filterMap Basic.toInt32? }) := by
  cases body with
  | nil => rfl
  | cons value values =>
    have hdecode := (TraversableAll.decode _ h).1 (List.cons_ne_nil _ _)
    simp only [fillInArguments, hdecode, if_neg (List.cons_ne_nil _ _)]
    exact congrArg some (reverse_foldl_push _ _)

/-- Only the `int32` of an earlier message can stand among the arguments. -/
lemma fillInArguments_eq_ofLeaves_iff (args : Arguments) {body : List Value}
    (h : TraversableAll body) :
    args.fillInArguments (some body) = some (ofLeaves (leavesOf body)) ↔
      args.int32Arguments = [] := by
  rw [fillInArguments_of_traversable args h, Option.some_inj]
  split_ifs with hbody
  · rw [hbody]
    constructor
    · intro hfills
      exact congrArg Arguments.int32Arguments hfills
    · intro hint32
      rw [hint32]
      rfl
  · exact ofLeaves_eq_iff_nil.trans List.reverse_eq_nil_iff

/-- A message that is not traversable is not decoded. -/
lemma traversableAll_of_fillInArguments {args : Arguments} {body : List Value}
    (h : (args.fillInArguments (some body)).isSome) : TraversableAll body := by
  cases body with
  | nil => trivial
  | cons value values =>
    simp only [fillInArguments] at h
    cases hdecode : decodeArguments (value :: values) with
    | none =>
      rw [hdecode] at h
      cases h
    | some leaves =>
      exact (traversableAll_of_decodeArguments _).1 (Option.isSome_of_eq_some hdecode)

/-- Every leaf is visited once, from left to right, and the stacks give the leaves of the message
in their order. -/
structure FillsIn (args : Arguments) (message : Message) : Prop where
  visits : message.body ≠ [] → decodeArguments message.body = some (leavesOf message.body)
  fills : args.fillInArguments (some message.body) = some (ofLeaves (leavesOf message.body))

end Arguments

/-- A message is decoded as it should just when only structs, variants and arrays that are not
empty follow a struct, and no `int32` of an earlier message is left. -/
theorem fillsIn_iff (args : Arguments) (message : Message) :
    args.FillsIn message ↔ TraversableAll message.body ∧ args.int32Arguments = [] := by
  constructor
  · intro h
    have htraversable := Arguments.traversableAll_of_fillInArguments
      (Option.isSome_of_eq_some h.fills)
    exact ⟨htraversable,
      (Arguments.fillInArguments_eq_ofLeaves_iff args htraversable).mp h.fills⟩
  · rintro ⟨h, hint32⟩
    constructor
    · exact (TraversableAll.decode _ h).1
    · exact (Arguments.fillInArguments_eq_ofLeaves_iff args h).mpr hint32

/-- A struct that holds a string, and a `uint64` after it. -/
def structThenUInt64 : Message where
  body := [.struct [.basic (.string "a")], .basic (.uint64 1)]
  wellFormed := by simp [WellFormedAll, Value.WellFormed]

/-- The decoder recurses into the `uint64`. -/
theorem not_fillsIn_structThenUInt64 : ¬ ({} : Arguments).FillsIn structThenUInt64 := by
  intro h
  have hvisits : decodeArguments structThenUInt64.body = none := rfl
  rw [h.visits (List.cons_ne_nil _ _)] at hvisits
  cases hvisits

end GLogiK
