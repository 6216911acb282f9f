import GLogiK.DBus.Message

/-!
# Decoding the arguments of a message

`ArgBase` decodes a message by recursion over its tree, and pushes every leaf on the stack of its
type.
-/

namespace GLogiK

/-! ### The traversal -/

def Value.isStruct : Value → Bool
  | .struct _ => true
  | _         => false

/-!
`decodeArgumentFromIterator` looks at the value at which its iterator is. It leaves the iterator
there, except in the struct case, whose outer loop takes the iterator through all siblings of the
struct and recurses into each. The leaves come in the order in which they are pushed, and `none`
is a call that libdbus forbids: to recurse into a basic value, or to read where no value is.
-/

mutual
/-- The value at the iterator, without the siblings of a struct. -/
def decodeValue : Value → Option (List Basic)
  | .basic value      => some [value]
  | .array _ elements => if elements.isEmpty then some [] else decodeArguments elements
  | .struct fields    => decodeArguments fields
  | .variant value    => decodeValue value

/-- `do decodeArgumentFromIterator(iter) while(dbus_message_iter_next(iter))`. -/
def decodeArguments : List Value → Option (List Basic)
  | []                => none
  | value :: siblings => do
    let leaves ← decodeValue value
    if value.isStruct then
      return leaves ++ (← decodeSiblings siblings)
    else if siblings.isEmpty then
      return leaves
    else
      return leaves ++ (← decodeArguments siblings)

/-- The inner loop of the struct case, on any value. -/
def recurse : Value → Option (List Basic)
  | .basic _          => none
  | .array _ elements => decodeArguments elements
  | .struct fields    => decodeArguments fields
  | .variant value    => decodeValue value

/-- The outer loop of the struct case, after the first round. -/
def decodeSiblings : List Value → Option (List Basic)
  | []                => some []
  | value :: siblings => do return (← recurse value) ++ (← decodeSiblings siblings)
end

/-- On the arguments from the iterator to the last one. -/
def decodeArgumentFromIterator : List Value → Option (List Basic)
  | []                => none
  | value :: siblings => do
    let leaves ← decodeValue value
    if value.isStruct then return leaves ++ (← decodeSiblings siblings) else return leaves

/-! ### The stacks -/

/-- The thread-local vectors. The back of a vector is the head of its list. -/
structure Arguments where
  stringArguments : List String := []
  int32Arguments : List Int32 := []
  byteArguments : List UInt8 := []
  uint16Arguments : List UInt16 := []
  uint64Arguments : List ℕ := []
  booleanArguments : List Bool := []
  deriving DecidableEq, Repr

/-- A string is pushed with its size, by which a reader tells it from an empty one. -/
def Arguments.push (args : Arguments) : Basic → Arguments
  | .string value | .objectPath value => { args with
      uint64Arguments := value.utf8ByteSize :: args.uint64Arguments
      stringArguments := value :: args.stringArguments }
  | .boolean value => { args with booleanArguments := value :: args.booleanArguments }
  | .byte value    => { args with byteArguments := value :: args.byteArguments }
  | .uint16 value  => { args with uint16Arguments := value :: args.uint16Arguments }
  | .uint64 value  => { args with uint64Arguments := value :: args.uint64Arguments }
  | .unixFd value  => { args with int32Arguments := value :: args.int32Arguments }

def Arguments.reverse (args : Arguments) : Arguments where
  stringArguments := args.stringArguments.reverse
  int32Arguments := args.int32Arguments.reverse
  byteArguments := args.byteArguments.reverse
  uint16Arguments := args.uint16Arguments.reverse
  uint64Arguments := args.uint64Arguments.reverse
  booleanArguments := args.booleanArguments.reverse

/-- `int32Arguments` are not cleared. A null message and one without arguments leave it there. -/
def Arguments.fillInArguments (args : Arguments) : Option (List Value) → Option Arguments
  | none | some []         => some { int32Arguments := args.int32Arguments }
  | some (value :: values) => do
    let leaves ← decodeArguments (value :: values)
    let args : Arguments := { int32Arguments := args.int32Arguments }
    return (leaves.foldl Arguments.push args).reverse

/-- All vectors are cleared, and none is reversed. -/
def decodeNextArgument : List Value → Option Arguments
  | []             => some {}
  | value :: values => do
    let leaves ← decodeArgumentFromIterator (value :: values)
    return leaves.foldl Arguments.push {}

/-! ### The stacks of a list of leaves -/

def Basic.toString? : Basic → Option String
  | .string value | .objectPath value => some value
  | _ => none

def Basic.toInt32? : Basic → Option Int32
  | .unixFd value => some value
  | _ => none

def Basic.toByte? : Basic → Option UInt8
  | .byte value => some value
  | _ => none

def Basic.toUInt16? : Basic → Option UInt16
  | .uint16 value => some value
  | _ => none

/-- A string counts with its size. -/
def Basic.toUInt64? : Basic → Option ℕ
  | .string value | .objectPath value => some value.utf8ByteSize
  | .uint64 value => some value
  | _ => none

def Basic.toBoolean? : Basic → Option Bool
  | .boolean value => some value
  | _ => none

/-- To pop from a stack gives the leaves of its type in their order. -/
def Arguments.ofLeaves (leaves : List Basic) : Arguments where
  stringArguments := leaves.filterMap Basic.toString?
  int32Arguments := leaves.filterMap Basic.toInt32?
  byteArguments := leaves.filterMap Basic.toByte?
  uint16Arguments := leaves.filterMap Basic.toUInt16?
  uint64Arguments := leaves.filterMap Basic.toUInt64?
  booleanArguments := leaves.filterMap Basic.toBoolean?

lemma Arguments.foldl_push (leaves : List Basic) (args : Arguments) :
    leaves.foldl push args =
      let new := (ofLeaves leaves).reverse
      { stringArguments := new.stringArguments ++ args.stringArguments
        int32Arguments := new.int32Arguments ++ args.int32Arguments
        byteArguments := new.byteArguments ++ args.byteArguments
        uint16Arguments := new.uint16Arguments ++ args.uint16Arguments
        uint64Arguments := new.uint64Arguments ++ args.uint64Arguments
        booleanArguments := new.booleanArguments ++ args.booleanArguments } := by
  induction leaves generalizing args with
  | nil => rfl
  | cons leaf leaves ih =>
    rw [List.foldl_cons, ih]
    cases leaf <;> simp [push, ofLeaves, reverse, List.filterMap_cons, Basic.toString?,
      Basic.toInt32?, Basic.toByte?, Basic.toUInt16?, Basic.toUInt64?, Basic.toBoolean?]

/-- The stacks after a message, with the values that an earlier one left behind. -/
lemma Arguments.reverse_foldl_push (leaves : List Basic) (stale : List Int32) :
    (leaves.foldl push { int32Arguments := stale }).reverse =
      { ofLeaves leaves with
        int32Arguments := stale.reverse ++ leaves.filterMap Basic.toInt32? } := by
  rw [foldl_push]
  simp [reverse, ofLeaves]

end GLogiK
