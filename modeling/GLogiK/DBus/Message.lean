import Mathlib.Data.UInt

/-!
# The messages of the bus

A D-Bus message is a list of trees. The leaves are values of the basic types, and each value has
a type, which is its signature.
-/

namespace GLogiK

/-! ### Types -/

/-- The basic types whose values are decoded. -/
inductive BasicType
  | string
  | objectPath
  | boolean
  | byte
  | uint16
  | uint64
  | unixFd
  deriving DecidableEq, Repr

inductive DBusType
  | basic (type : BasicType)
  | array (element : DBusType)
  | struct (fields : List DBusType)
  | variant

/-! ### Values -/

/-- The values of the basic types. A `uint64` is a number, as the size of a container is. -/
inductive Basic
  | string (value : String)
  | objectPath (value : String)
  | boolean (value : Bool)
  | byte (value : UInt8)
  | uint16 (value : UInt16)
  | uint64 (value : ℕ)
  | unixFd (value : Int32)
  deriving DecidableEq, Repr

def Basic.type : Basic → BasicType
  | .string _     => .string
  | .objectPath _ => .objectPath
  | .boolean _    => .boolean
  | .byte _       => .byte
  | .uint16 _     => .uint16
  | .uint64 _     => .uint64
  | .unixFd _     => .unixFd

/-- An array was opened with the type of its elements. -/
inductive Value
  | basic (value : Basic)
  | array (element : DBusType) (elements : List Value)
  | struct (fields : List Value)
  | variant (value : Value)

mutual
def Value.type : Value → DBusType
  | .basic value     => .basic value.type
  | .array element _ => .array element
  | .struct fields   => .struct (typesOf fields)
  | .variant _       => .variant

def typesOf : List Value → List DBusType
  | []              => []
  | value :: values => value.type :: typesOf values
end

mutual
/-- A struct has a field, and the elements of an array are of its type. -/
def Value.WellFormed : Value → Prop
  | .basic _                => True
  | .array element elements => ElementsOf element elements
  | .struct fields          => fields ≠ [] ∧ WellFormedAll fields
  | .variant value          => value.WellFormed

def WellFormedAll : List Value → Prop
  | []              => True
  | value :: values => value.WellFormed ∧ WellFormedAll values

def ElementsOf (element : DBusType) : List Value → Prop
  | []              => True
  | value :: values => (value.type = element ∧ value.WellFormed) ∧ ElementsOf element values
end

mutual
/-- The leaves of the tree from left to right. -/
def Value.leaves : Value → List Basic
  | .basic value      => [value]
  | .array _ elements => leavesOf elements
  | .struct fields    => leavesOf fields
  | .variant value    => value.leaves

def leavesOf : List Value → List Basic
  | []              => []
  | value :: values => value.leaves ++ leavesOf values
end

/-- The arguments of a message that libdbus delivers. -/
structure Message where
  body : List Value
  wellFormed : WellFormedAll body

end GLogiK
