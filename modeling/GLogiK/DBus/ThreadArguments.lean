import GLogiK.DBus.ArgTypes
import GLogiK.DBus.Traversal
import GLogiK.Lib.Run

/-!
# The arguments of a thread

The stacks are shared by all messages that a thread decodes. `fillInArguments` should leave the
arguments of its message there, and nothing else.
-/

namespace GLogiK

/-- A call that reads arguments. -/
inductive ArgRead
  | boolean
  | byte
  | uint16
  | int32
  | uint64
  | string
  | stringArray
  | gkBinary
  | gkDepsMap
  | lcdPPArray
  | events (macroSize : ℕ)

/-- The stacks after the call, which may have thrown. -/
def ArgRead.read (args : Arguments) : ArgRead → Arguments
  | .boolean          => (getNextBooleanArgument args).2
  | .byte             => (getNextByteArgument args).2
  | .uint16           => (getNextUInt16Argument args).2
  | .int32            => (getNextInt32Argument args).2
  | .uint64           => (getNextUInt64Argument args).2
  | .string           => (getNextStringArgument args).2
  | .stringArray      => (getNextStringArray args).2
  | .gkBinary         => (getNextGKBinaryArgument args).2
  | .gkDepsMap        => (getNextGKDepsMapArgument args).2
  | .lcdPPArray       => (getNextLCDPPArrayArgument args).2
  | .events macroSize => (getNextMacroArgument macroSize args).2

inductive ArgOperation
  | fillInArguments (message : Option Message)
  | decodeNextArgument (arguments : List Value)
  | read (call : ArgRead)

/-- `none` is a thread that has broken a rule of libdbus. -/
abbrev ThreadArguments := Option Arguments

namespace ThreadArguments

def step (thread : ThreadArguments) : ArgOperation → ThreadArguments
  | .fillInArguments message    => thread.bind (·.fillInArguments (message.map Message.body))
  | .decodeNextArgument values  => thread.bind fun _ => GLogiK.decodeNextArgument values
  | .read call                  => thread.map (ArgRead.read · call)

/-- A message without a body leaves no arguments. -/
def argumentsOf (message : Option Message) : Arguments :=
  Arguments.ofLeaves (message.elim [] fun message => leavesOf message.body)

/-- A message that is decoded leaves its own arguments. -/
def FillsOnly (thread : ThreadArguments) : ArgOperation → Prop
  | .fillInArguments message =>
    ∀ args ∈ thread.step (.fillInArguments message), args = argumentsOf message
  | _ => True

/-- No `int32` is left when a message is decoded. -/
def ReadsInt32 (thread : ThreadArguments) : ArgOperation → Prop
  | .fillInArguments message => ∀ args ∈ thread,
    (∀ m ∈ message, TraversableAll m.body) → args.int32Arguments = []
  | _ => True

/-- A message that can be decoded leaves only its own arguments just when no `int32` was left. -/
lemma fillsOnly_iff_readsInt32 (thread : ThreadArguments) (operation : ArgOperation) :
    thread.FillsOnly operation ↔ thread.ReadsInt32 operation := by
  cases operation with
  | decodeNextArgument values => exact Iff.rfl
  | read call => exact Iff.rfl
  | fillInArguments message =>
    cases thread with
    | none => exact iff_of_true nofun nofun
    | some args =>
      cases message with
      | none =>
        -- the early return leaves the `int32` alone
        have hfill : step (some args) (.fillInArguments none) =
            some { int32Arguments := args.int32Arguments } := rfl
        simp only [FillsOnly, hfill, ReadsInt32, Option.mem_some_iff, forall_eq']
        constructor
        · intro h _
          exact congrArg Arguments.int32Arguments h
        · intro h
          rw [h nofun]
          rfl
      | some message =>
        have hfills := @Arguments.fillInArguments_eq_ofLeaves_iff args message.body
        simp only [FillsOnly, ReadsInt32, Option.mem_some_iff, forall_eq', argumentsOf,
          Option.elim_some]
        constructor
        · intro h htraversable
          refine (hfills htraversable).mp ?_
          have hfill := Arguments.fillInArguments_of_traversable args htraversable
          exact hfill.trans (congrArg some (h _ hfill))
        · intro h args' hargs'
          have htraversable :=
            Arguments.traversableAll_of_fillInArguments (Option.isSome_of_eq_some hargs')
          have hfill := (hfills htraversable).mpr (h htraversable)
          exact Option.some_inj.mp (hargs'.symm.trans hfill)

end ThreadArguments

/-- In a run of messages and of calls that read their arguments, every message leaves only its own
arguments just when no `int32` of an earlier one is left when it is decoded. -/
theorem fillsOnly_iff (thread : ThreadArguments) (operations : List ArgOperation) :
    Run.Steps ThreadArguments.step ThreadArguments.FillsOnly thread operations ↔
      Run.Steps ThreadArguments.step ThreadArguments.ReadsInt32 thread operations := by
  have hstep := fun thread operation (_ : True) =>
    ThreadArguments.fillsOnly_iff_readsInt32 thread operation
  exact Run.steps_congr trivial (fun _ _ _ => trivial) hstep operations

/-- A message with a unix fd. -/
def unixFdMessage : Message where
  body := [.basic (.unixFd 7)]
  wellFormed := ⟨trivial, trivial⟩

/-- The fd of a message is not read, and is among the arguments of the next message. -/
theorem not_fillsOnly_unixFdMessage :
    ¬ Run.Steps ThreadArguments.step ThreadArguments.FillsOnly (some {})
      [.fillInArguments (some unixFdMessage), .fillInArguments (some unixFdMessage)] := by
  rintro ⟨-, h, -⟩
  have hargs := h { int32Arguments := [7, 7] } rfl
  revert hargs
  decide

end GLogiK
