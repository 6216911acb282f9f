import GLogiK.DBus.DeviceSignals
import GLogiK.DBus.Replies
import GLogiK.DBus.StringArrays

/-!
# Remote method calls

The caller appends the arguments of a method to a message. The message is dispatched to the event
of the method, whose callback function gets the arguments; what it returns and what it has put into
the async container is appended to the reply, from which the caller reads it.
-/

namespace GLogiK

open Arguments

/-! ### What the caller does -/

def getNextGKeysIDArrayArgument : ArgReader (List GKeysID) :=
  rebuilding "rebuilding GKeysIDArray failed" do
    let size ← getNextByteArgument
    getNextTimes getNextGKeysIDArgument size.toNat

def getNextMKeysIDArrayArgument : ArgReader (List MKeysID) :=
  rebuilding "rebuilding MKeysIDArray failed" do
    let size ← getNextByteArgument
    getNextTimes getNextMKeysIDArgument size.toNat

namespace SIG

/-- The arguments are appended in the order of the signature. -/
def appendArguments : (sig : SIG) → sig.Args → List Value
  | as2v, texts => appendStringArray texts
  | b2v, value => [appendBoolean value]
  | q2v, value => [appendUInt16 value]
  | s2D, text | s2as, text | s2b, text | s2s, text | s2v, text => [appendString text]
  | sG2v, (text, keyID) => [appendString text, appendUInt8 (.ofNat keyID)]
  | sGM2v, (text, keyID, events) =>
    [appendString text, appendUInt8 (.ofNat keyID)] ++ appendMacro events
  | sm2v, (text, bankID) => [appendString text, appendUInt8 bankID.toEnumType]
  | ss2aG, (text, text') | ss2aP, (text, text') | ss2am, (text, text') | ss2b, (text, text')
  | ss2s, (text, text') | ss2v, (text, text') => [appendString text, appendString text']
  | ssyt2b, (text, text', byte, value) =>
    [appendString text, appendString text', appendUInt8 byte, appendUInt64 value]
  | ssyyy2b, (text, text', byte, byte', byte'') =>
    [appendString text, appendString text', appendUInt8 byte, appendUInt8 byte', appendUInt8 byte'']
  | v2v, () => []

/-- The value that the callback function has returned is read first. -/
def readReturn : (sig : SIG) → ArgReader sig.Ret
  | s2D => getNextGKDepsMapArgument
  | s2as => getNextStringArray
  | s2b | ss2b | ssyt2b | ssyyy2b => getNextBooleanArgument
  | s2s | ss2s => getNextStringArgument
  | ss2aG => getNextGKeysIDArrayArgument
  | ss2aP => getNextLCDPPArrayArgument
  | ss2am => getNextMKeysIDArrayArgument
  | as2v | b2v | q2v | s2v | sG2v | sGM2v | sm2v | ss2v | v2v => pure ()

end SIG

def AsyncArgument.argument : AsyncArgument → Argument
  | .string value => .string value
  | .uint64 value => .uint64 value

/-- The caller knows the types of the async arguments. -/
def getNextAsyncArguments (async : List AsyncArgument) : ArgReader (List Argument) :=
  getNextArguments ((async.map AsyncArgument.argument).map Argument.type)

/-- What the caller reads from a reply. -/
def readReply (sig : SIG) (async : List AsyncArgument) : ArgReader (sig.Ret × List Argument) := do
  let ret ← sig.readReturn
  let args ← getNextAsyncArguments async
  return (ret, args)

/-! ### What can be read -/

namespace SIG

/-- The methods have a reply, and take no array of strings. -/
def ArgumentsReadable : (sig : SIG) → sig.Args → Prop
  | sG2v, (_, keyID)          => keyID ≠ GKeyID_INV
  | sGM2v, (_, keyID, events) => keyID ≠ GKeyID_INV ∧ events ≠ []
  | as2v, _                   => False
  | _, _                      => True

/-- The size of an array of keys is a byte, and libdbus refuses an empty string in a container.
After an array of strings the sizes of its strings are still on their stack, and the reply of `sm2v`
has a value that its callback function does not return. -/
def ReturnReadable : (sig : SIG) → sig.Ret → List AsyncArgument → Prop
  | s2D, depsMap, _    => .invalid ∉ depsMap ∧ ∀ entry ∈ depsMap.toList, ∀ dep ∈ entry.2,
      dep.dependency ≠ "" ∧ dep.compileTimeVersion ≠ "" ∧ dep.runTimeVersion ≠ ""
  | s2as, texts, async => (∀ text ∈ texts, text ≠ "") ∧ async = []
  | ss2aG, keysID, _   => keysID.length < 256 ∧ ∀ keyID ∈ keysID, keyID ≠ GKeyID_INV
  | ss2aP, plugins, _  => ∀ plugin ∈ plugins, plugin.name ≠ "" ∧ plugin.desc ≠ ""
  | ss2am, keysID, _   => keysID.length < 256
  | sm2v, _, _         => False
  | _, _, _            => True

end SIG

/-! ### Messages of any values -/

/-- The value is decoded as it is, wherever it stands in a message. -/
def Value.Plain (value : Value) : Prop :=
  (value.Traversable ∧ value.isStruct = false) ∧ value.NoUnixFd

lemma plain_append (arg : Argument) : ∀ value ∈ arg.append, value.Plain :=
  fun value hmem => ⟨traversable_append arg value hmem, noUnixFd_append arg value hmem⟩

lemma plain_appendString (text : String) : (appendString text).Plain :=
  ⟨traversable_appendString text, noUnixFd_appendString text⟩

lemma plain_appendUInt8 (value : UInt8) : (appendUInt8 value).Plain := ⟨⟨trivial, rfl⟩, rfl⟩

lemma plain_appendUInt16 (value : UInt16) : (appendUInt16 value).Plain := ⟨⟨trivial, rfl⟩, rfl⟩

lemma plain_appendUInt64 (value : ℕ) : (appendUInt64 value).Plain := ⟨⟨trivial, rfl⟩, rfl⟩

lemma plain_appendBoolean (value : Bool) : (appendBoolean value).Plain := ⟨⟨trivial, rfl⟩, rfl⟩

lemma plain_appendKeysIDArray (keysID : List UInt8) :
    ∀ value ∈ appendKeysIDArray keysID, value.Plain := by
  refine List.forall_mem_cons.mpr ⟨plain_appendUInt8 _, List.forall_mem_singleton.mpr ⟨⟨?_, rfl⟩, ?_⟩⟩
  · apply traversableAll_of_not_isStruct
    intro value hmem
    obtain ⟨keyID, -, rfl⟩ := List.mem_map.mp hmem
    exact (plain_appendUInt8 keyID).1
  · exact noUnixFd_array fun keyID => (plain_appendUInt8 keyID).2

/-- The stacks give the leaves of the values, and then what an earlier message left behind. -/
lemma fillInArguments_of_plain (before : Arguments) {values : List Value}
    (h : ∀ value ∈ values, value.Plain) :
    ∃ stale, before.fillInArguments (some values) =
      some (ofLeaves (leavesOf values) ++ { int32Arguments := stale }) := by
  have hint32 : (leavesOf values).filterMap Basic.toInt32? = [] :=
    toInt32?_leavesOf fun value hmem => (h value hmem).2
  have htraversable : TraversableAll values :=
    traversableAll_of_not_isStruct fun value hmem => (h value hmem).1
  rw [fillInArguments_of_traversable before htraversable]
  split_ifs with hbody
  · rw [hbody]
    exact ⟨_, rfl⟩
  · refine ⟨before.int32Arguments.reverse, congrArg some ?_⟩
    rw [hint32]
    simp [append_def, ofLeaves, hint32]

lemma plain_appendArguments (sig : SIG) (args : sig.Args) :
    ∀ value ∈ sig.appendArguments args, value.Plain := by
  cases sig with
  | as2v => exact plain_append (.stringArray args)
  | sGM2v =>
    exact List.forall_mem_append.mpr
      ⟨by simp [plain_appendString, plain_appendUInt8], plain_append (.events args.2.2)⟩
  | v2v => exact List.forall_mem_nil _
  | _ =>
    simp [SIG.appendArguments, plain_appendString, plain_appendUInt8, plain_appendUInt16,
      plain_appendUInt64, plain_appendBoolean]

lemma plain_appendToReply (sig : SIG) (ret : sig.Ret) :
    ∀ value ∈ sig.appendToReply ret, value.Plain := by
  cases sig with
  | s2D => exact plain_append (.gkDepsMap ret)
  | s2as => exact plain_append (.stringArray ret)
  | ss2aP => exact plain_append (.lcdPPArray ret)
  | ss2aG | ss2am => exact plain_appendKeysIDArray _
  | _ => simp [SIG.appendToReply, plain_appendString, plain_appendBoolean]

/-! ### The arguments of the callback function -/

/-- The reader pops the leaves and returns the value when no bytes lie under them. -/
def ReadsLast {α : Type} (reader : ArgReader α) (leaves : List Basic) (value : α) : Prop :=
  ∀ args : Arguments, args.byteArguments = [] → reader (ofLeaves leaves ++ args) = (.ok value, args)

section

variable {α β : Type} {reader : ArgReader α} {leaves rest : List Basic} {first : α}

lemma Reads.last (h : Reads reader leaves first) : ReadsLast reader leaves first :=
  fun args _ => h args

lemma Reads.bind_last {next : α → ArgReader β} {value : β} (h : Reads reader leaves first)
    (hnext : ReadsLast (next first) rest value) :
    ReadsLast (reader >>= next) (leaves ++ rest) value := by
  intro args hbytes
  rw [ofLeaves_append, ArgReader.bind_eq_of_ok (h _)]
  exact hnext args hbytes

lemma ReadsLast.pure {f : α → β} (h : ReadsLast reader leaves first) :
    ReadsLast (do return f (← reader)) leaves (f first) := by
  intro args hbytes
  rw [ArgReader.bind_eq_of_ok (h args hbytes)]
  rfl

end

lemma readsLast_getNextMacroArgument {events : MacroType} (h : events ≠ []) :
    ReadsLast getNextMacroArgument (leavesOf (appendMacro events)) events :=
  fun _ hbytes => reads_getNextMacroArgument hbytes h

/-- The callback function gets the arguments that the caller appended. -/
lemma readsLast_readArguments {sig : SIG} {args : sig.Args} (h : sig.ArgumentsReadable args) :
    ReadsLast sig.readArguments (leavesOf (sig.appendArguments args)) args := by
  cases sig with
  | as2v => exact h.elim
  | b2v => exact (reads_getNextBooleanArgument args).last
  | q2v => exact (reads_getNextUInt16Argument args).last
  | s2D | s2as | s2b | s2s | s2v =>
    rw [SIG.appendArguments, leavesOf_singleton]
    exact (reads_getNextStringArgument args).last
  | sG2v =>
    obtain ⟨text, keyID⟩ := args
    exact (reads_getNextStringArgument text).bind_last
      (reads_getNextGKeysIDArgument h).last.pure
  | sGM2v =>
    obtain ⟨text, keyID, events⟩ := args
    rw [SIG.appendArguments, List.cons_append, List.cons_append, List.nil_append,
      leaves_appendString_pair]
    exact (reads_getNextStringArgument text).bind_last
      ((reads_getNextGKeysIDArgument h.1).bind_last (readsLast_getNextMacroArgument h.2).pure)
  | sm2v =>
    obtain ⟨text, bankID⟩ := args
    exact (reads_getNextStringArgument text).bind_last
      (reads_getNextMKeysIDArgument bankID).last.pure
  | ss2aG | ss2aP | ss2am | ss2b | ss2s | ss2v =>
    obtain ⟨text, text'⟩ := args
    rw [SIG.appendArguments, leavesOf, leavesOf_singleton]
    exact (reads_getNextStringArgument text).bind_last
      (reads_getNextStringArgument text').last.pure
  | ssyt2b =>
    obtain ⟨text, text', byte, value⟩ := args
    exact (reads_getNextStringArgument text).bind_last
      ((reads_getNextStringArgument text').bind_last
        ((reads_getNextByteArgument byte).bind_last (reads_getNextUInt64Argument value).last.pure))
  | ssyyy2b =>
    obtain ⟨text, text', byte, byte', byte''⟩ := args
    exact (reads_getNextStringArgument text).bind_last
      ((reads_getNextStringArgument text').bind_last
        ((reads_getNextByteArgument byte).bind_last
          ((reads_getNextByteArgument byte').bind_last
            (reads_getNextByteArgument byte'').last.pure)))
  | v2v => exact (reads_pure args).last

/-! ### The reply -/

/-- An array of keys, whose size fits in a byte. -/
lemma reads_keysIDArray {α : Type} {failed : String} {reader : ArgReader α} {keysID : List α}
    {toByte : α → UInt8} (hlength : keysID.length < 256)
    (h : ∀ keyID ∈ keysID, Reads reader (appendUInt8 (toByte keyID)).leaves keyID) :
    Reads (rebuilding failed do
      let size ← getNextByteArgument
      getNextTimes reader size.toNat)
      (leavesOf (appendKeysIDArray (keysID.map toByte))) keysID := by
  have hkeys := reads_array h
  have hsize : (UInt8.ofNat keysID.length).toNat = keysID.length := by
    rw [UInt8.toNat_ofNat']
    exact Nat.mod_eq_of_lt hlength
  apply Reads.rebuilding
  rw [appendKeysIDArray, leavesOf, leavesOf_singleton, List.length_map, List.map_map]
  refine (reads_getNextByteArgument (.ofNat keysID.length)).bind ?_
  rwa [hsize]

lemma appendGKeysIDArray_eq (keysID : List GKeysID) :
    appendGKeysIDArray keysID =
      appendKeysIDArray (keysID.map fun keyID : GKeysID => UInt8.ofNat keyID) := by
  rw [List.map_eq_flatMap]
  simp only [appendGKeysIDArray, List.bind_eq_flatMap, List.pure_def, List.map_flatMap,
    List.map_cons, List.map_nil]

lemma reads_getNextGKeysIDArrayArgument {keysID : List GKeysID} (hlength : keysID.length < 256)
    (h : ∀ keyID ∈ keysID, keyID ≠ GKeyID_INV) :
    Reads getNextGKeysIDArrayArgument (leavesOf (appendGKeysIDArray keysID)) keysID := by
  rw [appendGKeysIDArray_eq]
  apply reads_keysIDArray hlength
  intro keyID hmem
  exact reads_getNextGKeysIDArgument (h keyID hmem)

lemma reads_getNextMKeysIDArrayArgument {keysID : List MKeysID} (hlength : keysID.length < 256) :
    Reads getNextMKeysIDArrayArgument (leavesOf (appendMKeysIDArray keysID)) keysID := by
  apply reads_keysIDArray hlength
  intro keyID _
  exact reads_getNextMKeysIDArgument keyID

/-- The caller reads the value that the callback function has returned. -/
lemma reads_readReturn {sig : SIG} {ret : sig.Ret} {async : List AsyncArgument} (hsig : sig ≠ .s2as)
    (h : sig.ReturnReadable ret async) :
    Reads sig.readReturn (leavesOf (sig.appendToReply ret)) ret := by
  cases sig with
  | s2D => exact reads_getNextGKDepsMapArgument h.1
  | s2as => exact absurd rfl hsig
  | s2b | ss2b | ssyt2b | ssyyy2b => exact reads_getNextBooleanArgument ret
  | s2s | ss2s =>
    rw [SIG.appendToReply, leavesOf_singleton]
    exact reads_getNextStringArgument ret
  | ss2aP => exact reads_getNextLCDPPArrayArgument ret
  | ss2aG => exact reads_getNextGKeysIDArrayArgument h.1 h.2
  | ss2am => exact reads_getNextMKeysIDArrayArgument h
  | sm2v => exact h.elim
  | as2v | b2v | q2v | s2v | sG2v | sGM2v | ss2v | v2v => exact reads_pure ()

lemma leavesOf_async (async : List AsyncArgument) :
    leavesOf (async.map AsyncArgument.append) =
      leavesOf ((async.map AsyncArgument.argument).flatMap Argument.append) := by
  induction async with
  | nil => rfl
  | cons arg async ih =>
    rw [List.map_cons, List.map_cons, List.flatMap_cons, leavesOf_append, leavesOf, ih]
    cases arg <;> rw [← leavesOf_singleton] <;> rfl

lemma plain_async (async : List AsyncArgument) :
    ∀ value ∈ async.map AsyncArgument.append, value.Plain := by
  intro value hmem
  obtain ⟨arg, -, rfl⟩ := List.mem_map.mp hmem
  cases arg with
  | string text => exact plain_appendString text
  | uint64 number => exact plain_appendUInt64 number

lemma decodable_async (async : List AsyncArgument) :
    Decodable (async.map AsyncArgument.argument) := by
  induction async with
  | nil => trivial
  | cons arg async ih =>
    cases arg with
    | string text => exact ⟨trivial, ih, nofun⟩
    | uint64 number => exact ⟨trivial, ih, nofun⟩

/-- The caller reads the value and the async arguments from the reply. -/
lemma readReply_eq {sig : SIG} {ret : sig.Ret} {async : List AsyncArgument}
    (h : sig.ReturnReadable ret async) (before : Arguments) :
    ∃ decoded,
      before.fillInArguments
          (some (sig.appendToReply ret ++ async.map AsyncArgument.append)) = some decoded ∧
        (readReply sig async decoded).1 = .ok (ret, async.map AsyncArgument.argument) := by
  by_cases hsig : sig = .s2as
  · subst hsig
    obtain ⟨htexts, rfl⟩ := h
    obtain ⟨decoded, rest, hfill, hread⟩ := getNextStringArray_of_message before htexts
    refine ⟨decoded, ?_, ?_⟩
    · rwa [List.map_nil, List.append_nil]
    · have hreply : readReply .s2as [] decoded = (.ok (ret, []), rest) :=
        ArgReader.bind_eq_of_ok hread
      rw [hreply]
      rfl
  · have hplain : ∀ value ∈ sig.appendToReply ret ++ async.map AsyncArgument.append, value.Plain :=
      List.forall_mem_append.mpr ⟨plain_appendToReply sig ret, plain_async async⟩
    obtain ⟨stale, hfill⟩ := fillInArguments_of_plain before hplain
    refine ⟨_, hfill, ?_⟩
    have hasync := @getNextArguments_eq { int32Arguments := stale } rfl _ (decodable_async async)
    rw [← leavesOf_async] at hasync
    rw [leavesOf_append, ofLeaves_append, readReply,
      ArgReader.bind_eq_of_ok (reads_readReturn hsig h _), getNextAsyncArguments]
    rw [ArgReader.bind_eq_of_ok hasync]
    rfl

lemma wellFormedAll_append {values values' : List Value} (h : WellFormedAll values)
    (h' : WellFormedAll values') : WellFormedAll (values ++ values') := by
  induction values with
  | nil => exact h'
  | cons value values ih => exact ⟨h.1, ih h.2⟩

lemma wellFormed_appendKeysIDArray (keysID : List UInt8) :
    WellFormedAll (appendKeysIDArray keysID) := by
  have helements : ElementsOf (.basic .byte) (keysID.map appendUInt8) :=
    elementsOf_map.mpr fun _ _ => ⟨rfl, trivial⟩
  exact ⟨trivial, helements, trivial⟩

/-- libdbus takes the value of the callback function. -/
lemma wellFormed_appendToReply {sig : SIG} {ret : sig.Ret} {async : List AsyncArgument}
    (h : sig.ReturnReadable ret async) : WellFormedAll (sig.appendToReply ret) := by
  cases sig with
  | s2D =>
    refine wellFormedAll_size_array.mpr (elementsOf_appendGKDepsMapEntry.mpr fun entry hmem => ?_)
    exact elementsOf_appendGKDependency.mpr (h.2 entry hmem)
  | s2as => exact wellFormedAll_size_array.mpr (elementsOf_strings.mpr h.1)
  | ss2aP => exact wellFormedAll_size_array.mpr (elementsOf_appendLCDPP.mpr h)
  | ss2aG | ss2am => exact wellFormed_appendKeysIDArray _
  | s2s | ss2s => exact ⟨wellFormed_appendString ret, trivial⟩
  | s2b | ss2b | ssyt2b | ssyyy2b => exact ⟨trivial, trivial⟩
  | sm2v => exact h.elim
  | as2v | b2v | q2v | s2v | sG2v | sGM2v | ss2v | v2v => exact trivial

lemma wellFormed_async (async : List AsyncArgument) :
    WellFormedAll (async.map AsyncArgument.append) := by
  induction async with
  | nil => trivial
  | cons arg async ih =>
    refine ⟨?_, ih⟩
    cases arg with
    | string text => exact wellFormed_appendString text
    | uint64 number => trivial

/-! ### The call -/

lemma getArguments_of_ne {sig : SIG} {eventName : String} (hname : eventName ≠ "Introspect")
    (hsig : sig.sendsReply) (message : DBusMessage) (before : Arguments) :
    sig.getArguments eventName message before =
      (before.fillInArguments (some message.arguments.body)).map fun decoded =>
        (sig.readArguments decoded).1 := by
  cases sig with
  | v2v => cases hsig
  | s2s => rw [SIG.getArguments, if_neg hname]
  | _ => rfl

/-- The arguments that a caller appends are the ones that the callback function gets, and what it
returns and appends to the async container is what the caller reads from the one reply, whatever
earlier messages have left behind on either side. -/
theorem remoteMethodCall {events : GKDBusEvents} {bus : BusConnection} {message : DBusMessage}
    {event : GKDBusEvent} (hevent : events.findEvent bus message = some event)
    (hmethod : event.eventType = .method) (hreply : event.sig.sendsReply)
    (hname : event.eventName ≠ "Introspect") {args : event.sig.Args}
    (hbody : message.arguments.body = event.sig.appendArguments args)
    (hargs : event.sig.ArgumentsReadable args) {ret : event.sig.Ret} {async : List AsyncArgument}
    (hcall : event.callback.call (events.introspect bus) args = (.ok ret, async))
    (hret : event.sig.ReturnReadable ret async) (before : Arguments) :
    ∃ reply : Message,
      events.checkDBusMessage bus message before {} = some [.methodReturn reply.body] ∧
        ∀ before' : Arguments, ∃ decoded, before'.fillInArguments (some reply.body) = some decoded ∧
          (readReply event.sig async decoded).1 =
            .ok (ret, async.map AsyncArgument.argument) := by
  have hwellFormed := wellFormedAll_append (wellFormed_appendToReply hret) (wellFormed_async async)
  refine ⟨⟨_, hwellFormed⟩, ?_, readReply_eq hret⟩
  obtain ⟨stale, hfill⟩ := fillInArguments_of_plain before (plain_appendArguments event.sig args)
  have hget : event.sig.getArguments event.eventName message before = some (.ok args) := by
    rw [getArguments_of_ne hname hreply, hbody, hfill, Option.map_some,
      readsLast_readArguments hargs _ rfl]
  have hbuild := GKDBusEvent.buildReply_eq ret async none
  have hsignal : event.eventType ≠ .signal := by
    rw [hmethod]
    nofun
  rw [GKDBusEvents.checkDBusMessage, hevent]
  simp only [GKDBusEvent.runCallback, hget, Option.map_some, hcall, hreply, if_true,
    GKDBusEvent.reply, if_neg hsignal, hbuild, Option.elim_none, sendReply, Bool.false_eq_true,
    if_false, List.nil_append]

/-- A service registers, and reads the client ID and the version of the daemon. -/
theorem remoteMethodCall_registerClient :
    let path := "/com/glogik/Daemon/ClientsManager"
    let interface := "com.glogik.Daemon.Client1"
    let async : List AsyncArgument := [.string "k3x9qa-7fz2-mm0p-t5r8wd", .string "3.0.0"]
    let events := GKDBusEvents.exposeMethod { rootNodePath := "/com/glogik/Daemon" } .gkdbusSystem
      path interface "RegisterClient" [] (.function .s2b fun _ => (.ok true, async))
    let message : DBusMessage :=
      ⟨.methodCall, path, some interface, "RegisterClient",
        ⟨[appendString "/session/1"], wellFormed_appendString _, trivial⟩⟩
    ∃ reply : Message,
      events.checkDBusMessage .gkdbusSystem message {} {} = some [.methodReturn reply.body] ∧
        ∀ before' : Arguments, ∃ decoded, before'.fillInArguments (some reply.body) = some decoded ∧
          (readReply .s2b async decoded).1 = .ok (true, async.map AsyncArgument.argument) := by
  intro path interface async events message
  let event : GKDBusEvent :=
    ⟨"RegisterClient", [], .method, true, .function .s2b fun _ => (.ok true, async)⟩
  have hevent : events.findEvent .gkdbusSystem message = some event := by
    dsimp +zetaDelta only []
    rfl
  have hbody : message.arguments.body = event.sig.appendArguments "/session/1" := rfl
  exact remoteMethodCall hevent rfl rfl (by decide) hbody trivial rfl trivial {}

end GLogiK
