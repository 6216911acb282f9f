import GLogiK.DBus.ArgTypes

/-!
# Events

An event runs its callback function for a message, and replies to a method call. The callback
functions have one of twenty signatures, for each of which `runCallback` has a specialization.
-/

namespace GLogiK

/-! ### Keys as arguments -/

def MKeysID.toEnumType : MKeysID → UInt8
  | .m0 => 0
  | .m1 => 1
  | .m2 => 2
  | .m3 => 3

def MKeysID.ofEnumType : UInt8 → Option MKeysID
  | 0 => some .m0
  | 1 => some .m1
  | 2 => some .m2
  | 3 => some .m3
  | _ => none

def getNextMKeysIDArgument : ArgReader MKeysID :=
  rebuilding "get MKeysID argument failed" do
    match MKeysID.ofEnumType (← getNextByteArgument) with
    | none    => throw (.other "wrong MKeysID value")
    | some id => return id

def getNextGKeysIDArgument : ArgReader GKeysID :=
  rebuilding "get GKeysID argument failed" do
    let value ← getNextByteArgument
    if h : value.toNat < 19 then
      let id : GKeysID := ⟨value.toNat, h⟩
      if id = GKeyID_INV then throw (.other "invalid GKeyID") else return id
    else throw (.other "wrong GKeysID value")

/-- The size is converted to a byte. -/
def appendKeysIDArray (keysID : List UInt8) : List Value :=
  [appendUInt8 (.ofNat keysID.length), .array (.basic .byte) (keysID.map appendUInt8)]

def appendMKeysIDArray (keysID : List MKeysID) : List Value :=
  appendKeysIDArray (keysID.map MKeysID.toEnumType)

def appendGKeysIDArray (keysID : List GKeysID) : List Value :=
  appendKeysIDArray (keysID.map fun keyID => .ofNat keyID)

/-! ### Signatures -/

/-- The signatures of the callback functions. -/
inductive SIG
  | as2v
  | b2v
  | q2v
  | s2D
  | s2as
  | s2b
  | s2s
  | s2v
  | sG2v
  | sGM2v
  | sm2v
  | ss2aG
  | ss2aP
  | ss2am
  | ss2b
  | ss2s
  | ss2v
  | ssyt2b
  | ssyyy2b
  | v2v
  deriving DecidableEq, Repr

namespace SIG

abbrev Args : SIG → Type
  | as2v                                          => List String
  | b2v                                           => Bool
  | q2v                                           => UInt16
  | s2D | s2as | s2b | s2s | s2v                  => String
  | sG2v                                          => String × GKeysID
  | sGM2v                                         => String × GKeysID × MacroType
  | sm2v                                          => String × MKeysID
  | ss2aG | ss2aP | ss2am | ss2b | ss2s | ss2v    => String × String
  | ssyt2b                                        => String × String × UInt8 × ℕ
  | ssyyy2b                                       => String × String × UInt8 × UInt8 × UInt8
  | v2v                                           => Unit

abbrev Ret : SIG → Type
  | s2D                                           => GKDepsMap
  | s2as                                          => List String
  | s2b | ss2b | ssyt2b | ssyyy2b                 => Bool
  | s2s | ss2s                                    => String
  | ss2aG                                         => List GKeysID
  | ss2aP                                         => LCDPPArray
  | ss2am                                         => List MKeysID
  | as2v | b2v | q2v | s2v | sG2v | sGM2v | sm2v | ss2v | v2v => Unit

/-- The arguments are read in the order of the signature. -/
def readArguments : (sig : SIG) → ArgReader sig.Args
  | as2v => getNextStringArray
  | b2v  => getNextBooleanArgument
  | q2v  => getNextUInt16Argument
  | s2D | s2as | s2b | s2s | s2v => getNextStringArgument
  | sG2v => do return (← getNextStringArgument, ← getNextGKeysIDArgument)
  | sGM2v => do
    return (← getNextStringArgument, ← getNextGKeysIDArgument, ← getNextMacroArgument)
  | sm2v => do return (← getNextStringArgument, ← getNextMKeysIDArgument)
  | ss2aG | ss2aP | ss2am | ss2b | ss2s | ss2v => do
    return (← getNextStringArgument, ← getNextStringArgument)
  | ssyt2b => do
    return (← getNextStringArgument, ← getNextStringArgument, ← getNextByteArgument,
      ← getNextUInt64Argument)
  | ssyyy2b => do
    return (← getNextStringArgument, ← getNextStringArgument, ← getNextByteArgument,
      ← getNextByteArgument, ← getNextByteArgument)
  | v2v => return ()

/-- The value of `ret` before the callback function runs. -/
def ret : (sig : SIG) → sig.Ret
  | s2D                           => (∅ : GKDepsMap)
  | s2as                          => ([] : List String)
  | s2b | ss2b | ssyt2b | ssyyy2b => false
  | s2s | ss2s                    => ""
  | ss2aG                         => ([] : List GKeysID)
  | ss2aP                         => ([] : LCDPPArray)
  | ss2am                         => ([] : List MKeysID)
  | as2v | b2v | q2v | s2v | sG2v | sGM2v | sm2v | ss2v | v2v => ()

/-- `sm2v` appends a `ret` that its callback function, which returns nothing, does not set. -/
def appendToReply : (sig : SIG) → sig.Ret → List Value
  | s2D, ret                           => appendGKDepsMap ret
  | s2as, ret                          => appendStringArray ret
  | s2b, ret | ss2b, ret | ssyt2b, ret | ssyyy2b, ret => [appendBoolean ret]
  | s2s, ret | ss2s, ret               => [appendString ret]
  | ss2aG, ret                         => appendGKeysIDArray ret
  | ss2aP, ret                         => appendLCDPPArray ret
  | ss2am, ret                         => appendMKeysIDArray ret
  | sm2v, _                            => [appendBoolean false]
  | as2v, _ | b2v, _ | q2v, _ | s2v, _ | sG2v, _ | sGM2v, _ | ss2v, _ | v2v, _ => []

/-- Two specializations never reply. -/
def sendsReply : SIG → Bool
  | as2v | v2v => false
  | _          => true

end SIG

/-! ### Messages and replies -/

inductive DBusMessageType
  | methodCall
  | signal
  | other
  deriving DecidableEq, Repr

structure DBusMessage where
  type : DBusMessageType
  path : String
  interface : Option String
  member : String
  arguments : Message

/-- What is sent for a method call. -/
inductive Reply
  | methodReturn (body : List Value)
  | error (errorMessage : String)

def GLogiKExcept.what : GLogiKExcept → String
  | .emptyContainer what => what
  | .other what          => what

/-- A value that a callback function appends to the async container. -/
inductive AsyncArgument
  | string (value : String)
  | uint64 (value : ℕ)
  deriving DecidableEq, Repr

def AsyncArgument.append : AsyncArgument → Value
  | .string value => appendString value
  | .uint64 value => appendUInt64 value

/-- Values of other types are logged, and not appended. -/
def appendAsyncArgsToReply : List Value → Except GLogiKExcept (List Value)
  | []              => .ok []
  | value :: values => do
    let decoded := (decodeNextArgument (value :: values)).getD {}
    let appended ← match value with
      | .basic (.string _) =>
        (getNextStringArgument decoded).1.map fun value => [appendString value]
      | .basic (.uint64 _) =>
        (getNextUInt64Argument decoded).1.map fun value => [appendUInt64 value]
      | _ => .ok []
    return appended ++ (← appendAsyncArgsToReply values)

/-! ### Events -/

inductive GKDBusEventType
  | method
  | signal
  deriving DecidableEq, Repr

/-- For introspection. -/
structure DBusMethodArgument where
  type : String
  name : String
  direction : String
  comment : String
  deriving DecidableEq, Repr

/-- A callback function returns a value or throws, and fills the async container. The one of the
`Introspect` methods is `introspect` of the object that has the events. -/
inductive Callback
  | function (sig : SIG)
      (callback : sig.Args → Except GLogiKExcept sig.Ret × List AsyncArgument)
  | introspect

abbrev Callback.sig : Callback → SIG
  | .function sig _ => sig
  | .introspect     => .s2s

def Callback.call (introspect : String → String) :
    (callback : Callback) → callback.sig.Args →
      Except GLogiKExcept callback.sig.Ret × List AsyncArgument
  | .function _ callback => callback
  | .introspect          => fun path => (.ok (introspect path), [])

structure GKDBusEvent where
  eventName : String
  arguments : List DBusMethodArgument
  eventType : GKDBusEventType
  introspectable : Bool
  callback : Callback

abbrev GKDBusEvent.sig (event : GKDBusEvent) : SIG := event.callback.sig

/-- The arguments of the callback function. An introspection gets the object path of its message. -/
def SIG.getArguments (eventName : String) (message : DBusMessage) (before : Arguments) :
    (sig : SIG) → Option (Except GLogiKExcept sig.Args)
  | .v2v => some (.ok ())
  | .s2s =>
    if eventName = "Introspect" then some (.ok message.path)
    else (before.fillInArguments (some message.arguments.body)).map fun decoded =>
      (SIG.readArguments .s2s decoded).1
  | sig  => (before.fillInArguments (some message.arguments.body)).map fun decoded =>
      (sig.readArguments decoded).1

/-- What libdbus fails at: `building` is the exception while the method return is built, and each
of the other ones is a message that cannot be allocated or sent, which is only logged. -/
structure ReplyFailures where
  building : Option GLogiKExcept := none
  methodReturn : Bool := false
  callbackError : Bool := false
  replyError : Bool := false
  deriving DecidableEq

/-- The error reply is sent when it was allocated. -/
def buildAndSendErrorReply (failed : Bool) (errorMessage : String) : List Reply :=
  if failed then [] else [.error errorMessage]

def sendReply (failed : Bool) (body : List Value) : List Reply :=
  if failed then [] else [.methodReturn body]

namespace GKDBusEvent

variable (event : GKDBusEvent)

def sendCallbackError (e : GLogiKExcept) (failed : Bool) : List Reply :=
  if event.eventType = .signal then [] else buildAndSendErrorReply failed e.what

def sendReplyError (e : GLogiKExcept) (failed : Bool) : List Reply :=
  buildAndSendErrorReply failed e.what

def buildReply (ret : event.sig.Ret) (async : List AsyncArgument)
    (failure : Option GLogiKExcept) : Except GLogiKExcept (List Value) :=
  match failure with
  | some e => .error e
  | none   => do
    return event.sig.appendToReply ret ++
      (← appendAsyncArgsToReply (async.map AsyncArgument.append))

/-- The replies for what the callback function returned or threw. After an error was sent, the
method returns all the same. -/
def reply (result : Except GLogiKExcept event.sig.Ret) (async : List AsyncArgument)
    (failures : ReplyFailures) : List Reply :=
  let errors : List Reply := match result with
    | .error e => event.sendCallbackError e failures.callbackError
    | .ok _    => []
  if event.eventType = .signal then errors
  else
    let ret : event.sig.Ret := match result with
      | .error _ => event.sig.ret
      | .ok ret  => ret
    match event.buildReply ret async failures.building with
    | .error e => errors ++ sendReplyError e failures.replyError
    | .ok body => errors ++ sendReply failures.methodReturn body

/-- `none` is a message whose decoding breaks a rule of libdbus. -/
def runCallback (introspect : String → String) (message : DBusMessage) (before : Arguments)
    (failures : ReplyFailures) : Option (List Reply) :=
  (event.sig.getArguments event.eventName message before).map fun arguments =>
    let called : Except GLogiKExcept event.sig.Ret × List AsyncArgument := match arguments with
      | .error e => (.error e, [])
      | .ok args => event.callback.call introspect args
    if event.sig.sendsReply then event.reply called.1 called.2 failures else []

end GKDBusEvent

end GLogiK
