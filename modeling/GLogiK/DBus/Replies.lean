import GLogiK.DBus.GKDBusEvents
import GLogiK.DBus.RoundTrip

/-!
# Replies to method calls

A message is dispatched to the first event that it is for. Every method call should get one reply,
and no signal should get any.
-/

namespace GLogiK

open Arguments

/-! ### Async arguments -/

lemma appendString_empty : appendString "" = .basic (.uint64 0) := by
  rfl

lemma appendString_of_ne {text : String} (h : text ≠ "") :
    appendString text = .basic (.string text) := by
  simp [appendString, String.isEmpty_iff, h]

/-- Every async argument is appended to the reply as it was to the async container. -/
lemma appendAsyncArgsToReply_eq (async : List AsyncArgument) :
    appendAsyncArgsToReply (async.map AsyncArgument.append) =
      .ok (async.map AsyncArgument.append) := by
  induction async with
  | nil => rfl
  | cons arg async ih =>
    rw [List.map_cons]
    cases arg with
    | uint64 number =>
      simp only [AsyncArgument.append, appendUInt64, appendAsyncArgsToReply, ih]
      rfl
    | string text =>
      by_cases hempty : text = ""
      · subst hempty
        simp only [AsyncArgument.append, appendString_empty, appendAsyncArgsToReply, ih]
        rfl
      · simp only [AsyncArgument.append, appendString_of_ne hempty, appendAsyncArgsToReply, ih]
        have hdecode : (decodeNextArgument
            (.basic (.string text) :: async.map AsyncArgument.append)).getD {} =
              ofLeaves [.string text] ++ {} := rfl
        have hread : getNextStringArgument (ofLeaves [.string text] ++ {}) = (.ok text, {}) := by
          have hreads := reads_getNextStringArgument text {}
          rwa [appendString_of_ne hempty] at hreads
        rw [hdecode, hread, ← appendString_of_ne hempty]
        rfl

namespace ReplyFailures

/-- The last reply that is tried is sent: the method return, or the error in its place. -/
def lastIsSent (failures : ReplyFailures) : Bool :=
  !(if failures.building.isSome then failures.replyError else failures.methodReturn)

end ReplyFailures

namespace GKDBusEvent

variable {event : GKDBusEvent}

/-! ### Replies of an event -/

lemma reply_of_signal (h : event.eventType = .signal)
    (result : Except GLogiKExcept event.sig.Ret) (async : List AsyncArgument)
    (failures : ReplyFailures) : event.reply result async failures = [] := by
  simp only [reply, sendCallbackError, h, if_true]
  cases result <;> rfl

lemma buildReply_eq (ret : event.sig.Ret) (async : List AsyncArgument)
    (failure : Option GLogiKExcept) :
    event.buildReply ret async failure =
      failure.elim (.ok (event.sig.appendToReply ret ++ async.map AsyncArgument.append))
        .error := by
  cases failure with
  | some e => rfl
  | none =>
    rw [buildReply, appendAsyncArgsToReply_eq]
    rfl

lemma length_buildAndSendErrorReply (failed : Bool) (errorMessage : String) :
    (buildAndSendErrorReply failed errorMessage).length = (!failed).toNat := by
  cases failed <;> rfl

lemma length_sendReply (failed : Bool) (body : List Value) :
    (sendReply failed body).length = (!failed).toNat := by
  cases failed <;> rfl

/-- One reply for the callback function if it threw, and one when the reply is built, as far as
they are sent. -/
lemma length_reply_of_method (h : event.eventType = .method)
    (result : Except GLogiKExcept event.sig.Ret) (async : List AsyncArgument)
    (failures : ReplyFailures) :
    (event.reply result async failures).length =
      (!result.isOk && !failures.callbackError).toNat + failures.lastIsSent.toNat := by
  have hne : event.eventType ≠ .signal := by
    rw [h]
    apply GKDBusEventType.noConfusion
  have hbuild := fun ret => event.buildReply_eq ret async failures.building
  have herror := length_buildAndSendErrorReply failures.callbackError
  have hreply := length_buildAndSendErrorReply failures.replyError
  have hreturn := length_sendReply failures.methodReturn
  simp only [reply, sendCallbackError, if_neg hne, hbuild, ReplyFailures.lastIsSent]
  rcases result with e | ret <;> cases failures.building <;>
    simp [sendReplyError, herror, hreply, hreturn, Except.isOk, Except.toBool]

/-- After an exception of the callback function just one of two replies must be sent. -/
lemma exists_reply_iff_of_method (h : event.eventType = .method)
    (result : Except GLogiKExcept event.sig.Ret) (async : List AsyncArgument)
    (failures : ReplyFailures) :
    (∃ reply, event.reply result async failures = [reply]) ↔
      if result.isOk then failures.lastIsSent
      else failures.callbackError = failures.lastIsSent := by
  rw [← List.length_eq_one_iff, length_reply_of_method h]
  cases result.isOk <;> cases failures.callbackError <;> cases failures.lastIsSent <;> decide

section

variable (event) (introspect : String → String) (message : DBusMessage) (before : Arguments)

/-- The arguments are read from the message, and the callback function returns. -/
def Returns : Prop :=
  ∃ args, event.sig.getArguments event.eventName message before = some (.ok args) ∧
    (event.callback.call introspect args).1.isOk

/-- The arguments can't be read from the message, or the callback function throws. -/
def Throws : Prop :=
  (∃ e, event.sig.getArguments event.eventName message before = some (.error e)) ∨
    ∃ args, event.sig.getArguments event.eventName message before = some (.ok args) ∧
      ¬ (event.callback.call introspect args).1.isOk

end

variable {introspect : String → String} {message : DBusMessage} {before : Arguments}
  {failures : ReplyFailures} {replies : List Reply}

lemma runCallback_of_signal (h : event.eventType = .signal)
    (hrun : event.runCallback introspect message before failures = some replies) :
    replies = [] := by
  obtain ⟨arguments, -, rfl⟩ := Option.map_eq_some_iff.mp hrun
  simp only [reply_of_signal h, ite_self]

/-- There is one reply when nothing is thrown before the reply is built and the reply is sent, or
when something is thrown and just one of the two replies is sent. -/
lemma runCallback_of_method (h : event.eventType = .method) :
    (∃ reply, event.runCallback introspect message before failures = some [reply]) ↔
      event.sig.sendsReply ∧
        (event.Returns introspect message before ∧ failures.lastIsSent ∨
          event.Throws introspect message before ∧
            failures.callbackError = failures.lastIsSent) := by
  rw [runCallback, Returns, Throws]
  cases event.sig.getArguments event.eventName message before with
  | none =>
    simp
  | some arguments =>
    simp only [Option.map_some, Option.some.injEq]
    cases event.sig.sendsReply with
    | false =>
      simp
    | true =>
      rw [if_pos rfl, exists_reply_iff_of_method h, and_iff_right rfl]
      cases arguments with
      | error e =>
        simp [Except.isOk, Except.toBool]
      | ok args =>
        cases hok : (event.callback.call introspect args).1.isOk with
        | true => simp [hok]
        | false => simp [hok]

end GKDBusEvent

namespace GKDBusEvents

variable (events : GKDBusEvents)

/-! ### Dispatch -/

/-- `dbus_message_is_method_call` and `dbus_message_is_signal`: a message may have no interface. -/
def isFor (message : DBusMessage) (eventInterface : String) (event : GKDBusEvent) : Bool :=
  (match event.eventType with
    | .method => message.type == .methodCall
    | .signal => message.type == .signal) &&
  message.member == event.eventName && message.interface.all (· == eventInterface)

/-- The events that are compared with a message. A message to the root node path is compared with
the events of all object paths. -/
def candidates (currentBus : BusConnection) (message : DBusMessage) :
    List (String × GKDBusEvent) :=
  (events.dBusEvents[currentBus]?.elim [] fun opMap => opMap.toList).flatMap fun entry =>
    if message.path ≠ events.rootNodePath ∧ message.path ≠ entry.1 then []
    else entry.2.toList.flatMap fun entry => entry.2.map fun event => (entry.1, event)

/-- The event that a message is dispatched to. -/
def findEvent (currentBus : BusConnection) (message : DBusMessage) : Option GKDBusEvent :=
  ((events.candidates currentBus message).find? fun entry => isFor message entry.1 entry.2).map
    Prod.snd

def checkDBusMessage (currentBus : BusConnection) (message : DBusMessage) (before : Arguments)
    (failures : ReplyFailures) : Option (List Reply) :=
  match events.findEvent currentBus message with
  | none       => some []
  | some event => event.runCallback (events.introspect currentBus) message before failures

/-- A method call that is dispatched gets one reply, and a signal none. -/
def RepliesOnce (currentBus : BusConnection) (message : DBusMessage) (before : Arguments)
    (failures : ReplyFailures) : Prop :=
  ∀ event ∈ events.findEvent currentBus message,
    (event.eventType = .method → ∃ reply,
      events.checkDBusMessage currentBus message before failures = some [reply]) ∧
    (event.eventType = .signal → ∀ replies ∈
      events.checkDBusMessage currentBus message before failures, replies = [])

/-- A message gets one reply when it is a method call, and none when it is a signal, exactly when
the callback function of the method replies at all, and either it gets its arguments and returns,
and the last reply is sent, or something is thrown, and just one of the two replies is sent. -/
theorem repliesOnce_iff (currentBus : BusConnection) (message : DBusMessage) (before : Arguments)
    (failures : ReplyFailures) :
    events.RepliesOnce currentBus message before failures ↔
      ∀ event ∈ events.findEvent currentBus message, event.eventType = .method →
        event.sig.sendsReply ∧
          (event.Returns (events.introspect currentBus) message before ∧ failures.lastIsSent ∨
            event.Throws (events.introspect currentBus) message before ∧
              failures.callbackError = failures.lastIsSent) := by
  refine forall₂_congr fun event hevent => ?_
  have hcheck : events.checkDBusMessage currentBus message before failures =
      event.runCallback (events.introspect currentBus) message before failures := by
    rw [checkDBusMessage, hevent]
  rw [hcheck]
  constructor
  · rintro ⟨hmethod, -⟩ h
    exact (GKDBusEvent.runCallback_of_method h).mp (hmethod h)
  · intro h
    refine ⟨fun hmethod => (GKDBusEvent.runCallback_of_method hmethod).mpr (h hmethod), ?_⟩
    intro hsignal replies hreplies
    exact GKDBusEvent.runCallback_of_signal hsignal hreplies

/-- `UnregisterClient` is called without arguments. An error is sent, and then a method return. -/
theorem not_repliesOnce_unregisterClient :
    let path := "/com/glogik/Daemon/ClientsManager"
    let interface := "com.glogik.Daemon.Client1"
    let events := exposeMethod { rootNodePath := "/com/glogik/Daemon" } .gkdbusSystem path interface
      "UnregisterClient" [] (.function .s2b fun _ => (.ok true, []))
    let message : DBusMessage :=
      ⟨.methodCall, path, some interface, "UnregisterClient", ⟨[], trivial⟩⟩
    ¬ events.RepliesOnce .gkdbusSystem message {} {} := by
  intro path interface events message hreplies
  have hfind : (events.findEvent .gkdbusSystem message).map (·.eventType) = some .method := by
    decide +kernel
  obtain ⟨event, hevent, hmethod⟩ := Option.map_eq_some_iff.mp hfind
  obtain ⟨reply, hreply⟩ := (hreplies event hevent).1 hmethod
  have hcount : (events.checkDBusMessage .gkdbusSystem message {} {}).map List.length =
      some 2 := by
    decide +kernel
  rw [hreply] at hcount
  cases hcount

end GKDBusEvents

end GLogiK
