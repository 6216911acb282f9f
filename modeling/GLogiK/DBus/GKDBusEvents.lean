import GLogiK.DBus.GKDBusEvent
import GLogiK.Lib.Nesting
import GLogiK.Lib.Run
import Mathlib.Data.String.Basic

/-!
# The events of a bus object

Methods and signals are registered by bus, object path and interface. `introspect` writes what is
registered on an object path as XML.
-/

namespace GLogiK

inductive BusConnection
  | gkdbusSession
  | gkdbusSystem
  deriving DecidableEq, Repr

def BusConnection.toEnumType : BusConnection → ℕ
  | .gkdbusSession => 0
  | .gkdbusSystem  => 1

instance : LinearOrder BusConnection :=
  LinearOrder.lift' BusConnection.toEnumType fun a b => by cases a <;> cases b <;> decide

structure GKDBusIntrospectableSignal where
  name : String
  arguments : List DBusMethodArgument
  deriving DecidableEq, Repr

/-- By object path and interface. -/
abbrev ObjectPathMap (β : Type) := StdMap String (StdMap String (List β))

structure GKDBusEvents where
  dBusEvents : StdMap BusConnection (ObjectPathMap GKDBusEvent) := ∅
  dBusIntrospectableSignals : StdMap BusConnection (ObjectPathMap GKDBusIntrospectableSignal) := ∅
  dBusIntrospectableObjects : StdMap BusConnection (List String) := ∅
  dBusInterfaces : Std.ExtTreeSet String := ∅
  rootNodePath : String

/-- `map[bus][objectPath][interface].push_back(value)`. -/
def pushBack {β : Type} (map : StdMap BusConnection (ObjectPathMap β)) (bus : BusConnection)
    (objectPath interface : String) (value : β) : StdMap BusConnection (ObjectPathMap β) :=
  let opMap := map.getD bus ∅
  let interMap := opMap.getD objectPath ∅
  map.insert bus (opMap.insert objectPath
    (interMap.insert interface (interMap.getD interface [] ++ [value])))

namespace GKDBusEvents

variable (events : GKDBusEvents)

/-! ### Registration -/

def _FREEDESKTOP_DBUS_INTROSPECTABLE_STANDARD_INTERFACE : String :=
  "org.freedesktop.DBus.Introspectable"

/-- The last part of the path. -/
def getObjectFromObjectPath (objectPath : String) : String :=
  (objectPath.splitOn "/").getLast?.getD ""

/-- The events of the interfaces of an object path, or `none` if `at` throws. -/
def find? (bus : BusConnection) (objectPath : String) : Option (StdMap String (List GKDBusEvent)) :=
  events.dBusEvents[bus]?.bind fun opMap => opMap[objectPath]?

def insertEvent (bus : BusConnection) (objectPath interface : String) (event : GKDBusEvent) :
    GKDBusEvents :=
  { events with
    dBusInterfaces := events.dBusInterfaces.insert interface
    dBusEvents := pushBack events.dBusEvents bus objectPath interface event }

def introspectEvent : GKDBusEvent where
  eventName := "Introspect"
  arguments := [⟨"s", "xml_data", "out", "xml data representing DBus interfaces"⟩]
  eventType := .method
  introspectable := false
  callback := .introspect

/-- The first introspectable event of an object path brings the `Introspect` method with it. -/
def addEvent (bus : BusConnection) (objectPath interface : String) (event : GKDBusEvent) :
    GKDBusEvents :=
  let introspected := (events.find? bus objectPath).any
    (·.contains _FREEDESKTOP_DBUS_INTROSPECTABLE_STANDARD_INTERFACE)
  let events :=
    if event.introspectable && !introspected then
      { events with
        dBusIntrospectableObjects := events.dBusIntrospectableObjects.insert bus
          (events.dBusIntrospectableObjects.getD bus [] ++
            [getObjectFromObjectPath objectPath]) }.insertEvent
        bus objectPath _FREEDESKTOP_DBUS_INTROSPECTABLE_STANDARD_INTERFACE introspectEvent
    else events
  events.insertEvent bus objectPath interface event

def exposeMethod (bus : BusConnection) (objectPath interface eventName : String)
    (args : List DBusMethodArgument) (callback : Callback) : GKDBusEvents :=
  events.addEvent bus objectPath interface
    { eventName, arguments := args, eventType := .method, introspectable := true, callback }

/-- Signals declared as events with callback functions are not introspectable. -/
def receiveSignal (bus : BusConnection) (objectPath interface eventName : String)
    (args : List DBusMethodArgument) (callback : Callback) : GKDBusEvents :=
  events.addEvent bus objectPath interface
    { eventName, arguments := args, eventType := .signal, introspectable := false, callback }

def declareIntrospectableSignal (bus : BusConnection) (objectPath interface name : String)
    (args : List DBusMethodArgument) : GKDBusEvents :=
  { events with
    dBusIntrospectableSignals :=
      pushBack events.dBusIntrospectableSignals bus objectPath interface ⟨name, args⟩ }

/-! ### XML -/

inductive Element
  | node
  | interface
  | method
  | signal
  deriving DecidableEq, Repr

/-- What is written at once. A signal has no directions. -/
inductive XML
  | doctype
  | opening (element : Element) (name : String)
  | closing (element : Element)
  | emptyNode (name : String)
  | comment (text : String)
  | arg (type name : String) (direction : Option String)
  deriving DecidableEq, Repr

def Element.toString : Element → String
  | .node      => "node"
  | .interface => "interface"
  | .method    => "method"
  | .signal    => "signal"

def Element.indentation : Element → String
  | .node              => ""
  | .interface         => "  "
  | .method | .signal  => "    "

def XML.toString : XML → String
  | .doctype =>
    "<!DOCTYPE node PUBLIC \"-//freedesktop//DTD D-BUS Object Introspection 1.0//EN\"\n" ++
      "\t\t\"http://www.freedesktop.org/standards/dbus/1.0/introspect.dtd\">\n"
  | .opening element name =>
    element.indentation ++ "<" ++ element.toString ++ " name=\"" ++ name ++ "\">\n"
  | .closing element => element.indentation ++ "</" ++ element.toString ++ ">\n"
  | .emptyNode name => "  <node name=\"" ++ name ++ "\"/>\n"
  | .comment text => "      <!-- " ++ text ++ " -->\n"
  | .arg type name direction =>
    let name := if name.isEmpty then "" else "name=\"" ++ name ++ "\" "
    let rest := match direction with
      | some direction => "direction=\"" ++ direction ++ "\" />\n"
      | none           => "/>\n"
    "      <arg type=\"" ++ type ++ "\" " ++ name ++ rest

def argumentToXML (withDirection : Bool) (arg : DBusMethodArgument) : List XML :=
  [.comment arg.comment,
    .arg arg.type arg.name (if withDirection then some arg.direction else none)]

/-- Signals that are received are not written. -/
def eventToXMLMethod (event : GKDBusEvent) : List XML :=
  if event.eventType = .method then
    .opening .method event.eventName :: event.arguments.flatMap (argumentToXML true) ++
      [.closing .method]
  else []

def signalToXML (signal : GKDBusIntrospectableSignal) : List XML :=
  .opening .signal signal.name :: signal.arguments.flatMap (argumentToXML false) ++
    [.closing .signal]

/-! ### Introspection -/

def introspectRootNode (currentBus : BusConnection) : List XML :=
  .doctype :: .opening .node events.rootNodePath ::
    (events.dBusIntrospectableObjects.getD currentBus []).map .emptyNode ++ [.closing .node]

/-- The interfaces of the object paths that match. -/
def interfacesAt {β : Type} (opMap : ObjectPathMap β) (askedObjectPath : String) :
    List (String × List β) :=
  opMap.toList.flatMap fun entry => if askedObjectPath = entry.1 then entry.2.toList else []

/-- The values of an interface are written after the interface was opened, if it was not yet. -/
def interfaceToXML {β : Type} (toXML : β → List XML) (interface : String) :
    Bool → List (String × List β) → List XML × Bool
  | interfaceOpened, []              => ([], interfaceOpened)
  | interfaceOpened, entry :: entries =>
    if interface = entry.1 then
      let rest := interfaceToXML toXML interface true entries
      ((if interfaceOpened then [] else [.opening .interface interface]) ++
        entry.2.flatMap toXML ++ rest.1, rest.2)
    else interfaceToXML toXML interface interfaceOpened entries

/-- The loop over the interfaces, which ends when `at` throws. -/
def introspectInterfaces (currentBus : BusConnection) (askedObjectPath : String) :
    List String → List XML
  | []                     => []
  | interface :: interfaces =>
    match events.dBusEvents[currentBus]? with
    | none       => []
    | some opMap =>
      let methods :=
        interfaceToXML eventToXMLMethod interface false (interfacesAt opMap askedObjectPath)
      match events.dBusIntrospectableSignals[currentBus]? with
      | none       => methods.1
      | some opMap =>
        let signals :=
          interfaceToXML signalToXML interface methods.2 (interfacesAt opMap askedObjectPath)
        methods.1 ++ signals.1 ++ (if signals.2 then [.closing .interface] else []) ++
          introspectInterfaces currentBus askedObjectPath interfaces

def introspectXML (currentBus : BusConnection) (askedObjectPath : String) : List XML :=
  if askedObjectPath = events.rootNodePath then events.introspectRootNode currentBus
  else
    .doctype :: .opening .node askedObjectPath ::
      events.introspectInterfaces currentBus askedObjectPath events.dBusInterfaces.toList ++
      [.closing .node]

def introspect (currentBus : BusConnection) (askedObjectPath : String) : String :=
  String.join ((events.introspectXML currentBus askedObjectPath).map XML.toString)

end GKDBusEvents

end GLogiK
