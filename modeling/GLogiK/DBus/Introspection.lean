import GLogiK.DBus.ObjectPaths

/-!
# What introspection writes

The XML of an object path should be nested, and list every method of the path under its interface.
-/

namespace GLogiK

open Brackets

namespace GKDBusEvents

variable {events : GKDBusEvents}

/-! ### Reading the XML -/

def XML.mark : XML → Option (Mark Element)
  | .opening element _ => some (.opening element)
  | .closing element   => some (.closing element)
  | _                  => none

/-- Every element is closed, and within the element in which it was opened. -/
def WellNested (xml : List XML) : Prop := Nested (xml.filterMap XML.mark)

instance (xml : List XML) : Decidable (WellNested xml) :=
  inferInstanceAs (Decidable (Nested (xml.filterMap XML.mark)))

/-- The methods with the interface elements in which they stand. -/
def methodsUnder : Option String → List XML → List (Option String × String)
  | _, []                                 => []
  | _, .opening .interface name :: xml    => methodsUnder (some name) xml
  | _, .closing .interface :: xml         => methodsUnder none xml
  | interface, .opening .method name :: xml => (interface, name) :: methodsUnder interface xml
  | interface, _ :: xml                   => methodsUnder interface xml

lemma WellNested.append {xml rest : List XML} (h : WellNested xml) (hrest : WellNested rest) :
    WellNested (xml ++ rest) := by
  rw [WellNested, List.filterMap_append]
  exact Nested.append h hrest

lemma WellNested.element {xml : List XML} (h : WellNested xml) (element : Element) (name : String) :
    WellNested (.opening element name :: xml ++ [.closing element]) := by
  rw [WellNested, List.filterMap_append, List.filterMap_cons]
  exact Nested.wrap h element

lemma wellNested_flatMap {α : Type} {toXML : α → List XML} {values : List α}
    (h : ∀ value, WellNested (toXML value)) : WellNested (values.flatMap toXML) := by
  rw [WellNested, List.filterMap_flatMap]
  exact nested_flatMap fun value _ => h value

/-- The XML stands within an interface, and lists these methods. -/
def Lists (xml : List XML) (names : List String) : Prop := ∀ interface rest,
  methodsUnder interface (xml ++ rest) =
    names.map (fun name => (interface, name)) ++ methodsUnder interface rest

lemma lists_nil : Lists [] [] := fun _ _ => rfl

lemma Lists.append {xml xml' : List XML} {names names' : List String} (h : Lists xml names)
    (h' : Lists xml' names') : Lists (xml ++ xml') (names ++ names') := by
  intro interface rest
  rw [List.append_assoc, h, h', List.map_append, List.append_assoc]

lemma lists_flatMap {α : Type} {toXML : α → List XML} {names : α → List String} {values : List α}
    (h : ∀ value, Lists (toXML value) (names value)) :
    Lists (values.flatMap toXML) (values.flatMap names) := by
  induction values with
  | nil => exact lists_nil
  | cons value values ih => exact (h value).append ih

/-! ### Methods and signals -/

/-- The name of a method. -/
def methodName (event : GKDBusEvent) : List String :=
  if event.eventType = .method then [event.eventName] else []

lemma arguments_spec (withDirection : Bool) (arguments : List DBusMethodArgument) :
    WellNested (arguments.flatMap (argumentToXML withDirection)) ∧
      Lists (arguments.flatMap (argumentToXML withDirection)) [] := by
  refine ⟨wellNested_flatMap fun _ => rfl, ?_⟩
  induction arguments with
  | nil => exact lists_nil
  | cons arg arguments ih =>
    have hfirst : Lists (argumentToXML withDirection arg) [] := fun _ _ => rfl
    exact hfirst.append ih

lemma eventToXMLMethod_spec (event : GKDBusEvent) :
    WellNested (eventToXMLMethod event) ∧ Lists (eventToXMLMethod event) (methodName event) := by
  obtain ⟨hnested, hlists⟩ := arguments_spec true event.arguments
  simp only [eventToXMLMethod, methodName]
  split_ifs
  · refine ⟨hnested.element .method _, ?_⟩
    intro interface rest
    rw [List.cons_append, List.cons_append, methodsUnder, List.append_assoc, hlists]
    rfl
  · exact ⟨nested_nil, lists_nil⟩

lemma signalToXML_spec (signal : GKDBusIntrospectableSignal) :
    WellNested (signalToXML signal) ∧ Lists (signalToXML signal) [] := by
  obtain ⟨hnested, hlists⟩ := arguments_spec false signal.arguments
  refine ⟨hnested.element .signal _, ?_⟩
  intro interface rest
  rw [signalToXML, List.cons_append, List.cons_append, List.append_assoc]
  exact hlists interface ([.closing .signal] ++ rest)

/-! ### Interfaces -/

section

variable {β : Type} {toXML : β → List XML} {interface : String}

/-- The values of an interface. -/
def valuesOf (interface : String) (entries : List (String × List β)) : List β :=
  entries.flatMap fun entry => if interface = entry.1 then entry.2 else []

lemma valuesOf_eq_nil {entries : List (String × List β)}
    (h : interface ∉ entries.map Prod.fst) : valuesOf interface entries = [] := by
  refine List.flatMap_eq_nil_iff.mpr fun entry hentry => if_neg ?_
  rintro rfl
  exact h (List.mem_map_of_mem hentry)

/-- The interface is opened before its first value if it was not, also when it has no values. -/
lemma interfaceToXML_eq (interfaceOpened : Bool) (entries : List (String × List β)) :
    interfaceToXML toXML interface interfaceOpened entries =
      ((if interfaceOpened = false ∧ interface ∈ entries.map Prod.fst
          then [.opening .interface interface] else []) ++
        (valuesOf interface entries).flatMap toXML,
      interfaceOpened || decide (interface ∈ entries.map Prod.fst)) := by
  induction entries generalizing interfaceOpened with
  | nil => simp [interfaceToXML, valuesOf]
  | cons entry entries ih =>
    by_cases hentry : interface = entry.1
    · rw [interfaceToXML, if_pos hentry, ih]
      cases interfaceOpened <;> simp [valuesOf, hentry]
    · have hmem : (interface ∈ (entry :: entries).map Prod.fst) =
          (interface ∈ entries.map Prod.fst) := by
        rw [List.map_cons, List.mem_cons, or_iff_right hentry]
      have hvalues : valuesOf interface (entry :: entries) = valuesOf interface entries := by
        rw [valuesOf, List.flatMap_cons, if_neg hentry]
        rfl
      rw [interfaceToXML, if_neg hentry, ih, hvalues]
      simp only [hmem]

end

/-- What is written for an interface when both tables have the bus. -/
def interfaceBlock (interface : String) (methods : List (String × List GKDBusEvent))
    (signals : List (String × List GKDBusIntrospectableSignal)) : List XML :=
  if interface ∈ methods.map Prod.fst ∨ interface ∈ signals.map Prod.fst then
    .opening .interface interface :: ((valuesOf interface methods).flatMap eventToXMLMethod ++
      (valuesOf interface signals).flatMap signalToXML) ++ [.closing .interface]
  else []

lemma interfaceBlock_eq (interface : String) (methods : List (String × List GKDBusEvent))
    (signals : List (String × List GKDBusIntrospectableSignal)) :
    let m := interfaceToXML eventToXMLMethod interface false methods
    let s := interfaceToXML signalToXML interface m.2 signals
    m.1 ++ s.1 ++ (if s.2 then [.closing .interface] else []) =
      interfaceBlock interface methods signals := by
  simp only [interfaceToXML_eq, interfaceBlock]
  by_cases hm : interface ∈ methods.map Prod.fst
  · simp [hm]
  · by_cases hs : interface ∈ signals.map Prod.fst
    · simp [hm, hs, valuesOf_eq_nil hm]
    · simp [hm, hs, valuesOf_eq_nil hm, valuesOf_eq_nil hs]

lemma interfaceBlock_spec (interface : String) (methods : List (String × List GKDBusEvent))
    (signals : List (String × List GKDBusIntrospectableSignal)) :
    WellNested (interfaceBlock interface methods signals) ∧ ∀ rest,
      methodsUnder none (interfaceBlock interface methods signals ++ rest) =
        ((valuesOf interface methods).flatMap methodName).map
          (fun name => (some interface, name)) ++ methodsUnder none rest := by
  have hmethods : WellNested ((valuesOf interface methods).flatMap eventToXMLMethod) ∧
      Lists ((valuesOf interface methods).flatMap eventToXMLMethod)
        ((valuesOf interface methods).flatMap methodName) :=
    ⟨wellNested_flatMap fun event => (eventToXMLMethod_spec event).1,
      lists_flatMap fun event => (eventToXMLMethod_spec event).2⟩
  have hsignals : WellNested ((valuesOf interface signals).flatMap signalToXML) ∧
      Lists ((valuesOf interface signals).flatMap signalToXML) [] := by
    refine ⟨wellNested_flatMap fun signal => (signalToXML_spec signal).1, ?_⟩
    have hlists : Lists ((valuesOf interface signals).flatMap signalToXML)
        ((valuesOf interface signals).flatMap fun _ => []) :=
      lists_flatMap fun signal => (signalToXML_spec signal).2
    rwa [List.flatMap_eq_nil_iff.mpr fun _ _ => rfl] at hlists
  rw [interfaceBlock]
  split_ifs with hopened
  · refine ⟨(hmethods.1.append hsignals.1).element .interface _, ?_⟩
    intro rest
    have hlists := hmethods.2.append hsignals.2 (some interface) ([.closing .interface] ++ rest)
    rw [List.append_nil] at hlists
    rw [List.cons_append, List.cons_append, List.append_assoc]
    exact hlists
  · refine ⟨nested_nil, fun rest => ?_⟩
    rw [valuesOf_eq_nil (not_or.mp hopened).1]
    rfl

/-! ### The loop over the interfaces -/

variable {bus : BusConnection} {path : String}

/-- The interfaces of an object path with their events. -/
def eventsAt (events : GKDBusEvents) (bus : BusConnection) (path : String) :
    List (String × List GKDBusEvent) :=
  (events.find? bus path).elim [] fun interMap => interMap.toList

/-- The methods that are registered on an object path, with their interfaces. -/
def registeredMethods (events : GKDBusEvents) (bus : BusConnection) (path : String) :
    List (Option String × String) :=
  (events.eventsAt bus path).flatMap fun entry =>
    (entry.2.flatMap methodName).map fun name => (some entry.1, name)

lemma interfacesAt_eq {β : Type} (opMap : ObjectPathMap β) :
    interfacesAt opMap path = opMap[path]?.elim [] fun interMap => interMap.toList :=
  flatMap_toList_of_key opMap path fun interMap => interMap.toList

lemma flatMap_ite_of_mem {γ : Type} {key : String} {keys : List String} (hnodup : keys.Nodup)
    (hmem : key ∈ keys) (xs : String → List γ) :
    (keys.flatMap fun k => if k = key then xs k else []) = xs key := by
  induction keys with
  | nil => cases hmem
  | cons k keys ih =>
    obtain ⟨hk, hnodup⟩ := List.nodup_cons.mp hnodup
    rw [List.flatMap_cons]
    by_cases hkey : k = key
    · subst hkey
      have hrest : (keys.flatMap fun k' => if k' = k then xs k' else []) = [] := by
        refine List.flatMap_eq_nil_iff.mpr fun k' hk' => if_neg ?_
        rintro rfl
        exact hk hk'
      rw [if_pos rfl, hrest, List.append_nil]
    · rw [if_neg hkey, List.nil_append]
      exact ih hnodup ((List.mem_cons.mp hmem).resolve_left (Ne.symm hkey))

/-- What is written interface by interface is what the entries have. -/
lemma perm_flatMap_valuesOf {β γ : Type} {interfaces : List String} (hnodup : interfaces.Nodup)
    {entries : List (String × List β)} (hentries : ∀ entry ∈ entries, entry.1 ∈ interfaces)
    (f : String → β → List γ) :
    (interfaces.flatMap fun interface => (valuesOf interface entries).flatMap (f interface)).Perm
      (entries.flatMap fun entry => entry.2.flatMap (f entry.1)) := by
  induction entries with
  | nil =>
    have hnil : (interfaces.flatMap fun interface =>
        (valuesOf interface ([] : List (String × List β))).flatMap (f interface)) = [] :=
      List.flatMap_eq_nil_iff.mpr fun _ _ => rfl
    rw [hnil]
    exact List.Perm.nil
  | cons entry entries ih =>
    have hfirst := flatMap_ite_of_mem hnodup (hentries entry List.mem_cons_self)
      fun interface => entry.2.flatMap (f interface)
    have hrest := ih fun entry' hentry' => hentries entry' (List.mem_cons_of_mem _ hentry')
    have hsplit : (fun interface => (valuesOf interface (entry :: entries)).flatMap (f interface)) =
        fun interface => (if interface = entry.1 then entry.2.flatMap (f interface) else []) ++
          (valuesOf interface entries).flatMap (f interface) := by
      funext interface
      rw [valuesOf, List.flatMap_cons, List.flatMap_append]
      split_ifs <;> rfl
    rw [hsplit, List.flatMap_cons, ← hfirst]
    exact (List.flatMap_append_perm _ _ _).symm.trans (hrest.append_left _)

/-- All elements are closed, and every method that is registered on the path is listed once under
its interface. -/
structure Introspects (events : GKDBusEvents) (bus : BusConnection) (path : String) : Prop where
  nested : WellNested (events.introspectXML bus path)
  lists : (methodsUnder none (events.introspectXML bus path)).Perm
    (events.registeredMethods bus path)

/-- Both tables have the bus: every interface is written. -/
lemma introspectInterfaces_of_declared {opMap : ObjectPathMap GKDBusEvent}
    {signalMap : ObjectPathMap GKDBusIntrospectableSignal}
    (hevents : events.dBusEvents[bus]? = some opMap)
    (hsignals : events.dBusIntrospectableSignals[bus]? = some signalMap)
    (interfaces : List String) :
    events.introspectInterfaces bus path interfaces = interfaces.flatMap fun interface =>
      interfaceBlock interface (interfacesAt opMap path) (interfacesAt signalMap path) := by
  induction interfaces with
  | nil => rfl
  | cons interface interfaces ih =>
    simp only [introspectInterfaces, hevents, hsignals, interfaceBlock_eq, ih, List.flatMap_cons]

/-- The bus has no introspectable signals: nothing is written after the methods of the first
interface, which stays open. -/
lemma introspectInterfaces_of_not_declared {opMap : ObjectPathMap GKDBusEvent}
    (hevents : events.dBusEvents[bus]? = some opMap)
    (hsignals : events.dBusIntrospectableSignals[bus]? = none) (interfaces : List String) :
    events.introspectInterfaces bus path interfaces = interfaces.head?.elim [] fun interface =>
      (interfaceToXML eventToXMLMethod interface false (interfacesAt opMap path)).1 := by
  cases interfaces with
  | nil => rfl
  | cons interface interfaces =>
    simp only [introspectInterfaces, hevents, hsignals, List.head?_cons, Option.elim_some]

lemma methodsUnder_flatMap_interfaceBlock (interfaces : List String)
    (methods : List (String × List GKDBusEvent))
    (signals : List (String × List GKDBusIntrospectableSignal)) (rest : List XML) :
    methodsUnder none ((interfaces.flatMap fun interface =>
        interfaceBlock interface methods signals) ++ rest) =
      (interfaces.flatMap fun interface => (valuesOf interface methods).flatMap fun event =>
        (methodName event).map fun name => (some interface, name)) ++ methodsUnder none rest := by
  induction interfaces with
  | nil => rfl
  | cons interface interfaces ih =>
    rw [List.flatMap_cons, List.append_assoc, (interfaceBlock_spec interface methods signals).2, ih,
      List.flatMap_cons, List.map_flatMap, List.append_assoc]

/-! ### Registrations -/

/-- What an object registers on the buses. -/
inductive Registration
  | exposeMethod (bus : BusConnection) (objectPath interface eventName : String)
      (args : List DBusMethodArgument) (callback : Callback)
  | receiveSignal (bus : BusConnection) (objectPath interface eventName : String)
      (args : List DBusMethodArgument) (callback : Callback)
  | declareIntrospectableSignal (bus : BusConnection) (objectPath interface name : String)
      (args : List DBusMethodArgument)

def register (events : GKDBusEvents) : Registration → GKDBusEvents
  | .exposeMethod bus objectPath interface eventName args callback =>
    events.exposeMethod bus objectPath interface eventName args callback
  | .receiveSignal bus objectPath interface eventName args callback =>
    events.receiveSignal bus objectPath interface eventName args callback
  | .declareIntrospectableSignal bus objectPath interface name args =>
    events.declareIntrospectableSignal bus objectPath interface name args

/-- The interfaces of all events are known. -/
def Covers (events : GKDBusEvents) : Prop := ∀ bus path interMap,
  events.find? bus path = some interMap → ∀ interface ∈ interMap, interface ∈ events.dBusInterfaces

lemma Covers.insertEvent (h : events.Covers) (bus : BusConnection) (path interface : String)
    (event : GKDBusEvent) : (events.insertEvent bus path interface event).Covers := by
  intro bus' path' interMap hfind interface' hmem
  rw [find?_insertEvent] at hfind
  apply Std.ExtTreeSet.mem_insert.mpr
  split_ifs at hfind with hpath
  · cases hfind
    rcases Std.ExtTreeMap.mem_insert.mp hmem with heq | hold
    · exact Or.inl heq
    · cases hfind : events.find? bus path with
      | none =>
        rw [hfind] at hold
        exact absurd hold Std.ExtTreeMap.not_mem_empty
      | some interMap =>
        rw [hfind] at hold
        exact Or.inr (h _ _ _ hfind _ hold)
  · exact Or.inr (h _ _ _ hfind _ hmem)

lemma covers_start (rootNodePath : String) : Covers { rootNodePath } := by
  intro bus path interMap hfind
  have hnone : find? { rootNodePath } bus path = none := by
    simp [find?]
  rw [hnone] at hfind
  cases hfind

lemma Covers.addEvent (h : events.Covers) (bus : BusConnection) (path interface : String)
    (event : GKDBusEvent) : (events.addEvent bus path interface event).Covers := by
  rw [GKDBusEvents.addEvent]
  apply Covers.insertEvent
  split_ifs
  · apply Covers.insertEvent
    exact h
  · exact h

lemma Covers.register (h : events.Covers) (registration : Registration) :
    (events.register registration).Covers := by
  cases registration with
  | exposeMethod => exact Covers.addEvent h _ _ _ _
  | receiveSignal => exact Covers.addEvent h _ _ _ _
  | declareIntrospectableSignal => exact h

lemma covers_run (rootNodePath : String) (registrations : List Registration) :
    (Run.run register { rootNodePath } registrations).Covers := by
  have hreach : Run.Reachable register { rootNodePath }
      (Run.run register { rootNodePath } registrations) := ⟨registrations, rfl⟩
  exact hreach.induction (covers_start rootNodePath) fun _ registration h => h.register registration

/-- The path is not the root node and an introspectable signal was declared on the bus, or the path
has no methods to list and nothing is opened on it. -/
def Introspectable (events : GKDBusEvents) (bus : BusConnection) (path : String) : Prop :=
  (path ≠ events.rootNodePath ∧ bus ∈ events.dBusIntrospectableSignals) ∨
    (events.registeredMethods bus path = [] ∧ (path = events.rootNodePath ∨
      ∀ interface ∈ events.dBusInterfaces.toList.head?,
        interface ∉ (events.eventsAt bus path).map Prod.fst))

/-! ### When the XML is right -/

lemma introspects_iff_of_rootNode (hpath : path = events.rootNodePath) :
    events.Introspects bus path ↔ events.registeredMethods bus path = [] := by
  have hxml : events.introspectXML bus path = events.introspectRootNode bus := if_pos hpath
  have hnodes : ∀ objects : List String,
      (objects.map XML.emptyNode ++ [XML.closing Element.node]).filterMap XML.mark =
          [.closing .node] ∧
        methodsUnder none (objects.map XML.emptyNode ++ [XML.closing Element.node]) = [] := by
    intro objects
    induction objects with
    | nil => exact ⟨rfl, rfl⟩
    | cons object objects ih => exact ih
  obtain ⟨hmarks, hmethods⟩ := hnodes (events.dBusIntrospectableObjects.getD bus [])
  have hlists : methodsUnder none (events.introspectXML bus path) = [] := by
    rw [hxml]
    exact hmethods
  constructor
  · intro h
    have hperm := h.lists
    rw [hlists] at hperm
    exact hperm.nil_eq.symm
  · intro h
    refine ⟨?_, ?_⟩
    · rw [hxml, WellNested, introspectRootNode, List.cons_append, List.cons_append,
        List.filterMap_cons, List.filterMap_cons, hmarks]
      rfl
    · rw [hlists, h]

/-- The document of a path that is not the root node. -/
lemma introspects_iff_of_interfaces {xml : List XML} (hpath : path ≠ events.rootNodePath)
    (hxml : events.introspectInterfaces bus path events.dBusInterfaces.toList = xml) :
    events.Introspects bus path ↔ WellNested (.opening .node path :: xml ++ [.closing .node]) ∧
      (methodsUnder none (xml ++ [.closing .node])).Perm (events.registeredMethods bus path) := by
  have hdocument : events.introspectXML bus path =
      .doctype :: .opening .node path :: xml ++ [.closing .node] := by
    rw [introspectXML, if_neg hpath, hxml]
  constructor
  · rintro ⟨hnested, hlists⟩
    rw [hdocument] at hnested hlists
    exact ⟨hnested, hlists⟩
  · rintro ⟨hnested, hlists⟩
    refine ⟨?_, ?_⟩
    · rw [hdocument]
      exact hnested
    · rw [hdocument]
      exact hlists

lemma eventsAt_eq {opMap : ObjectPathMap GKDBusEvent}
    (hevents : events.dBusEvents[bus]? = some opMap) :
    interfacesAt opMap path = events.eventsAt bus path := by
  rw [interfacesAt_eq, eventsAt, find?, hevents]
  rfl

/-- Both tables have the bus. -/
lemma introspects_of_declared (hcovers : events.Covers) (hpath : path ≠ events.rootNodePath)
    {opMap : ObjectPathMap GKDBusEvent} (hevents : events.dBusEvents[bus]? = some opMap)
    (hdeclared : bus ∈ events.dBusIntrospectableSignals) : events.Introspects bus path := by
  obtain ⟨signalMap, hsignals⟩ := Option.isSome_iff_exists.mp
    (Std.ExtTreeMap.mem_iff_isSome_getElem?.mp hdeclared)
  have hxml := @introspectInterfaces_of_declared events bus path opMap signalMap hevents hsignals
    events.dBusInterfaces.toList
  rw [introspects_iff_of_interfaces hpath hxml, eventsAt_eq hevents]
  constructor
  · apply WellNested.element
    exact wellNested_flatMap fun interface => (interfaceBlock_spec interface _ _).1
  · have hnodup : events.dBusInterfaces.toList.Nodup := by
      refine (Std.ExtTreeSet.distinct_toList (t := events.dBusInterfaces)).imp ?_
      intro a b hab heq
      exact hab (compare_eq_iff_eq.mpr heq)
    have hentries : ∀ entry ∈ events.eventsAt bus path,
        entry.1 ∈ events.dBusInterfaces.toList := by
      intro entry hentry
      rw [eventsAt] at hentry
      cases hfind : events.find? bus path with
      | none =>
        rw [hfind] at hentry
        cases hentry
      | some interMap =>
        rw [hfind] at hentry
        exact Std.ExtTreeSet.mem_toList.mpr
          (hcovers _ _ _ hfind _ (mem_of_mem_toList hentry))
    rw [methodsUnder_flatMap_interfaceBlock, registeredMethods]
    have hperm := perm_flatMap_valuesOf hnodup hentries fun interface event =>
      (methodName event).map fun name => (some interface, name)
    have hnone : methodsUnder none [.closing .node] = [] := rfl
    simp only [hnone, List.append_nil, List.map_flatMap]
    exact hperm

/-- No introspectable signal was declared on the bus. -/
lemma introspects_iff_of_not_declared (hpath : path ≠ events.rootNodePath)
    {opMap : ObjectPathMap GKDBusEvent} (hevents : events.dBusEvents[bus]? = some opMap)
    (hdeclared : bus ∉ events.dBusIntrospectableSignals) :
    events.Introspects bus path ↔ events.registeredMethods bus path = [] ∧
      ∀ interface ∈ events.dBusInterfaces.toList.head?,
        interface ∉ (events.eventsAt bus path).map Prod.fst := by
  have hsignals : events.dBusIntrospectableSignals[bus]? = none :=
    Std.ExtTreeMap.getElem?_eq_none hdeclared
  have hxml := @introspectInterfaces_of_not_declared events bus path opMap hevents hsignals
    events.dBusInterfaces.toList
  rw [introspects_iff_of_interfaces hpath hxml, eventsAt_eq hevents]
  have hempty : (WellNested (.opening .node path :: ([] : List XML) ++ [.closing .node]) ∧
      (methodsUnder none (([] : List XML) ++ [.closing .node])).Perm
        (events.registeredMethods bus path)) ↔ events.registeredMethods bus path = [] := by
    have hnested : WellNested (.opening .node path :: ([] : List XML) ++ [.closing .node]) := rfl
    have hlists : methodsUnder none (([] : List XML) ++ [.closing .node]) = [] := rfl
    rw [hlists, List.nil_perm, and_iff_right hnested]
  cases events.dBusInterfaces.toList.head? with
  | none =>
    rw [Option.elim_none, hempty, iff_self_and]
    intro _ interface hinterface
    cases hinterface
  | some interface =>
    have hfirst : (∀ interface' ∈ some interface,
        interface' ∉ (events.eventsAt bus path).map Prod.fst) ↔
          interface ∉ (events.eventsAt bus path).map Prod.fst := by
      simp
    rw [Option.elim_some, interfaceToXML_eq, hfirst]
    by_cases hmem : interface ∈ (events.eventsAt bus path).map Prod.fst
    · rw [if_pos ⟨rfl, hmem⟩]
      constructor
      · rintro ⟨hnested, -⟩
        rw [WellNested, List.filterMap_append] at hnested
        have hmethods : WellNested
            ((valuesOf interface (events.eventsAt bus path)).flatMap eventToXMLMethod) :=
          wellNested_flatMap fun event => (eventToXMLMethod_spec event).1
        have hne : Element.node ≠ Element.interface := by
          decide
        exact absurd hnested (not_nested_of_unclosed hne hmethods)
      · rintro ⟨-, hnot⟩
        exact absurd hmem hnot
    · rw [if_neg fun h => hmem h.2, valuesOf_eq_nil hmem, and_iff_left hmem]
      exact hempty

/-- After any registrations, the XML of an object path is nested and lists the methods of the path
exactly when the path is introspectable. -/
theorem introspects_iff (rootNodePath : String) (registrations : List Registration)
    (bus : BusConnection) (path : String) :
    (Run.run register { rootNodePath } registrations).Introspects bus path ↔
      (Run.run register { rootNodePath } registrations).Introspectable bus path := by
  have hcovers := covers_run rootNodePath registrations
  generalize Run.run register { rootNodePath } registrations = events at hcovers
  rw [Introspectable]
  by_cases hpath : path = events.rootNodePath
  · rw [introspects_iff_of_rootNode hpath]
    simp [hpath]
  · rw [and_iff_right hpath, or_iff_right hpath]
    cases hevents : events.dBusEvents[bus]? with
    | none =>
      have hxml : events.introspectInterfaces bus path events.dBusInterfaces.toList = [] := by
        cases events.dBusInterfaces.toList with
        | nil => rfl
        | cons interface interfaces => simp only [introspectInterfaces, hevents]
      have hat : events.eventsAt bus path = [] := by
        simp [eventsAt, find?, hevents]
      have hmethods : events.registeredMethods bus path = [] := by
        rw [registeredMethods, hat]
        rfl
      have hright : events.Introspects bus path := by
        rw [introspects_iff_of_interfaces hpath hxml, hmethods]
        exact ⟨rfl, List.Perm.nil⟩
      refine iff_of_true hright (Or.inr ⟨hmethods, ?_⟩)
      rw [hat]
      intro _ _ h
      cases h
    | some opMap =>
      by_cases hdeclared : bus ∈ events.dBusIntrospectableSignals
      · exact iff_of_true (introspects_of_declared hcovers hpath hevents hdeclared)
          (Or.inl hdeclared)
      · rw [introspects_iff_of_not_declared hpath hevents hdeclared, or_iff_right hdeclared]

/-- A method is exposed on the session bus, where no signal is declared: the interface stays
open. -/
theorem not_introspects_exposeMethod : ¬ (Run.run register { rootNodePath := "/root" }
    [.exposeMethod .gkdbusSession "/root/object" "object.interface" "Method" []
      (.function .s2b fun _ => (.ok true, []))]).Introspects .gkdbusSession "/root/object" := by
  intro h
  have hnested := h.nested
  revert hnested
  decide +kernel

end GKDBusEvents

end GLogiK
