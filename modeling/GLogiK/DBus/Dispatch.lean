import GLogiK.DBus.Replies

/-!
# Dispatch of messages

The events of all object paths are compared with a message that is sent to the root node path, so
that the root node can be introspected. The comparison is not about introspection only, and a
message to the root node path can run the callback functions of any object.
-/

namespace GLogiK

namespace GKDBusEvents

variable {events : GKDBusEvents} {currentBus : BusConnection} {message : DBusMessage}
  {objectPath : String}

/-! ### Places of events -/

/-- Where an event is registered. -/
structure Place where
  objectPath : String
  interface : String
  event : GKDBusEvent

/-- The event is for the message. -/
def Place.isFor (message : DBusMessage) (place : Place) : Bool :=
  GKDBusEvents.isFor message place.interface place.event

/-- The events of an object path, in the order of the loops. -/
def placesOf (entry : String × StdMap String (List GKDBusEvent)) : List Place :=
  entry.2.toList.flatMap fun inter => inter.2.map fun event => ⟨entry.1, inter.1, event⟩

/-- The event of a message, with its place. -/
def findPlace (events : GKDBusEvents) (currentBus : BusConnection) (message : DBusMessage) :
    Option Place :=
  ((events.dBusEvents[currentBus]?.elim [] fun opMap => opMap.toList).flatMap fun entry =>
    if message.path ≠ events.rootNodePath ∧ message.path ≠ entry.1 then []
    else placesOf entry).find? (Place.isFor message)

/-- What is dispatched is the event of the place. -/
lemma findEvent_eq_findPlace :
    events.findEvent currentBus message = (events.findPlace currentBus message).map Place.event := by
  let entryOf : Place → String × GKDBusEvent := fun place => (place.interface, place.event)
  have hcandidates : events.candidates currentBus message =
      ((events.dBusEvents[currentBus]?.elim [] fun opMap => opMap.toList).flatMap fun entry =>
        if message.path ≠ events.rootNodePath ∧ message.path ≠ entry.1 then []
        else placesOf entry).map entryOf := by
    rw [candidates, List.map_flatMap]
    congr 1
    funext entry
    split_ifs
    · rfl
    · simp only [placesOf, List.map_flatMap, List.map_map]
      rfl
  rw [findEvent, findPlace, hcandidates, List.find?_map, Option.map_map]
  rfl

/-! ### The own path of a message -/

/-- The `Introspect` method is called; a message may have no interface. -/
def CallsIntrospect (message : DBusMessage) : Prop :=
  message.type = .methodCall ∧ message.member = "Introspect" ∧
    message.interface.all (· == _FREEDESKTOP_DBUS_INTROSPECTABLE_STANDARD_INTERFACE)

/-- The place is on the object path of the message, with its interface and member, or the message
introspects the root node. -/
def Place.Own (events : GKDBusEvents) (message : DBusMessage) (place : Place) : Prop :=
  (place.objectPath = message.path ∧ message.interface.all (· == place.interface) ∧
    place.event.eventName = message.member) ∨
  (message.path = events.rootNodePath ∧ CallsIntrospect message)

/-- An event that is run is registered where the message was sent to. -/
def RunsOwn (events : GKDBusEvents) (currentBus : BusConnection) (message : DBusMessage) : Prop :=
  ∀ event ∈ events.findEvent currentBus message, ∃ place,
    events.findPlace currentBus message = some place ∧ place.event = event ∧
      place.Own events message

lemma runsOwn_iff_own : events.RunsOwn currentBus message ↔
    ∀ place ∈ events.findPlace currentBus message, place.Own events message := by
  rw [RunsOwn, findEvent_eq_findPlace]
  cases hplace : events.findPlace currentBus message with
  | none => simp
  | some place => simp

/-- An event of the object path is for the message. -/
def Answers (events : GKDBusEvents) (currentBus : BusConnection) (message : DBusMessage)
    (objectPath : String) : Prop :=
  ∃ opMap interMap, events.dBusEvents[currentBus]? = some opMap ∧
    opMap[objectPath]? = some interMap ∧
    ∃ place ∈ placesOf (objectPath, interMap), place.isFor message

lemma objectPath_of_mem_placesOf {entry : String × StdMap String (List GKDBusEvent)}
    {place : Place} (h : place ∈ placesOf entry) : place.objectPath = entry.1 := by
  obtain ⟨inter, -, hplace⟩ := List.mem_flatMap.mp h
  obtain ⟨event, -, rfl⟩ := List.mem_map.mp hplace
  rfl

lemma Place.isFor_iff {place : Place} (h : place.isFor message) :
    message.interface.all (· == place.interface) ∧ place.event.eventName = message.member := by
  rw [Place.isFor, GKDBusEvents.isFor, Bool.and_eq_true, Bool.and_eq_true] at h
  exact ⟨h.2, (beq_iff_eq.mp h.1.2).symm⟩

/-- The first object path that the message may be compared with, and that answers it. -/
lemma findPlace_eq_some {place : Place} (h : events.findPlace currentBus message = some place) :
    ∃ opMap u v interMap, events.dBusEvents[currentBus]? = some opMap ∧
      opMap.toList = u ++ (place.objectPath, interMap) :: v ∧
      (message.path = events.rootNodePath ∨ message.path = place.objectPath) ∧
      place ∈ placesOf (place.objectPath, interMap) ∧ place.isFor message ∧
      (message.path = events.rootNodePath → ∀ entry ∈ u, ∀ place ∈ placesOf entry,
        ¬ place.isFor message) := by
  rw [findPlace] at h
  cases hmap : events.dBusEvents[currentBus]? with
  | none =>
    rw [hmap] at h
    cases h
  | some opMap =>
    rw [hmap, Option.elim_some, List.find?_flatMap, List.findSome?_eq_some_iff] at h
    obtain ⟨u, ⟨path, interMap⟩, v, hlist, hfind, hbefore⟩ := h
    split_ifs at hfind with hskip
    · cases hfind
    have hmem := List.mem_of_find?_eq_some hfind
    obtain rfl : place.objectPath = path := objectPath_of_mem_placesOf hmem
    refine ⟨opMap, u, v, interMap, rfl, hlist, ?_, hmem, List.find?_some hfind, ?_⟩
    · by_contra hnot
      exact hskip (not_or.mp hnot)
    · intro hroot entry hentry other hother
      have hnone := hbefore entry hentry
      rw [if_neg fun hne => hne.1 hroot, List.find?_eq_none] at hnone
      exact hnone other hother

/-- A message to the root node path that an object path answers is dispatched. -/
lemma findPlace_isSome (hroot : message.path = events.rootNodePath)
    (hanswers : events.Answers currentBus message objectPath) :
    (events.findPlace currentBus message).isSome := by
  obtain ⟨opMap, interMap, hmap, hinter, place, hplace, hfor⟩ := hanswers
  rw [findPlace, hmap, List.find?_isSome]
  refine ⟨place, List.mem_flatMap.mpr ⟨(objectPath, interMap), ?_, ?_⟩, hfor⟩
  · exact Std.ExtTreeMap.mem_toList_iff_getElem?_eq_some.mpr hinter
  · rw [if_neg fun hne => hne.1 hroot]
    exact hplace

/-- To the root node path, the first object path that answers is the one whose event runs. -/
lemma findPlace_of_root {place : Place} (h : events.findPlace currentBus message = some place)
    (hroot : message.path = events.rootNodePath) :
    events.Answers currentBus message place.objectPath ∧
      ∀ objectPath, events.Answers currentBus message objectPath →
        place.objectPath ≤ objectPath := by
  obtain ⟨opMap, u, v, interMap, hmap, hlist, -, hplace, hfor, hbefore⟩ := findPlace_eq_some h
  have hmem : (place.objectPath, interMap) ∈ opMap.toList := by
    rw [hlist]
    exact List.mem_append_cons_self
  refine ⟨⟨opMap, interMap, hmap,
    Std.ExtTreeMap.mem_toList_iff_getElem?_eq_some.mp hmem, place, hplace, hfor⟩, ?_⟩
  rintro objectPath ⟨opMap', interMap', hmap', hinter', other, hother, hotherFor⟩
  rw [hmap] at hmap'
  cases hmap'
  have hentry := Std.ExtTreeMap.mem_toList_iff_getElem?_eq_some.mpr hinter'
  have hordered := Std.ExtTreeMap.ordered_keys_toList (t := opMap)
  rw [hlist, List.pairwise_append, List.pairwise_cons] at hordered
  obtain ⟨-, ⟨hafter, -⟩, -⟩ := hordered
  rw [hlist, List.mem_append, List.mem_cons] at hentry
  rcases hentry with hu | hsame | hv
  · exact absurd hotherFor (hbefore hroot _ hu other hother)
  · cases hsame
    exact le_rfl
  · exact (compare_lt_iff_lt.mp (hafter _ hv)).le

/-- An event on another path than the one of the message runs just when the message is sent to the
root node path, does not introspect it, and an object path before it answers. -/
theorem runsOwn_iff (events : GKDBusEvents) (currentBus : BusConnection) (message : DBusMessage) :
    events.RunsOwn currentBus message ↔
      (message.path = events.rootNodePath → CallsIntrospect message ∨
        ∀ objectPath, events.Answers currentBus message objectPath →
          events.Answers currentBus message events.rootNodePath ∧
            events.rootNodePath ≤ objectPath) := by
  rw [runsOwn_iff_own]
  constructor
  · intro hown hroot
    by_cases hintrospect : CallsIntrospect message
    · exact Or.inl hintrospect
    · refine Or.inr fun objectPath hanswers => ?_
      obtain ⟨place, hplace⟩ := Option.isSome_iff_exists.mp (findPlace_isSome hroot hanswers)
      obtain ⟨hfirst, hleast⟩ := findPlace_of_root hplace hroot
      rcases hown place hplace with ⟨hpath, -⟩ | ⟨-, hcalls⟩
      · rw [hpath, hroot] at hfirst hleast
        exact ⟨hfirst, hleast objectPath hanswers⟩
      · exact absurd hcalls hintrospect
  · intro hcondition place hplace
    obtain ⟨-, -, -, -, -, -, hpath, -, hfor, -⟩ := findPlace_eq_some hplace
    obtain ⟨hinterface, hmember⟩ := Place.isFor_iff hfor
    by_cases hroot : message.path = events.rootNodePath
    · obtain ⟨hfirst, hleast⟩ := findPlace_of_root hplace hroot
      rcases hcondition hroot with hintrospect | hanswers
      · exact Or.inr ⟨hroot, hintrospect⟩
      · obtain ⟨hrootAnswers, hle⟩ := hanswers place.objectPath hfirst
        refine Or.inl ⟨?_, hinterface, hmember⟩
        rw [hroot]
        exact le_antisymm (hleast _ hrootAnswers) hle
    · exact Or.inl ⟨(hpath.resolve_left hroot).symm, hinterface, hmember⟩

/-- A method of the clients manager is called on the root node path of the daemon. -/
theorem not_runsOwn_unregisterClient :
    ¬ ∀ (events : GKDBusEvents) (currentBus : BusConnection) (message : DBusMessage),
      events.RunsOwn currentBus message := by
  intro hown
  let interface := "com.glogik.Daemon.Client1"
  let events := exposeMethod { rootNodePath := "/com/glogik/Daemon" } .gkdbusSystem
    "/com/glogik/Daemon/ClientsManager" interface
    "UnregisterClient" [] (.function .s2b fun _ => (.ok true, []))
  let message : DBusMessage :=
    ⟨.methodCall, "/com/glogik/Daemon", some interface, "UnregisterClient", ⟨[], trivial⟩⟩
  have hfind : (events.findPlace .gkdbusSystem message).map (·.objectPath) =
      some "/com/glogik/Daemon/ClientsManager" := by
    decide +kernel
  obtain ⟨place, hplace, hpath⟩ := Option.map_eq_some_iff.mp hfind
  rcases runsOwn_iff_own.mp (hown events .gkdbusSystem message) place hplace with
    ⟨hsame, -⟩ | ⟨-, -, hmember, -⟩
  · rw [hpath] at hsame
    have hne : "/com/glogik/Daemon/ClientsManager" ≠ "/com/glogik/Daemon" := by decide
    exact hne hsame
  · have hne : "UnregisterClient" ≠ "Introspect" := by decide
    exact hne hmember

end GKDBusEvents

end GLogiK
