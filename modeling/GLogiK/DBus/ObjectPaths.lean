import GLogiK.DBus.GKDBusEvents

/-!
# The maps of the object paths

What is registered on an object path is a map by interface. An event is added to this map. An
interface is removed with all its events, and the object path with its last interface; the
`Introspectable` interface does not stay alone there.
-/

namespace GLogiK

namespace GKDBusEvents

variable {events : GKDBusEvents}

/-! ### The map of an object path -/

def setInterfaces (events : GKDBusEvents) (bus : BusConnection) (objectPath : String)
    (interMap : StdMap String (List GKDBusEvent)) : GKDBusEvents :=
  { events with
    dBusEvents := events.dBusEvents.insert bus
      ((events.dBusEvents.getD bus ∅).insert objectPath interMap) }

lemma find?_insert_bus {opMap : ObjectPathMap GKDBusEvent} (bus bus' : BusConnection)
    (objectPath : String) :
    find? { events with dBusEvents := events.dBusEvents.insert bus opMap } bus' objectPath =
      if bus' = bus then opMap[objectPath]? else events.find? bus' objectPath := by
  rw [find?, getElem?_insert_eq]
  split_ifs <;> rfl

lemma getElem?_opMap (bus : BusConnection) (objectPath : String) :
    (events.dBusEvents.getD bus ∅)[objectPath]? = events.find? bus objectPath := by
  rw [find?, Std.ExtTreeMap.getD_eq_getD_getElem?]
  cases events.dBusEvents[bus]? with
  | none => exact Std.ExtTreeMap.getElem?_empty
  | some opMap => rfl

/-- The map of one object path is replaced. -/
lemma find?_setInterfaces (bus : BusConnection) (objectPath : String)
    (interMap : StdMap String (List GKDBusEvent)) (bus' : BusConnection) (objectPath' : String) :
    (events.setInterfaces bus objectPath interMap).find? bus' objectPath' =
      if bus' = bus ∧ objectPath' = objectPath then some interMap
      else events.find? bus' objectPath' := by
  rw [setInterfaces, find?_insert_bus]
  split_ifs with hbus hplace hplace
  · rw [getElem?_insert_eq, if_pos hplace.2]
  · rw [getElem?_insert_eq, if_neg fun hpath => hplace ⟨hbus, hpath⟩, getElem?_opMap, hbus]
  · exact absurd hplace.1 hbus
  · rfl

/-- An event is added to the map of its object path. -/
lemma find?_insertEvent (events : GKDBusEvents) (bus : BusConnection) (path interface : String)
    (event : GKDBusEvent) (bus' : BusConnection) (path' : String) :
    (events.insertEvent bus path interface event).find? bus' path' =
      if bus' = bus ∧ path' = path then
        let interMap := (events.find? bus path).getD ∅
        some (interMap.insert interface (interMap.getD interface [] ++ [event]))
      else events.find? bus' path' := by
  have hinterMap : (events.dBusEvents.getD bus ∅).getD path ∅ = (events.find? bus path).getD ∅ := by
    rw [Std.ExtTreeMap.getD_eq_getD_getElem?, getElem?_opMap]
  rw [← hinterMap]
  exact find?_setInterfaces bus path _ bus' path'

section

variable {β : Type} {map : StdMap String β} {key : String}

end

variable {bus : BusConnection} {objectPath interface : String}
  {interMap : StdMap String (List GKDBusEvent)}

/-- Only the map of one object path has changed. -/
structure Replaced (events events' : GKDBusEvents) (bus : BusConnection) (objectPath : String)
    (value : Option (StdMap String (List GKDBusEvent))) : Prop where
  find?_eq : ∀ bus' objectPath', events'.find? bus' objectPath' =
    if bus' = bus ∧ objectPath' = objectPath then value else events.find? bus' objectPath'
  objects_eq : events'.dBusIntrospectableObjects = events.dBusIntrospectableObjects

lemma Replaced.trans {events' events'' : GKDBusEvents}
    {value value' : Option (StdMap String (List GKDBusEvent))}
    (h : Replaced events events' bus objectPath value)
    (h' : Replaced events' events'' bus objectPath value') :
    Replaced events events'' bus objectPath value' where
  find?_eq := by
    intro bus' objectPath'
    rw [h'.find?_eq, h.find?_eq]
    split_ifs <;> rfl
  objects_eq := h'.objects_eq.trans h.objects_eq

end GKDBusEvents

end GLogiK
