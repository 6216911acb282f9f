import GLogiK.DBus.Introspection
import GLogiK.Lib.Listing

/-!
# The objects of the root node

The root node lists the objects of a bus in a container of its own, where the first introspectable
event of an object path puts a name and nothing takes it away. It agrees with the events as long as
no object path loses its introspectable methods.
-/

namespace GLogiK

open Listing

namespace GKDBusEvents

variable {events events' : GKDBusEvents} {bus : BusConnection} {objectPath interface : String}
  {interMap : StdMap String (List GKDBusEvent)}

/-! ### Consistency -/

def XML.object? : XML → Option String
  | .emptyNode name => some name
  | _               => none

def listedObjects (xml : List XML) : List String := xml.filterMap XML.object?

/-- An introspectable method is registered on an object path with these interfaces. -/
def HasMethods (interMap? : Option (StdMap String (List GKDBusEvent))) : Prop :=
  ∃ interMap ∈ interMap?, ∃ interface, ∃ event ∈ interMap.getD interface [],
    event.eventType = .method ∧ event.introspectable = true

/-- An interface is not the `Introspectable` one. -/
def HasOther (interMap : StdMap String (List GKDBusEvent)) : Prop :=
  ∃ interface ∈ interMap, interface ≠ _FREEDESKTOP_DBUS_INTROSPECTABLE_STANDARD_INTERFACE

/-- No object path has only the `Introspectable` interface or none, and the root node of each bus
lists the objects that have introspectable methods on it, each one once. -/
structure Consistent (events : GKDBusEvents) : Prop where
  interfaces : ∀ bus objectPath, ∀ interMap ∈ events.find? bus objectPath, HasOther interMap
  objects : ∀ bus,
    Enumerates getObjectFromObjectPath (listedObjects (events.introspectRootNode bus))
      fun objectPath => HasMethods (events.find? bus objectPath)

lemma listedObjects_introspectRootNode (events : GKDBusEvents) (bus : BusConnection) :
    listedObjects (events.introspectRootNode bus) =
      events.dBusIntrospectableObjects.getD bus [] := by
  have hnodes : ∀ names : List String, (names.map XML.emptyNode).filterMap XML.object? = names := by
    intro names
    rw [List.filterMap_map]
    exact List.filterMap_some
  rw [listedObjects, introspectRootNode, List.filterMap_append, List.filterMap_cons_none rfl,
    List.filterMap_cons_none rfl, hnodes, List.filterMap_cons_none rfl, List.filterMap_nil,
    List.append_nil]

/-! ### Maps of interfaces -/

lemma consistent_start (rootNodePath : String) : Consistent { rootNodePath } := by
  have hnone : ∀ bus objectPath, find? { rootNodePath } bus objectPath = none := by
    intro bus objectPath
    simp [find?]
  refine ⟨fun bus objectPath => ?_, fun bus => ?_⟩
  · rw [hnone]
    intro interMap hsome
    cases hsome
  · rw [listedObjects_introspectRootNode, Std.ExtTreeMap.getD_empty]
    apply enumerates_nil
    intro objectPath
    rw [hnone]
    rintro ⟨_, hsome, _⟩
    cases hsome

end GKDBusEvents

open GKDBusEvents

end GLogiK
