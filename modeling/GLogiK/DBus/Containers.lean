import GLogiK.DBus.ArgTypes

/-!
# The containers of a message

libdbus requires that what is appended to a container has the type with which the container was
opened. An empty string is replaced by a number, which no container here was opened for.
-/

namespace GLogiK

/-- The arguments that are appended to containers and have strings. -/
inductive StringsArgument
  | stringArray (stringArray : List String)
  | lcdPPArray (pluginsArray : LCDPPArray)
  | depsMap (depsMap : GKDepsMap)

namespace StringsArgument

def append : StringsArgument → List Value
  | .stringArray values => appendStringArray values
  | .lcdPPArray plugins => appendLCDPPArray plugins
  | .depsMap map        => appendGKDepsMap map

/-- The strings of the value, at any depth. -/
def strings : StringsArgument → List String
  | .stringArray values => values
  | .lcdPPArray plugins => plugins.flatMap fun plugin => [plugin.name, plugin.desc]
  | .depsMap map        => map.toList.flatMap fun entry =>
      entry.2.flatMap fun dep => [dep.dependency, dep.compileTimeVersion, dep.runTimeVersion]

end StringsArgument

/-! ### Strings and containers -/

lemma type_appendString (value : String) :
    (appendString value).type = .basic (if value = "" then .uint64 else .string) := by
  simp only [appendString, String.isEmpty_iff]
  split_ifs <;> rfl

lemma wellFormed_appendString (value : String) : (appendString value).WellFormed := by
  simp only [appendString]
  split_ifs <;> trivial

/-- An empty string has another type than the one that its container wants. -/
lemma type_appendString_eq_string {value : String} :
    (appendString value).type = .basic .string ↔ value ≠ "" := by
  rw [type_appendString]
  by_cases hempty : value = "" <;> simp [hempty]

lemma elementsOf_map {α : Type} {element : DBusType} {append : α → Value} {values : List α} :
    ElementsOf element (values.map append) ↔
      ∀ value ∈ values, (append value).type = element ∧ (append value).WellFormed := by
  induction values with
  | nil => simp [ElementsOf]
  | cons value values ih => simp [ElementsOf, ih]

/-- An array of strings. -/
lemma elementsOf_strings {values : List String} :
    ElementsOf (.basic .string) (values.map appendString) ↔ ∀ value ∈ values, value ≠ "" := by
  rw [elementsOf_map]
  refine forall₂_congr fun value _ => ?_
  rw [type_appendString_eq_string]
  exact and_iff_left (wellFormed_appendString value)

lemma elementsOf_appendLCDPP {pluginsArray : LCDPPArray} :
    ElementsOf LCDPP.type (pluginsArray.map appendLCDPP) ↔
      ∀ plugin ∈ pluginsArray, plugin.name ≠ "" ∧ plugin.desc ≠ "" := by
  rw [elementsOf_map]
  refine forall₂_congr fun plugin _ => ?_
  have hwf : (appendLCDPP plugin).WellFormed :=
    ⟨List.cons_ne_nil _ _, trivial, wellFormed_appendString _, wellFormed_appendString _, trivial⟩
  rw [and_iff_left hwf]
  simp [LCDPP.type, appendLCDPP, Value.type, typesOf, appendUInt64, Basic.type,
    type_appendString_eq_string]

lemma elementsOf_appendGKDependency {deps : GKDepsArray} :
    ElementsOf GKDependency.type (deps.map appendGKDependency) ↔
      ∀ dep ∈ deps, dep.dependency ≠ "" ∧ dep.compileTimeVersion ≠ "" ∧
        dep.runTimeVersion ≠ "" := by
  rw [elementsOf_map]
  refine forall₂_congr fun dep _ => ?_
  have hwf : (appendGKDependency dep).WellFormed :=
    ⟨List.cons_ne_nil _ _, wellFormed_appendString _, wellFormed_appendString _,
      wellFormed_appendString _, trivial⟩
  rw [and_iff_left hwf]
  simp [GKDependency.type, appendGKDependency, Value.type, typesOf, type_appendString_eq_string]

/-- The entries of the map are of their type, whatever the dependencies are. -/
lemma elementsOf_appendGKDepsMapEntry {entries : List (GKBinary × GKDepsArray)} :
    ElementsOf GKDepsMap.entryType (entries.map appendGKDepsMapEntry) ↔
      ∀ entry ∈ entries, ElementsOf GKDependency.type (entry.2.map appendGKDependency) := by
  rw [elementsOf_map]
  refine forall₂_congr fun entry _ => ?_
  constructor
  · intro h
    exact h.2.2.2.2.1
  · intro h
    exact ⟨rfl, List.cons_ne_nil _ _, trivial, trivial, h, trivial⟩

/-! ### The containers of the arguments -/

lemma wellFormedAll_size_array {size : ℕ} {element : DBusType} {elements : List Value} :
    WellFormedAll [appendUInt64 size, .array element elements] ↔ ElementsOf element elements := by
  simp [WellFormedAll, Value.WellFormed, appendUInt64]

/-- Every value is appended with the type that its container wants just when no string is empty. -/
theorem wellFormedAll_append_iff (arg : StringsArgument) :
    WellFormedAll arg.append ↔ "" ∉ arg.strings := by
  cases arg with
  | stringArray values =>
    apply wellFormedAll_size_array.trans
    rw [elementsOf_strings]
    simp only [StringsArgument.strings]
    exact ⟨fun h hmem => h "" hmem rfl, fun h value hmem hempty => h (hempty ▸ hmem)⟩
  | lcdPPArray plugins =>
    apply wellFormedAll_size_array.trans
    rw [elementsOf_appendLCDPP]
    simp [StringsArgument.strings, @eq_comm String ""]
  | depsMap map =>
    apply wellFormedAll_size_array.trans
    rw [elementsOf_appendGKDepsMapEntry]
    simp only [elementsOf_appendGKDependency]
    simp [StringsArgument.strings, @eq_comm String ""]

/-- An array of one empty string holds a number. -/
theorem not_wellFormedAll_emptyString :
    ¬ WellFormedAll (StringsArgument.stringArray [""]).append := by
  intro h
  obtain ⟨-, ⟨⟨htype, -⟩, -⟩, -⟩ := h
  cases htype

end GLogiK
