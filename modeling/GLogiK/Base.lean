import Mathlib.Data.Finset.Basic
import Mathlib.Data.UInt
import Mathlib.Tactic.Linarith

/-!
# Basic types

The types and limits of `include/base.hpp` and `include/enums.hpp` that the daemon, the
desktop service and the GUI share.
-/

namespace GLogiK

/-! ### Maps -/

/-- `std::map`. -/
abbrev StdMap (κ β : Type*) [LinearOrder κ] := Std.ExtTreeMap κ β compare

section

variable {κ β : Type*} [LinearOrder κ] (map : StdMap κ β) (k a : κ) (v : β)

instance StdMap.transCmp : Std.TransCmp (compare : κ → κ → Ordering) := inferInstance

instance StdMap.lawfulBEq : @LawfulBEq κ instBEqOfDecidableEq := inferInstance

lemma getElem?_insert_eq : (map.insert k v)[a]? = if a = k then some v else map[a]? := by
  rw [Std.ExtTreeMap.getElem?_insert]
  exact if_congr (compare_eq_iff_eq.trans eq_comm) rfl rfl

lemma getElem?_erase_eq : (map.erase k)[a]? = if a = k then none else map[a]? := by
  rw [Std.ExtTreeMap.getElem?_erase]
  exact if_congr (compare_eq_iff_eq.trans eq_comm) rfl rfl

variable {map k} in
/-- A map that already is as it will be. -/
lemma getElem?_of_eq {value : Option β} (hvalue : map[k]? = value) (a : κ) :
    map[a]? = if a = k then value else map[a]? := by
  split_ifs with ha
  · rw [ha, hvalue]
  · rfl

variable {map} in
lemma mem_of_mem_toList {entry : κ × β} (h : entry ∈ map.toList) : entry.1 ∈ map := by
  have hkey := List.mem_map_of_mem (f := Prod.fst) h
  rwa [Std.ExtTreeMap.map_fst_toList_eq_keys, Std.ExtTreeMap.mem_keys] at hkey

/-- A loop over a map that skips all keys but one. -/
lemma flatMap_toList_of_key {γ : Type*} (f : β → List γ) :
    (map.toList.flatMap fun entry => if k = entry.1 then f entry.2 else []) =
      map[k]?.elim [] f := by
  cases hk : map[k]? with
  | none =>
    rw [Option.elim_none, List.flatMap_eq_nil_iff]
    intro entry hentry
    have hne : k ≠ entry.1 := by
      rintro rfl
      have hmem := Std.ExtTreeMap.mem_iff_isSome_getElem?.mp (mem_of_mem_toList hentry)
      rw [hk] at hmem
      cases hmem
    exact if_neg hne
  | some v =>
    obtain ⟨before, after, htoList⟩ :=
      List.append_of_mem (Std.ExtTreeMap.mem_toList_iff_getElem?_eq_some.mpr hk)
    have hdistinct := Std.ExtTreeMap.distinct_keys_toList (t := map)
    rw [htoList, List.pairwise_append, List.pairwise_cons] at hdistinct
    obtain ⟨-, ⟨hafter, -⟩, hbefore⟩ := hdistinct
    have hskip : ∀ entries : List (κ × β), (∀ entry ∈ entries, k ≠ entry.1) →
        (entries.flatMap fun entry => if k = entry.1 then f entry.2 else []) = [] := by
      intro entries hentries
      exact List.flatMap_eq_nil_iff.mpr fun entry hentry => if_neg (hentries entry hentry)
    rw [htoList, List.flatMap_append, List.flatMap_cons, hskip before ?_, hskip after ?_,
      if_pos rfl, Option.elim_some, List.nil_append, List.append_nil]
    · intro entry hentry hkey
      exact hafter entry hentry (compare_eq_iff_eq.mpr hkey)
    · intro entry hentry hkey
      exact hbefore entry hentry _ List.mem_cons_self (compare_eq_iff_eq.mpr hkey.symm)

lemma find?_toList :
    map.toList.find? (·.1 = k) = map[k]?.map (k, ·) := by
  cases hv : map[k]? with
  | none =>
    rw [Option.map_none, List.find?_eq_none]
    intro item hitem heq
    have hmem := Std.ExtTreeMap.mem_toList_iff_getElem?_eq_some.mp hitem
    rw [of_decide_eq_true heq, hv] at hmem
    cases hmem
  | some v =>
    have hmem : (k, v) ∈ map.toList :=
      Std.ExtTreeMap.mem_toList_iff_getElem?_eq_some.mpr hv
    cases hfind : map.toList.find? (·.1 = k) with
    | none =>
      have := List.find?_eq_none.mp hfind _ hmem
      simp at this
    | some item =>
      have hkey : item.1 = k := by simpa using List.find?_some hfind
      have hitem := Std.ExtTreeMap.mem_toList_iff_getElem?_eq_some.mp
        (List.mem_of_find?_eq_some hfind)
      rw [hkey, hv] at hitem
      cases hitem
      rw [← hkey]
      rfl

lemma find?_eq_of_mem (keys : List κ) (k : κ) :
    keys.find? (· = k) = if k ∈ keys then some k else none := by
  split_ifs with hmem
  · cases hfind : keys.find? (· = k) with
    | none => simpa using List.find?_eq_none.mp hfind k hmem
    | some id =>
      have := List.find?_some hfind
      simp only [decide_eq_true_eq] at this
      rw [this]
  · rw [List.find?_eq_none]
    rintro id hid heq
    exact hmem (of_decide_eq_true heq ▸ hid)

variable {k a} in
/-- A loop that keeps what is there finds the first entry of a key. -/
lemma getElem?_foldl_insertIfNew {α : Type*} (key : α → κ) (value : α → β) (entries : List α) :
    (entries.foldl (fun map entry => map.insertIfNew (key entry) (value entry)) map)[k]? =
      map[k]?.or ((entries.find? (key · = k)).map value) := by
  induction entries generalizing map with
  | nil => rw [List.foldl_nil, List.find?_nil, Option.map_none, Option.or_none]
  | cons entry entries ih =>
    rw [List.foldl_cons, ih, Std.ExtTreeMap.getElem?_insertIfNew]
    by_cases hkey : key entry = k
    · rw [List.find?_cons_of_pos (by simpa using hkey), hkey]
      cases hmap : map[k]? with
      | none => simp [Std.ExtTreeMap.mem_iff_isSome_getElem?, hmap]
      | some v => simp [Std.ExtTreeMap.mem_iff_isSome_getElem?, hmap]
    · rw [List.find?_cons_of_neg (by simpa using hkey)]
      simp [hkey]

/-- The entries of a map, inserted in their order, give the map. -/
lemma foldl_insert_toList :
    map.toList.foldl (fun map entry => map.insert entry.1 entry.2) (∅ : StdMap κ β) = map := by
  rw [← Std.ExtTreeMap.insertMany_list_eq_foldl, ← Std.ExtTreeMap.ofList_eq_insertMany_empty]
  apply Std.ExtTreeMap.ext_getElem?
  intro k
  cases hk : map[k]? with
  | some v =>
    have hmem : (k, v) ∈ map.toList := Std.ExtTreeMap.mem_toList_iff_getElem?_eq_some.mpr hk
    exact Std.ExtTreeMap.getElem?_ofList_of_mem (compare_eq_iff_eq.mpr rfl)
      Std.ExtTreeMap.distinct_keys_toList hmem
  | none =>
    apply Std.ExtTreeMap.getElem?_ofList_of_contains_eq_false
    rw [← Bool.not_eq_true, List.contains_iff_mem, Std.ExtTreeMap.map_fst_toList_eq_keys,
      Std.ExtTreeMap.mem_keys, Std.ExtTreeMap.mem_iff_isSome_getElem?, hk]
    exact Bool.false_ne_true

end

/-! ### Key events and macros -/

/-- Above this size, events other than key releases are ignored while recording. -/
def MACRO_T_KEYPRESS_MAX_SIZE : ℕ := 16

/-- Above this size, events are simply ignored. -/
def MACRO_T_MAX_SIZE : ℕ := 24

inductive EventValue
  | eventKeyRelease
  | eventKeyPress
  | eventKeyUnknown
  deriving DecidableEq, Repr

structure KeyEvent where
  code : UInt8
  event : EventValue
  interval : UInt16
  deriving DecidableEq, Repr

/-- `macro_type`. -/
abbrev MacroType := List KeyEvent

/-! ### Banks and G-keys -/

inductive MKeysID
  | m0
  | m1
  | m2
  | m3
  deriving DecidableEq, Repr

/-- `GKEY_G0` (0, invalid) to `GKEY_G18`. -/
abbrev GKeysID := Fin 19

instance GKeysID.neZero : NeZero 19 := ⟨by decide⟩

def GKeyID_INV : GKeysID := 0

/-! ### Leds and capabilities of a device -/

inductive Leds
  | m1
  | m2
  | m3
  | mr
  deriving DecidableEq, Repr

def Leds.mask : Leds → UInt8
  | .m1 => 1
  | .m2 => 2
  | .m3 => 4
  | .mr => 8

inductive Caps
  | backlightColor
  | macrosKeys
  | mediaKeys
  | lcdScreen
  deriving DecidableEq, Repr

def Caps.mask : Caps → UInt64
  | .backlightColor => 1
  | .macrosKeys     => 2
  | .mediaKeys      => 4
  | .lcdScreen      => 8

/-- The plugins `setDeviceLCDPluginsMask` enables by default. -/
def GK_LCD_SPLASHSCREEN : UInt64 := 1

def GK_LCD_SYSTEM_MONITOR : UInt64 := 2

end GLogiK
