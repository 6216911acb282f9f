import GLogiK.Keyboard.Changes
import GLogiK.Macro.Balanced

/-!
# Replaying what was recorded

Which reports are recorded faithfully: playing the recorded macro leaves down the keys that are
down in the last report. The changes of a report are right for exactly the reports that satisfy
`ReportOK`, and a run is right in every state when all its reports are.
-/

namespace GLogiK

variable {δ : Type*}

/-! ### Playing changes -/

def playChange (down : Finset UInt8) (c : Change) : Finset UInt8 :=
  match c.2 with
  | .eventKeyPress   => insert c.1 down
  | .eventKeyRelease => down.erase c.1
  | .eventKeyUnknown => down

def playChanges (down : Finset UInt8) (l : List Change) : Finset UInt8 := l.foldl playChange down

/-- The changes that a macro stores. -/
def macroChanges (m : MacroType) : List Change := m.map fun e => (e.code, e.event)

lemma foldl_play_eq (down : Finset UInt8) (m : MacroType) :
    m.foldl KeyEvent.play down = playChanges down (macroChanges m) := by
  induction m generalizing down with
  | nil => rfl
  | cons e m ih => exact ih _

section

variable {c : UInt8} {down : Finset UInt8} {l : List Change}

lemma mem_or_press_of_mem_play (h : c ∈ playChanges down l) :
    c ∈ down ∨ (c, .eventKeyPress) ∈ l := by
  induction l generalizing down with
  | nil => exact Or.inl h
  | cons x l ih =>
    obtain ⟨code, event⟩ := x
    rcases ih h with h | h
    · cases event with
      | eventKeyPress =>
        rcases Finset.mem_insert.mp h with rfl | h
        · exact Or.inr List.mem_cons_self
        · exact Or.inl h
      | eventKeyRelease => exact Or.inl (Finset.mem_of_mem_erase h)
      | eventKeyUnknown => exact Or.inl h
    · exact Or.inr (List.mem_cons_of_mem _ h)

lemma mem_play_of_mem (h : c ∈ down) (hl : (c, .eventKeyRelease) ∉ l) :
    c ∈ playChanges down l := by
  induction l generalizing down with
  | nil => exact h
  | cons x l ih =>
    obtain ⟨code, event⟩ := x
    rw [List.mem_cons, not_or] at hl
    obtain ⟨hx, hl⟩ := hl
    refine ih ?_ hl
    cases event with
    | eventKeyPress => exact Finset.mem_insert_of_mem h
    | eventKeyRelease => exact Finset.mem_erase.mpr ⟨fun hc => hx (by rw [hc]), h⟩
    | eventKeyUnknown => exact h

lemma mem_play_of_press (h : (c, .eventKeyPress) ∈ l) (hl : (c, .eventKeyRelease) ∉ l) :
    c ∈ playChanges down l := by
  induction l generalizing down with
  | nil => cases h
  | cons x l ih =>
    rw [List.mem_cons, not_or] at hl
    obtain ⟨_, hl⟩ := hl
    rcases List.mem_cons.mp h with rfl | h
    · have hplay : c ∈ playChanges (insert c down) l :=
        mem_play_of_mem (Finset.mem_insert_self c down) hl
      exact hplay
    · exact ih h hl

/-- Every release of the key is followed by a press of it. -/
def Repressed (c : UInt8) : List Change → Prop
  | [] => True
  | x :: l => (x = (c, .eventKeyRelease) → (c, .eventKeyPress) ∈ l) ∧ Repressed c l

lemma mem_play_of_repressed (h : Repressed c l) (hl : (c, .eventKeyRelease) ∈ l) :
    c ∈ playChanges down l := by
  induction l generalizing down with
  | nil => cases hl
  | cons x l ih =>
    by_cases hrest : (c, .eventKeyRelease) ∈ l
    · exact ih h.2 hrest
    · have hx : x = (c, .eventKeyRelease) := ((List.mem_cons.mp hl).resolve_right hrest).symm
      subst hx
      have hplay : c ∈ playChanges (down.erase c) l := mem_play_of_press (h.1 rfl) hrest
      exact hplay

lemma press_of_repressed (h : Repressed c l) (hl : (c, .eventKeyRelease) ∈ l) :
    (c, .eventKeyPress) ∈ l := by
  induction l with
  | nil => cases hl
  | cons x l ih =>
    rcases List.mem_cons.mp hl with hx | hl
    · exact List.mem_cons_of_mem _ (h.1 hx.symm)
    · exact List.mem_cons_of_mem _ (ih h.2 hl)

lemma repressed_of_mem_play (h : c ∈ playChanges down l) : Repressed c l := by
  induction l generalizing down with
  | nil => trivial
  | cons x l ih =>
    refine ⟨?_, ih h⟩
    rintro rfl
    have hplay : c ∈ playChanges (down.erase c) l := h
    exact (mem_or_press_of_mem_play hplay).resolve_left (Finset.notMem_erase c down)

end

/-- When the changes press keys of `after` only, they lead from `down` to `after` exactly when
they account for every difference and press again what they release and what stays down. -/
lemma play_eq_iff {down after : Finset UInt8} {l : List Change}
    (hpress : ∀ c, (c, .eventKeyPress) ∈ l → c ∈ after) :
    playChanges down l = after ↔
      (∀ c ∈ down, c ∉ after → (c, .eventKeyRelease) ∈ l) ∧
      (∀ c ∈ after, c ∉ down → (c, .eventKeyPress) ∈ l) ∧ ∀ c ∈ after, Repressed c l := by
  constructor
  · rintro rfl
    refine ⟨fun c hc hnot => ?_, fun c hc hnot => ?_, fun c hc => repressed_of_mem_play hc⟩
    · by_contra hl
      exact hnot (mem_play_of_mem hc hl)
    · exact (mem_or_press_of_mem_play hc).resolve_left hnot
  · rintro ⟨hreleased, hpressed, hagain⟩
    ext c
    constructor
    · intro hc
      by_contra hnot
      rcases mem_or_press_of_mem_play hc with hdown | hl
      · -- the key was released and is down, so it was pressed again
        have hrel := hreleased c hdown hnot
        have hrep := repressed_of_mem_play hc
        exact hnot (hpress c (press_of_repressed hrep hrel))
      · exact hnot (hpress c hl)
    · intro hc
      by_cases hrel : (c, .eventKeyRelease) ∈ l
      · exact mem_play_of_repressed (hagain c hc) hrel
      · by_cases hdown : c ∈ down
        · exact mem_play_of_mem hdown hrel
        · exact mem_play_of_press (hpressed c hc hdown) hrel

/-! ### Keys of a report -/

/-- The keys and modifiers that are down in a report. -/
def downKeys (r : KeysBuffer) : Finset UInt8 :=
  ((modifierKeys.filter (·.isIn (r 1))).map (·.code)).toFinset ∪
    ((keySlots.filter (r · ≠ 0)).map fun i => hidKeyboard (r i)).toFinset

section

variable (previous pressed : KeysBuffer) (c : UInt8)

/-- A modifier with the code is set in the new report only. -/
def ModifierPressed : Prop :=
  ∃ k ∈ modifierKeys, k.isIn (pressed 1) ∧ ¬ k.isIn (previous 1) ∧ k.code = c

/-- A modifier with the code is set in the previous report only. -/
def ModifierReleased : Prop :=
  ∃ k ∈ modifierKeys, k.isIn (previous 1) ∧ ¬ k.isIn (pressed 1) ∧ k.code = c

/-- Byte `i` was empty and now has a key with the code. -/
def SlotPressed (i : Fin 8) : Prop :=
  previous i = 0 ∧ pressed i ≠ 0 ∧ hidKeyboard (pressed i) = c

/-- Byte `i` had a key with the code and is now empty. -/
def SlotReleased (i : Fin 8) : Prop :=
  previous i ≠ 0 ∧ pressed i = 0 ∧ hidKeyboard (previous i) = c

/-- Where the report releases the code, it has it again in a byte that is read later. -/
def ComesBack : Prop :=
  (ModifierReleased previous pressed c → ∃ i ∈ keySlots, SlotPressed previous pressed c i) ∧
    ∀ i ∈ keySlots, SlotReleased previous pressed c i →
      ∃ j ∈ keySlots, j < i ∧ SlotPressed previous pressed c j

instance : Decidable (ModifierPressed previous pressed c) :=
  inferInstanceAs (Decidable (∃ k ∈ modifierKeys, _))

instance : Decidable (ModifierReleased previous pressed c) :=
  inferInstanceAs (Decidable (∃ k ∈ modifierKeys, _))

instance (i : Fin 8) : Decidable (SlotPressed previous pressed c i) :=
  inferInstanceAs (Decidable (_ ∧ _))

instance (i : Fin 8) : Decidable (SlotReleased previous pressed c i) :=
  inferInstanceAs (Decidable (_ ∧ _))

instance : Decidable (ComesBack previous pressed c) :=
  haveI : DecidablePred fun i => SlotReleased previous pressed c i →
      ∃ j ∈ keySlots, j < i ∧ SlotPressed previous pressed c j := fun _ => inferInstance
  inferInstanceAs (Decidable (_ ∧ ∀ i ∈ keySlots, _))

end

lemma mem_downKeys {r : KeysBuffer} {c : UInt8} :
    c ∈ downKeys r ↔ (∃ k ∈ modifierKeys, k.isIn (r 1) ∧ k.code = c) ∨
      ∃ i ∈ keySlots, r i ≠ 0 ∧ hidKeyboard (r i) = c := by
  simp only [downKeys, Finset.mem_union, List.mem_toFinset, List.mem_map, List.mem_filter,
    and_assoc, decide_eq_true_eq]

/-- A report that is recorded faithfully after the report `previous`. -/
structure ChangesOK (previous pressed : KeysBuffer) : Prop where
  /-- modifiers are only pressed or only released -/
  oneWay : (∀ k ∈ modifierKeys, k.isIn (previous 1) → k.isIn (pressed 1)) ∨
    ∀ k ∈ modifierKeys, k.isIn (pressed 1) → k.isIn (previous 1)
  /-- a key that goes up leaves an empty byte -/
  goesUp : ∀ c ∈ downKeys previous, c ∉ downKeys pressed →
    ModifierReleased previous pressed c ∨ ∃ i ∈ keySlots, SlotReleased previous pressed c i
  /-- a key that goes down is in a byte that was empty -/
  goesDown : ∀ c ∈ downKeys pressed, c ∉ downKeys previous →
    ModifierPressed previous pressed c ∨ ∃ i ∈ keySlots, SlotPressed previous pressed c i
  /-- a key that stays down and leaves its place comes back -/
  moves : ∀ c ∈ downKeys pressed, ComesBack previous pressed c

/-! ### The changes of a report -/

lemma keyChange_eq_press {previous pressed c : UInt8} :
    keyChange previous pressed = some (c, .eventKeyPress) ↔
      previous = 0 ∧ pressed ≠ 0 ∧ hidKeyboard pressed = c := by
  rw [keyChange]
  split_ifs with heq hprev hpressed
  · simp; grind
  · simp; grind
  · simp; grind
  · simp; grind

lemma keyChange_eq_release {previous pressed c : UInt8} :
    keyChange previous pressed = some (c, .eventKeyRelease) ↔
      previous ≠ 0 ∧ pressed = 0 ∧ hidKeyboard previous = c := by
  rw [keyChange]
  split_ifs with heq hprev hpressed
  · simp; grind
  · simp; grind
  · simp; grind
  · simp; grind

lemma press_mem_keyChanges {previous pressed : KeysBuffer} {c : UInt8} :
    (c, .eventKeyPress) ∈ keyChanges previous pressed ↔
      ∃ i ∈ keySlots, SlotPressed previous pressed c i := by
  simp only [keyChanges, List.mem_filterMap, keyChange_eq_press, SlotPressed]

lemma release_mem_keyChanges {previous pressed : KeysBuffer} {c : UInt8} :
    (c, .eventKeyRelease) ∈ keyChanges previous pressed ↔
      ∃ i ∈ keySlots, SlotReleased previous pressed c i := by
  simp only [keyChanges, List.mem_filterMap, keyChange_eq_release, SlotReleased]

/-- In a list of bytes in decreasing order, what follows a byte are the smaller ones. -/
lemma repressed_filterMap {previous pressed : KeysBuffer} {c : UInt8} {slots : List (Fin 8)}
    (hslots : slots.Pairwise (· > ·)) :
    Repressed c (slots.filterMap fun i => keyChange (previous i) (pressed i)) ↔
      ∀ i ∈ slots, SlotReleased previous pressed c i →
        ∃ j ∈ slots, j < i ∧ SlotPressed previous pressed c j := by
  induction slots with
  | nil => simp [Repressed]
  | cons i slots ih =>
    obtain ⟨hi, hslots⟩ := List.pairwise_cons.mp hslots
    have hcons : Repressed c ((i :: slots).filterMap fun i => keyChange (previous i) (pressed i)) ↔
        (SlotReleased previous pressed c i → ∃ j ∈ slots, SlotPressed previous pressed c j) ∧
        Repressed c (slots.filterMap fun i => keyChange (previous i) (pressed i)) := by
      have hrel : SlotReleased previous pressed c i ↔
        keyChange (previous i) (pressed i) = some (c, .eventKeyRelease) := keyChange_eq_release.symm
      have hpress : (c, .eventKeyPress) ∈
          (slots.filterMap fun i => keyChange (previous i) (pressed i)) ↔
          ∃ j ∈ slots, SlotPressed previous pressed c j := by
        simp only [List.mem_filterMap, keyChange_eq_press, SlotPressed]
      rw [hrel, ← hpress, List.filterMap_cons]
      cases keyChange (previous i) (pressed i) with
      | none => simp
      | some x => simp [Repressed]
    rw [hcons, ih hslots, List.forall_mem_cons]
    refine and_congr ?_ ?_
    · refine imp_congr_right fun _ => ⟨?_, ?_⟩
      · rintro ⟨j, hj, hp⟩
        exact ⟨j, List.mem_cons_of_mem _ hj, hi j hj, hp⟩
      · rintro ⟨j, hj, hlt, hp⟩
        rcases List.mem_cons.mp hj with rfl | hj
        · exact absurd hlt (lt_irrefl _)
        · exact ⟨j, hj, hp⟩
    · refine forall₂_congr fun k hk => imp_congr_right fun _ => ⟨?_, ?_⟩
      · rintro ⟨j, hj, hlt, hp⟩
        exact ⟨j, List.mem_cons_of_mem _ hj, hlt, hp⟩
      · rintro ⟨j, hj, hlt, hp⟩
        rcases List.mem_cons.mp hj with rfl | hj
        · exact absurd hlt (not_lt.mpr (hi k hk).le)
        · exact ⟨j, hj, hlt, hp⟩

lemma repressed_append {c : UInt8} {u v : List Change}
    (h : (c, .eventKeyPress) ∉ u ∨ (c, .eventKeyRelease) ∉ u) :
    Repressed c (u ++ v) ↔
      ((c, .eventKeyRelease) ∈ u → (c, .eventKeyPress) ∈ v) ∧ Repressed c v := by
  induction u with
  | nil => simp
  | cons x u ih =>
    have hu : (c, .eventKeyPress) ∉ u ∨ (c, .eventKeyRelease) ∉ u :=
      h.imp (fun h hu => h (List.mem_cons_of_mem _ hu)) fun h hu => h (List.mem_cons_of_mem _ hu)
    rw [List.cons_append, Repressed, ih hu]
    constructor
    · rintro ⟨hx, hrest, hv⟩
      refine ⟨fun hmem => ?_, hv⟩
      rcases List.mem_cons.mp hmem with rfl | hmem
      · rcases List.mem_append.mp (hx rfl) with hp | hp
        · rcases h with h | h
          · exact absurd (List.mem_cons_of_mem _ hp) h
          · exact absurd List.mem_cons_self h
        · exact hp
      · exact hrest hmem
    · rintro ⟨hall, hv⟩
      refine ⟨?_, fun hmem => hall (List.mem_cons_of_mem _ hmem), hv⟩
      rintro rfl
      exact List.mem_append_right _ (hall List.mem_cons_self)

/-! ### The modifier byte -/

lemma isIn_get (i : Fin modifierKeys.length) (b : UInt8) :
    (modifierKeys.get i).isIn b = b.toBitVec.getLsbD i := by
  revert i
  exact forall_uint8 (p := fun b => ∀ i : Fin modifierKeys.length,
    (modifierKeys.get i).isIn b = b.toBitVec.getLsbD i) (by decide +kernel) b

lemma getLsbD_of_isIn {a b : UInt8} (h : ∀ k ∈ modifierKeys, k.isIn a → k.isIn b) {i : ℕ}
    (hi : i < 8) (ha : a.toBitVec.getLsbD i) : b.toBitVec.getLsbD i := by
  have hbit := h (modifierKeys.get ⟨i, hi⟩) (List.get_mem _ _)
  rw [isIn_get, isIn_get] at hbit
  exact hbit ha

/-- Subtracting a part of the bits removes them. -/
lemma sub_eq_of_isIn {a b : UInt8} (h : ∀ k ∈ modifierKeys, k.isIn a → k.isIn b) :
    (b - a).toBitVec = b.toBitVec &&& ~~~a.toBitVec ∧ a ≤ b := by
  have hdisj : (b.toBitVec &&& ~~~a.toBitVec) &&& a.toBitVec = 0#8 := by
    simp [BitVec.and_assoc]
  have hor : (b.toBitVec &&& ~~~a.toBitVec) ||| a.toBitVec = b.toBitVec := by
    refine BitVec.eq_of_getLsbD_eq fun i hi => ?_
    simp only [BitVec.getLsbD_or, BitVec.getLsbD_and, BitVec.getLsbD_not, hi, decide_true,
      Bool.true_and]
    cases ha : a.toBitVec.getLsbD i with
    | false => simp
    | true => simp [getLsbD_of_isIn h hi ha]
  have hadd := BitVec.add_eq_or_of_and_eq_zero _ _ hdisj
  rw [hor] at hadd
  constructor
  · calc (b - a).toBitVec = b.toBitVec - a.toBitVec := UInt8.toBitVec_sub
      _ = ((b.toBitVec &&& ~~~a.toBitVec) + a.toBitVec) - a.toBitVec := by rw [hadd]
      _ = b.toBitVec &&& ~~~a.toBitVec := BitVec.add_sub_cancel _ _
  · have hnat := BitVec.toNat_add_of_and_eq_zero hdisj
    rw [hadd] at hnat
    rw [UInt8.le_iff_toNat_le, ← UInt8.toNat_toBitVec, ← UInt8.toNat_toBitVec, hnat]
    exact Nat.le_add_left _ _

lemma isIn_sub {a b : UInt8} (h : ∀ k ∈ modifierKeys, k.isIn a → k.isIn b) {k : ModifierKey}
    (hk : k ∈ modifierKeys) : k.isIn (b - a) ↔ k.isIn b ∧ ¬ k.isIn a := by
  obtain ⟨i, rfl⟩ := List.mem_iff_get.mp hk
  have hi : (i : ℕ) < 8 := i.isLt
  rw [isIn_get, isIn_get, isIn_get, (sub_eq_of_isIn h).1, BitVec.getLsbD_and,
    BitVec.getLsbD_not]
  simp [hi]

/-- The modifier changes of one report are all of one kind. -/
lemma modifierChanges_oneKind {p q c c' : UInt8}
    (hpress : (c, .eventKeyPress) ∈ modifierChanges p q)
    (hrelease : (c', .eventKeyRelease) ∈ modifierChanges p q) : False := by
  rw [modifierChanges] at hpress hrelease
  split_ifs at hpress hrelease
  · cases hpress
  · simp at hpress
  · simp at hrelease

lemma mem_modifierChanges_of_grow {p q c : UInt8} {event : EventValue}
    (h : ∀ k ∈ modifierKeys, k.isIn p → k.isIn q) :
    (c, event) ∈ modifierChanges p q ↔
      event = .eventKeyPress ∧ ∃ k ∈ modifierKeys, k.isIn q ∧ ¬ k.isIn p ∧ k.code = c := by
  rw [modifierChanges]
  by_cases heq : p = q
  · subst heq
    refine ⟨by simp, ?_⟩
    rintro ⟨_, k, _, hq, hp, _⟩
    exact absurd hq hp
  · rw [if_neg heq, if_neg (UInt8.not_lt.mpr (sub_eq_of_isIn h).2), List.mem_map]
    constructor
    · rintro ⟨k, hk, hkc⟩
      obtain ⟨hk, hin⟩ := List.mem_filter.mp hk
      cases hkc
      obtain ⟨hq, hp⟩ := (isIn_sub h hk).mp hin
      exact ⟨rfl, k, hk, hq, hp, rfl⟩
    · rintro ⟨rfl, k, hk, hq, hp, rfl⟩
      exact ⟨k, List.mem_filter.mpr ⟨hk, (isIn_sub h hk).mpr ⟨hq, hp⟩⟩, rfl⟩

lemma mem_modifierChanges_of_shrink {p q c : UInt8} {event : EventValue}
    (h : ∀ k ∈ modifierKeys, k.isIn q → k.isIn p) :
    (c, event) ∈ modifierChanges p q ↔
      event = .eventKeyRelease ∧ ∃ k ∈ modifierKeys, k.isIn p ∧ ¬ k.isIn q ∧ k.code = c := by
  rw [modifierChanges]
  by_cases heq : p = q
  · subst heq
    refine ⟨by simp, ?_⟩
    rintro ⟨_, k, _, hp, hq, _⟩
    exact absurd hp hq
  · have hlt : p > q := UInt8.lt_of_le_of_ne (sub_eq_of_isIn h).2 (Ne.symm heq)
    rw [if_neg heq, if_pos hlt, List.mem_map]
    constructor
    · rintro ⟨k, hk, hkc⟩
      obtain ⟨hk, hin⟩ := List.mem_filter.mp hk
      cases hkc
      obtain ⟨hp, hq⟩ := (isIn_sub h hk).mp hin
      exact ⟨rfl, k, hk, hp, hq, rfl⟩
    · rintro ⟨rfl, k, hk, hp, hq, rfl⟩
      exact ⟨k, List.mem_filter.mpr ⟨hk, (isIn_sub h hk).mpr ⟨hp, hq⟩⟩, rfl⟩

section

variable {previous pressed : KeysBuffer}

/-- When modifiers go one way, the byte's changes are those of its bits. -/
lemma mem_modifierChanges (h : (∀ k ∈ modifierKeys, k.isIn (previous 1) → k.isIn (pressed 1)) ∨
      ∀ k ∈ modifierKeys, k.isIn (pressed 1) → k.isIn (previous 1)) (c : UInt8) :
    ((c, .eventKeyPress) ∈ modifierChanges (previous 1) (pressed 1) ↔
        ModifierPressed previous pressed c) ∧
      ((c, .eventKeyRelease) ∈ modifierChanges (previous 1) (pressed 1) ↔
        ModifierReleased previous pressed c) := by
  rcases h with h | h
  · rw [mem_modifierChanges_of_grow h, mem_modifierChanges_of_grow h]
    refine ⟨⟨fun hc => hc.2, fun hc => ⟨rfl, hc⟩⟩, ⟨fun hc => (nomatch hc.1), ?_⟩⟩
    rintro ⟨k, hk, hp, hq, _⟩
    exact absurd (h k hk hp) hq
  · rw [mem_modifierChanges_of_shrink h, mem_modifierChanges_of_shrink h]
    refine ⟨⟨fun hc => (nomatch hc.1), ?_⟩, ⟨fun hc => hc.2, fun hc => ⟨rfl, hc⟩⟩⟩
    rintro ⟨k, hk, hq, hp, _⟩
    exact absurd (h k hk hq) hp

/-! ### One report -/

/-- Every modifier that was newly set has its press among the changes, and every modifier that
was newly cleared its release. -/
def ModifiersSeen (previous pressed : KeysBuffer) (l : List Change) : Prop :=
  ∀ k ∈ modifierKeys,
    (k.isIn (pressed 1) → ¬ k.isIn (previous 1) → (k.code, .eventKeyPress) ∈ l) ∧
    (k.isIn (previous 1) → ¬ k.isIn (pressed 1) → (k.code, .eventKeyRelease) ∈ l)

lemma oneWay_of_modifiersSeen
    (h : ModifiersSeen previous pressed (modifierChanges (previous 1) (pressed 1))) :
    (∀ k ∈ modifierKeys, k.isIn (previous 1) → k.isIn (pressed 1)) ∨
      ∀ k ∈ modifierKeys, k.isIn (pressed 1) → k.isIn (previous 1) := by
  by_contra hnot
  push Not at hnot
  obtain ⟨⟨k, hk, hp, hq⟩, ⟨k', hk', hq', hp'⟩⟩ := hnot
  exact modifierChanges_oneKind ((h k' hk').1 hq' hp') ((h k hk).2 hp hq)

lemma press_mem_downKeys (h : (∀ k ∈ modifierKeys, k.isIn (previous 1) → k.isIn (pressed 1)) ∨
      ∀ k ∈ modifierKeys, k.isIn (pressed 1) → k.isIn (previous 1)) (c : UInt8)
    (hc : (c, .eventKeyPress) ∈ changes previous pressed) : c ∈ downKeys pressed := by
  rw [mem_downKeys]
  rcases List.mem_append.mp hc with hc | hc
  · obtain ⟨k, hk, hin, _, hcode⟩ := (mem_modifierChanges h c).1.mp hc
    exact Or.inl ⟨k, hk, hin, hcode⟩
  · obtain ⟨i, hi, _, hne, hcode⟩ := press_mem_keyChanges.mp hc
    exact Or.inr ⟨i, hi, hne, hcode⟩

lemma repressed_changes (h : (∀ k ∈ modifierKeys, k.isIn (previous 1) → k.isIn (pressed 1)) ∨
      ∀ k ∈ modifierKeys, k.isIn (pressed 1) → k.isIn (previous 1)) (c : UInt8) :
    Repressed c (changes previous pressed) ↔ ComesBack previous pressed c := by
  have hkind : (c, .eventKeyPress) ∉ modifierChanges (previous 1) (pressed 1) ∨
      (c, .eventKeyRelease) ∉ modifierChanges (previous 1) (pressed 1) := by
    by_contra hnot
    push Not at hnot
    exact modifierChanges_oneKind hnot.1 hnot.2
  rw [changes, repressed_append hkind, (mem_modifierChanges h c).2, press_mem_keyChanges,
    keyChanges, repressed_filterMap (by decide), ComesBack]

/-- The changes of a report lead from the keys of the previous report to its own, and show every
modifier that changed, exactly when the report is `ChangesOK`. -/
theorem changesOK_iff :
    (playChanges (downKeys previous) (changes previous pressed) = downKeys pressed ∧
      ModifiersSeen previous pressed (modifierChanges (previous 1) (pressed 1))) ↔
      ChangesOK previous pressed := by
  constructor
  · rintro ⟨hplay, hseen⟩
    have h := oneWay_of_modifiersSeen hseen
    obtain ⟨hup, hdown, hmoves⟩ := (play_eq_iff (press_mem_downKeys h)).mp hplay
    refine ⟨h, fun c hc hnot => ?_, fun c hc hnot => ?_, fun c hc => ?_⟩
    · rcases List.mem_append.mp (hup c hc hnot) with hl | hl
      · exact Or.inl ((mem_modifierChanges h c).2.mp hl)
      · exact Or.inr (release_mem_keyChanges.mp hl)
    · rcases List.mem_append.mp (hdown c hc hnot) with hl | hl
      · exact Or.inl ((mem_modifierChanges h c).1.mp hl)
      · exact Or.inr (press_mem_keyChanges.mp hl)
    · exact (repressed_changes h c).mp (hmoves c hc)
  · rintro ⟨h, hup, hdown, hmoves⟩
    refine ⟨(play_eq_iff (press_mem_downKeys h)).mpr
      ⟨fun c hc hnot => ?_, fun c hc hnot => ?_, fun c hc => ?_⟩, fun k hk => ⟨?_, ?_⟩⟩
    · rcases hup c hc hnot with hl | hl
      · exact List.mem_append_left _ ((mem_modifierChanges h c).2.mpr hl)
      · exact List.mem_append_right _ (release_mem_keyChanges.mpr hl)
    · rcases hdown c hc hnot with hl | hl
      · exact List.mem_append_left _ ((mem_modifierChanges h c).1.mpr hl)
      · exact List.mem_append_right _ (press_mem_keyChanges.mpr hl)
    · exact (repressed_changes h c).mpr (hmoves c hc)
    · exact fun hq hp => (mem_modifierChanges h k.code).1.mpr ⟨k, hk, hq, hp, rfl⟩
    · exact fun hp hq => (mem_modifierChanges h k.code).2.mpr ⟨k, hk, hp, hq, rfl⟩

end

end GLogiK
