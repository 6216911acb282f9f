import GLogiK.Macro.Matching

/-!
# Size and balance of checked macros

The macro with its releases fixed is balanced and has two events for each press. When that is
too long, the sorted positions of the pairs are all positions of the macro, so `fixMacroSize`
keeps a start of the macro whatever its pairs are. The start is balanced exactly when no key is
held there.
-/

namespace GLogiK

open Brackets

/-! ### The macro with its releases fixed -/

lemma marks_missingReleases (w : List MacroEvent) :
    marks (w.map fun p => missingRelease p.key) = w.map fun p => .closing p.key.code := by
  induction w with
  | nil => rfl
  | cons p w ih =>
    rw [List.map_cons, List.map_cons, marks_cons_release rfl, ih]
    rfl

/-- The added releases close the keys that wait. -/
lemma pending_missingReleases (w : List MacroEvent) :
    pending (waitingCodes w) (marks (w.map fun p => missingRelease p.key)) = some 0 := by
  rw [marks_missingReleases]
  induction w with
  | nil => rfl
  | cons p w ih =>
    rwa [List.map_cons, waitingCodes_cons, pending_closing_of_mem (Multiset.mem_cons_self _ _),
      Multiset.erase_cons_head]

lemma pending_fixedReleases (m : MacroType) : pending 0 (marks (fixedReleases m)) = some 0 := by
  rw [fixedReleases, marks_append, pending_append, ← waitingCodes_nil, pending_kept,
    Option.bind_some, pending_missingReleases]
  rfl

lemma balanced_fixedReleases (m : MacroType) : Balanced (fixedReleases m) :=
  paired_iff_pending.mpr (pending_fixedReleases m)

lemma pressCount_missingReleases (w : List MacroEvent) :
    pressCount (w.map fun p => missingRelease p.key) = 0 := by
  simp [pressCount, missingRelease]

lemma pressCount_fixedReleases (m : MacroType) : pressCount (fixedReleases m) = pressCount m := by
  rw [fixedReleases, pressCount_append, pressCount_kept, pressCount_missingReleases, Nat.add_zero]

lemma pressOrRelease_fixedReleases {m : MacroType} (hm : PressOrRelease m) :
    PressOrRelease (fixedReleases m) := by
  intro e he
  rcases List.mem_append.mp he with he | he
  · exact hm e ((kept_sublist m 0 []).subset he)
  · obtain ⟨p, _, rfl⟩ := List.mem_map.mp he
    simp [missingRelease]

lemma length_fixedReleases {m : MacroType} (hm : PressOrRelease m) :
    (fixedReleases m).length = 2 * pressCount m := by
  rw [(balanced_fixedReleases m).length_eq (pressOrRelease_fixedReleases hm),
    pressCount_fixedReleases]

/-! ### The positions of the pairs -/

lemma pairIndexes_acc (ps rs : List MacroEvent) (acc : List ℕ) :
    pairIndexes ps rs acc = acc ++ pairIndexes ps rs [] := by
  induction ps generalizing rs acc with
  | nil => simp [pairIndexes]
  | cons p ps ih =>
    match h : takeRelease p rs with
    | none => simp only [pairIndexes, h, ih rs acc]
    | some (r, rest) =>
      simp only [pairIndexes, h, List.nil_append]
      rw [ih rest (acc ++ _), ih rest [_, _], List.append_assoc]

lemma pairIndexes_nil (ps : List MacroEvent) (acc : List ℕ) : pairIndexes ps [] acc = acc := by
  induction ps with
  | nil => rfl
  | cons p ps ih => simpa only [pairIndexes, takeRelease] using ih

lemma pairIndexes_of_takes {r p : MacroEvent} (hc : p.key.code = r.key.code)
    (hi : p.index < r.index) (ps : List MacroEvent) :
    ∀ (u rs : List MacroEvent), (∀ q ∈ u, r.Skips q) →
    (pairIndexes (u ++ p :: ps) (r :: rs) []).Perm
      (p.index :: r.index :: pairIndexes (u ++ ps) rs []) := by
  intro u
  induction u with
  | nil =>
    intro rs _
    simp only [List.nil_append, pairIndexes, takeRelease_cons_self hc hi]
    rw [pairIndexes_acc]
    exact List.Perm.refl _
  | cons q u ih =>
    intro rs h
    have hq := takeRelease_cons_of_skips (h q List.mem_cons_self) rs
    have hu : ∀ x ∈ u, r.Skips x := fun x hx => h x (List.mem_cons_of_mem _ hx)
    match htake : takeRelease q rs with
    | none =>
      rw [htake, Option.map_none] at hq
      simp only [List.cons_append, pairIndexes, hq, htake]
      exact ih rs hu
    | some (x, rest) =>
      rw [htake, Option.map_some] at hq
      simp only [List.cons_append, pairIndexes, hq, htake, List.nil_append]
      rw [pairIndexes_acc, pairIndexes_acc (u ++ ps)]
      refine ((ih rest hu).append_left [q.index, x.index]).trans ?_
      have hswap : ([q.index, x.index] ++ [p.index, r.index]).Perm
          ([p.index, r.index] ++ [q.index, x.index]) := List.perm_append_comm
      exact hswap.append_right _

/-- When no release is redundant, the pairs and the waiting presses cover all positions. -/
lemma pairIndexes_perm (m : MacroType) (hm : PressOrRelease m) :
    ∀ (i : ℕ) (w : List MacroEvent), (∀ p ∈ w, p.index < i) →
    (matchReleases i w m).redundant = [] →
    (pairIndexes (w ++ (fillInVectors i m).1) (fillInVectors i m).2 [] ++
      (matchReleases i w m).waiting.map MacroEvent.index).Perm
      (w.map MacroEvent.index ++ List.range' i m.length) := by
  induction m with
  | nil =>
    intro i w _ _
    simp only [fillInVectors, matchReleases, List.append_nil, List.length_nil, List.range'_zero]
    rw [pairIndexes_nil]
    exact List.Perm.refl _
  | cons e m ih =>
    have hm' : PressOrRelease m := fun x hx => hm x (List.mem_cons_of_mem _ hx)
    intro i w hw hred
    have hlater : ∀ p ∈ w, p.index < i + 1 := fun p hp => (hw p hp).trans (Nat.lt_succ_self i)
    rw [List.length_cons, List.range'_succ]
    cases he : e.event with
    | eventKeyUnknown => exact absurd he (hm e List.mem_cons_self)
    | eventKeyPress =>
      have hw' : ∀ p ∈ w ++ [⟨e, i⟩], p.index < i + 1 := by
        intro p hp
        rcases List.mem_append.mp hp with hp | hp
        · exact hlater p hp
        · rw [List.mem_singleton.mp hp]
          exact Nat.lt_succ_self i
      rw [matchReleases_press he] at hred ⊢
      have h := ih hm' (i + 1) _ hw' hred
      rw [List.append_assoc, List.singleton_append, List.map_append, List.append_assoc] at h
      rw [fillInVectors_press he]
      exact h
    | eventKeyRelease =>
      rw [fillInVectors_release he]
      rcases waiting_cases w e with hnone | ⟨u, p, v, rfl, hu, hp⟩
      · rw [matchReleases_redundant he hnone] at hred
        cases hred
      · rw [matchReleases_release he rfl hu hp] at hred ⊢
        have huv : ∀ q ∈ u ++ v, q.index < i + 1 := by
          intro q hq
          refine hlater q ?_
          rcases List.mem_append.mp hq with hq | hq
          · exact List.mem_append_left _ hq
          · exact List.mem_append_right _ (List.mem_cons_of_mem _ hq)
        have h := ih hm' (i + 1) (u ++ v) huv hred
        rw [List.append_assoc] at h
        have htake := pairIndexes_of_takes (r := ⟨e, i⟩) hp (hw p (by simp))
          (v ++ (fillInVectors (i + 1) m).1) u (fillInVectors (i + 1) m).2
          (fun q hq hc => absurd hc (hu q hq))
        rw [List.append_assoc, List.cons_append]
        refine (htake.append_right _).trans ?_
        refine ((h.cons i).cons p.index).trans ?_
        simp only [List.map_append, List.map_cons, List.append_assoc, List.cons_append]
        -- `p.index` and `i` move to their places
        refine List.Perm.trans ?_ List.perm_middle.symm
        refine List.Perm.cons _ ?_
        rw [← List.append_assoc, ← List.append_assoc]
        exact List.perm_middle.symm

/-- No press of a balanced macro waits at the end. -/
lemma waiting_eq_nil_of_pending {m : MacroType} (h : pending 0 (marks m) = some 0) :
    (matchReleases 0 [] m).waiting = [] := by
  have hkept := pending_kept m 0 []
  rw [(matchReleases_of_pending (i := 0) (w := []) h).2, waitingCodes_nil, h] at hkept
  simpa [waitingCodes] using (Option.some.inj hkept).symm

lemma insertionSort_pairIndexes {m : MacroType} (hm : PressOrRelease m)
    (h : pending 0 (marks m) = some 0) :
    (pairIndexes (fillInVectors 0 m).1 (fillInVectors 0 m).2 []).insertionSort (· ≤ ·) =
      List.range m.length := by
  have hmatch := matchReleases_of_pending (i := 0) (w := []) h
  have hperm := pairIndexes_perm m hm 0 [] (by simp) hmatch.1
  rw [waiting_eq_nil_of_pending h, List.map_nil, List.append_nil, List.nil_append, List.nil_append,
    ← List.range_eq_range'] at hperm
  exact List.Perm.eq_of_pairwise' (List.pairwise_insertionSort (· ≤ ·) _) List.pairwise_le_range
    ((List.perm_insertionSort (· ≤ ·) _).trans hperm)

/-! ### The size -/

lemma eraseIdx_length_sub_one {α : Type*} (l : List α) (n : ℕ) (h : l.length = n + 1) :
    l.eraseIdx n = l.take n := by
  rw [List.eraseIdx_eq_take_drop_succ, List.drop_of_length_le (by omega), List.append_nil]

/-- Erasing from the back stops at 22 events. -/
lemma eraseBack_range (k : ℕ) (m : MacroType) (h : m.length = 2 * k) :
    eraseBack (List.range (2 * k)).reverse m =
      if MACRO_T_MAX_SIZE ≤ m.length then m.take (MACRO_T_MAX_SIZE - 2) else m := by
  induction k generalizing m with
  | zero => simp [eraseBack, h, MACRO_T_MAX_SIZE]
  | succ k ih =>
    have hrange : (List.range (2 * (k + 1))).reverse =
        (2 * k + 1) :: (2 * k) :: (List.range (2 * k)).reverse := by
      rw [show 2 * (k + 1) = 2 * k + 1 + 1 from rfl, List.range_succ, List.range_succ]
      simp
    rw [hrange, eraseBack]
    split_ifs with hsize
    · have herase : (m.eraseIdx (2 * k + 1)).eraseIdx (2 * k) = m.take (2 * k) := by
        rw [eraseIdx_length_sub_one m _ (by omega),
          eraseIdx_length_sub_one _ _ (by rw [List.length_take]; omega), List.take_take,
          Nat.min_eq_left (Nat.le_succ _)]
      have hlen : (m.take (2 * k)).length = 2 * k := by rw [List.length_take]; omega
      rw [herase, ih _ hlen, hlen]
      have hmax : MACRO_T_MAX_SIZE = 24 := rfl
      by_cases hk : MACRO_T_MAX_SIZE ≤ 2 * k
      · rw [if_pos hk, List.take_take, Nat.min_eq_left (by omega)]
      · rw [if_neg hk, show MACRO_T_MAX_SIZE - 2 = 2 * k by omega]
    · rfl

lemma fixMacroSize_eq {m : MacroType} (hm : PressOrRelease m) (h : pending 0 (marks m) = some 0)
    (hsize : MACRO_T_MAX_SIZE ≤ m.length) :
    fixMacroSize (fillInVectors 0 m).1 (fillInVectors 0 m).2 m =
      m.take (MACRO_T_MAX_SIZE - 2) := by
  have hlen := Balanced.length_eq hm (paired_iff_pending.mpr h)
  simp only [fixMacroSize, insertionSort_pairIndexes hm h]
  rw [hlen, eraseBack_range _ m hlen, if_pos hsize, if_neg]
  rw [List.length_take, MACRO_T_MAX_SIZE]
  omega

/-- `checkMacro` fixes the releases, and from 12 presses on keeps the first 22 events. -/
theorem checkMacro_eq {m : MacroType} (hm : PressOrRelease m) :
    checkMacro m = if pressCount m < 12 then fixedReleases m else (fixedReleases m).take 22 := by
  have hlen := length_fixedReleases hm
  simp only [checkMacro, fixMacroReleaseEvents_eq]
  by_cases hp : pressCount m < 12
  · rw [if_pos hp, if_neg]
    rw [hlen, MACRO_T_MAX_SIZE]
    omega
  · have hsize : MACRO_T_MAX_SIZE ≤ (fixedReleases m).length := by
      rw [hlen, MACRO_T_MAX_SIZE]
      omega
    rw [if_neg hp, if_pos hsize]
    exact fixMacroSize_eq (pressOrRelease_fixedReleases hm) (pending_fixedReleases m) hsize

/-- Whatever its events are, a checked macro is short: the last resort of `fixMacroSize` is a
resize. -/
lemma length_checkMacro_lt (m : MacroType) : (checkMacro m).length < MACRO_T_MAX_SIZE := by
  simp only [checkMacro]
  split_ifs with hsize
  · simp only [fixMacroSize]
    split_ifs with hstill
    · rw [List.length_take, MACRO_T_MAX_SIZE]
      omega
    · exact Nat.lt_of_not_le hstill
  · exact Nat.lt_of_not_le hsize

/-! ### A second run -/

/-- A balanced macro has nothing to fix. -/
lemma fixedReleases_of_pending {m : MacroType} (h : pending 0 (marks m) = some 0) :
    fixedReleases m = m := by
  rw [fixedReleases, (matchReleases_of_pending (i := 0) (w := []) h).2,
    waiting_eq_nil_of_pending h, List.map_nil, List.append_nil]

/-- A start of a macro that has been fixed has no redundant release. -/
lemma pending_take_fixedReleases (m : MacroType) (n : ℕ) :
    ∃ s, pending 0 (marks ((fixedReleases m).take n)) = some s := by
  have hfixed := pending_fixedReleases m
  rw [← List.take_append_drop n (fixedReleases m), marks_append, pending_append] at hfixed
  cases hstart : pending 0 (marks ((fixedReleases m).take n)) with
  | none =>
    rw [hstart] at hfixed
    cases hfixed
  | some s => exact ⟨s, rfl⟩

/-- `checkMacro` is idempotent: a macro with less than twelve presses is balanced, and one that
was cut is at most extended behind the cut, where it is cut again. -/
lemma checkMacro_checkMacro_eq {m : MacroType} (hm : PressOrRelease m) :
    checkMacro (checkMacro m) = checkMacro m := by
  have hfixed := pressOrRelease_fixedReleases hm
  rw [checkMacro_eq hm]
  split_ifs with hp
  · rw [checkMacro_eq hfixed, pressCount_fixedReleases, if_pos hp]
    exact fixedReleases_of_pending (pending_fixedReleases m)
  · have hlen : ((fixedReleases m).take 22).length = 22 := by
      rw [List.length_take, length_fixedReleases hm]
      omega
    have hcut : PressOrRelease ((fixedReleases m).take 22) := fun e he =>
      hfixed e (List.mem_of_mem_take he)
    obtain ⟨s, hs⟩ := pending_take_fixedReleases m 22
    rw [checkMacro_eq hcut]
    split_ifs with hcutp
    · -- 22 events with at most eleven presses are balanced
      have hcount := length_add_card_of_pending hcut hs
      rw [hlen, Multiset.card_zero, Nat.add_zero] at hcount
      have hzero : s = 0 := Multiset.card_eq_zero.mp (by omega)
      rw [hzero] at hs
      exact fixedReleases_of_pending hs
    · rw [fixedReleases, (matchReleases_of_pending (i := 0) (w := []) hs).2]
      exact List.take_left' hlen

/-! ### Balance at the cut -/

/-- A start of the macro has eleven presses and leaves no key held. -/
def ReleasedAtCut (m : MacroType) : Prop :=
  ∃ q, q <+: m ∧ pressCount q = 11 ∧ heldKeys q = 0

lemma take_fixedReleases_of_released {m : MacroType} (hm : PressOrRelease m)
    (h : ReleasedAtCut m) : Balanced ((fixedReleases m).take 22) := by
  obtain ⟨q, ⟨t, rfl⟩, hpress, hheld⟩ := h
  have hpending := pending_kept q 0 []
  rw [← heldKeys_eq, hheld, waitingCodes_nil] at hpending
  have hkept : PressOrRelease (matchReleases 0 [] q).kept := fun e he =>
    hm e (List.mem_append_left _ ((kept_sublist q 0 []).subset he))
  have hlen := Balanced.length_eq hkept (paired_iff_pending.mpr hpending)
  rw [pressCount_kept, hpress] at hlen
  have hprefix : (matchReleases 0 [] q).kept <+: fixedReleases (q ++ t) :=
    (isPrefix_kept_append q t 0 []).trans (List.prefix_append _ _)
  rw [← show (matchReleases 0 [] q).kept = (fixedReleases (q ++ t)).take 22 by
    rw [List.prefix_iff_eq_take.mp hprefix, hlen]]
  exact paired_iff_pending.mpr hpending

lemma released_of_take_fixedReleases {m : MacroType} (hm : PressOrRelease m)
    (hp : 12 ≤ pressCount m) (h : Balanced ((fixedReleases m).take 22)) : ReleasedAtCut m := by
  have hplain : PressOrRelease ((fixedReleases m).take 22) := fun e he =>
    pressOrRelease_fixedReleases hm e (List.mem_of_mem_take he)
  have hcount := h.length_eq hplain
  have hlen : ((fixedReleases m).take 22).length = 22 := by
    rw [List.length_take, length_fixedReleases hm]
    omega
  by_cases hcut : 22 ≤ (matchReleases 0 [] m).kept.length
  · have htake : (fixedReleases m).take 22 = (matchReleases 0 [] m).kept.take 22 :=
      List.take_append_of_le_length hcut
    obtain ⟨q, hq, hk⟩ := exists_isPrefix_kept m 0 [] 22 hcut
    rw [htake, ← hk] at h hcount hlen
    have hpending := pending_kept q 0 []
    rw [waitingCodes_nil, paired_iff_pending.mp h, ← heldKeys_eq] at hpending
    refine ⟨q, hq, ?_, (Option.some.inj hpending).symm⟩
    rw [pressCount_kept] at hcount
    omega
  · -- the cut is behind all presses, and there are more than eleven of them
    have htake : (fixedReleases m).take 22 = (matchReleases 0 [] m).kept ++
        (((matchReleases 0 [] m).waiting.map fun p => missingRelease p.key).take
          (22 - (matchReleases 0 [] m).kept.length)) := by
      rw [fixedReleases, List.take_append, List.take_of_length_le (by omega)]
    rw [htake, pressCount_append, pressCount_kept, ← htake] at hcount
    omega

/-- The checked macro is short and balanced, and playing it leaves no key down, exactly when
there is nothing to cut or no key is held at the cut. -/
theorem checkMacro_balanced_iff {m : MacroType} (hm : PressOrRelease m) :
    ((checkMacro m).length < MACRO_T_MAX_SIZE ∧ Balanced (checkMacro m) ∧
        replay (checkMacro m) = ∅) ↔
      pressCount m ≤ 11 ∨ ReleasedAtCut m := by
  have hbalanced : Balanced (checkMacro m) ↔ pressCount m ≤ 11 ∨ ReleasedAtCut m := by
    rw [checkMacro_eq hm]
    split_ifs with hp
    · exact ⟨fun _ => Or.inl (Nat.le_of_lt_succ hp), fun _ => balanced_fixedReleases m⟩
    · refine ⟨fun h => Or.inr (released_of_take_fixedReleases hm (Nat.le_of_not_lt hp) h), ?_⟩
      rintro (h | h)
      · exact absurd (Nat.lt_succ_of_le h) hp
      · exact take_fixedReleases_of_released hm h
  refine ⟨fun h => hbalanced.mp h.2.1, fun h => ?_⟩
  have hb := hbalanced.mpr h
  exact ⟨length_checkMacro_lt m, hb, hb.replay_eq⟩

/-! ### Two macros -/

private def press (code : UInt8) : KeyEvent := ⟨code, .eventKeyPress, 1⟩

private def release (code : UInt8) : KeyEvent := ⟨code, .eventKeyRelease, 1⟩

private def stroke (code : UInt8) : MacroType := [press code, release code]

/-- Twelve keys one after the other. -/
def strokesMacro : MacroType := (List.range 12).flatMap fun i => stroke (UInt8.ofNat (30 + i))

theorem checkMacro_strokesMacro :
    ((checkMacro strokesMacro).length < MACRO_T_MAX_SIZE ∧ Balanced (checkMacro strokesMacro) ∧
      replay (checkMacro strokesMacro) = ∅) :=
  (checkMacro_balanced_iff (by decide)).mpr
    (Or.inr ⟨strokesMacro.take 22, List.take_prefix _ _, by decide, by decide⟩)

/-- Left control, shift, alt and meta are held while eight other keys are used; all keys are
released at the end. -/
def chordMacro : MacroType :=
  [press 29, press 42, press 56, press 125] ++ stroke 30 ++ stroke 31 ++ stroke 32 ++ stroke 33 ++
    [press 36, press 37, press 38, press 39, release 39, release 38, release 37, release 36,
      release 125, release 56, release 42, release 29]

/-- Left control and left shift lose their release. -/
theorem checkMacro_chordMacro_not_balanced :
    PressOrRelease chordMacro ∧ Balanced chordMacro ∧ ¬ Balanced (checkMacro chordMacro) ∧
      replay (checkMacro chordMacro) = {29, 42} := by
  have hreplay : replay (checkMacro chordMacro) = {29, 42} := by decide
  refine ⟨by decide, paired_iff_pending.mpr (by decide), fun h => ?_, hreplay⟩
  rw [h.replay_eq] at hreplay
  exact absurd hreplay (by decide)

end GLogiK
