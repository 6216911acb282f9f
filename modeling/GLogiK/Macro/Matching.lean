import GLogiK.Macro.Basic
import GLogiK.Macro.Balanced

/-!
# Matching presses with releases

A macro is read once, with a queue of the presses that wait for their release. A release takes
the oldest press of its key and is dropped when there is none. The two vectors and the two
loops of `fixMacroReleaseEvents` compute the same: the dropped releases are erased and the
presses that still wait get a release at the end.
-/

namespace GLogiK

open Brackets

/-- What reading a macro gives. -/
structure Matching where
  kept : MacroType
  waiting : List MacroEvent
  redundant : List MacroEvent

def Matching.keep (e : KeyEvent) (r : Matching) : Matching := { r with kept := e :: r.kept }

def Matching.drop (e : MacroEvent) (r : Matching) : Matching :=
  { r with redundant := e :: r.redundant }

/-- The press `p` waits for a release with the key code of `e`. -/
abbrev MacroEvent.waitsFor (e : KeyEvent) (p : MacroEvent) : Bool := p.key.code == e.code

/-- Read a macro whose first position is `i`. -/
def matchReleases (i : ℕ) (waiting : List MacroEvent) : MacroType → Matching
  | [] => ⟨[], waiting, []⟩
  | e :: m =>
    match e.event with
    | .eventKeyPress => (matchReleases (i + 1) (waiting ++ [⟨e, i⟩]) m).keep e
    | .eventKeyRelease =>
      if waiting.any (·.waitsFor e) then
        (matchReleases (i + 1) (waiting.eraseP (·.waitsFor e)) m).keep e
      else (matchReleases (i + 1) waiting m).drop ⟨e, i⟩
    | .eventKeyUnknown => (matchReleases (i + 1) waiting m).keep e

/-- The keys that wait, with multiplicity. -/
def waitingCodes (waiting : List MacroEvent) : Multiset UInt8 :=
  (waiting.map fun p => p.key.code : List UInt8)

/-! ### The reading, case by case -/

section

variable {i : ℕ} {waiting : List MacroEvent} {e : KeyEvent}

lemma matchReleases_press (he : e.event = .eventKeyPress) (m : MacroType) :
    matchReleases i waiting (e :: m) =
      (matchReleases (i + 1) (waiting ++ [⟨e, i⟩]) m).keep e := by
  simp only [matchReleases, he]

lemma matchReleases_unknown (he : e.event = .eventKeyUnknown) (m : MacroType) :
    matchReleases i waiting (e :: m) = (matchReleases (i + 1) waiting m).keep e := by
  simp only [matchReleases, he]

lemma matchReleases_redundant (he : e.event = .eventKeyRelease)
    (h : ∀ p ∈ waiting, p.key.code ≠ e.code) (m : MacroType) :
    matchReleases i waiting (e :: m) = (matchReleases (i + 1) waiting m).drop ⟨e, i⟩ := by
  have hany : waiting.any (·.waitsFor e) = false := by simpa using h
  simp only [matchReleases, he, hany, Bool.false_eq_true, if_false]

lemma matchReleases_release (he : e.event = .eventKeyRelease) {u v : List MacroEvent}
    {p : MacroEvent} (hw : waiting = u ++ p :: v) (hu : ∀ q ∈ u, q.key.code ≠ e.code)
    (hp : p.key.code = e.code) (m : MacroType) :
    matchReleases i waiting (e :: m) = (matchReleases (i + 1) (u ++ v) m).keep e := by
  have hany : waiting.any (·.waitsFor e) = true := by simp [hw, hp]
  have herase : waiting.eraseP (·.waitsFor e) = u ++ v := by
    rw [hw, List.eraseP_append_right _ (by simpa using hu),
      List.eraseP_cons_of_pos (by simp [hp])]
  simp only [matchReleases, he, hany, if_true, herase]

/-- Either no press waits for the release, or there is a first one. -/
lemma waiting_cases (waiting : List MacroEvent) (e : KeyEvent) :
    (∀ p ∈ waiting, p.key.code ≠ e.code) ∨
      ∃ u p v, waiting = u ++ p :: v ∧ (∀ q ∈ u, q.key.code ≠ e.code) ∧ p.key.code = e.code := by
  by_cases h : ∀ p ∈ waiting, p.key.code ≠ e.code
  · exact Or.inl h
  · push Not at h
    obtain ⟨p, hp, hc⟩ := h
    obtain ⟨q, u, v, hu, hq, hw, _⟩ :=
      List.exists_of_eraseP (p := (·.waitsFor e)) hp (by simpa using hc)
    exact Or.inr ⟨u, q, v, hw, by simpa using hu, by simpa using hq⟩

/-- Induction along the reading. -/
lemma matchReleases_induct {motive : ℕ → List MacroEvent → MacroType → Matching → Prop}
    (nil : ∀ i w, motive i w [] ⟨[], w, []⟩)
    (press : ∀ i w e m r, e.event = .eventKeyPress → motive (i + 1) (w ++ [⟨e, i⟩]) m r →
      motive i w (e :: m) (r.keep e))
    (unknown : ∀ i w e m r, e.event = .eventKeyUnknown → motive (i + 1) w m r →
      motive i w (e :: m) (r.keep e))
    (redundant : ∀ i w e m r, e.event = .eventKeyRelease → (∀ p ∈ w, p.key.code ≠ e.code) →
      motive (i + 1) w m r → motive i w (e :: m) (r.drop ⟨e, i⟩))
    (release : ∀ i u p v e m r, e.event = .eventKeyRelease → (∀ q ∈ u, q.key.code ≠ e.code) →
      p.key.code = e.code → motive (i + 1) (u ++ v) m r →
      motive i (u ++ p :: v) (e :: m) (r.keep e))
    (m : MacroType) (i : ℕ) (w : List MacroEvent) : motive i w m (matchReleases i w m) := by
  induction m generalizing i w with
  | nil => exact nil i w
  | cons e m ih =>
    match he : e.event with
    | .eventKeyPress =>
      rw [matchReleases_press he]
      exact press i w e m _ he (ih _ _)
    | .eventKeyUnknown =>
      rw [matchReleases_unknown he]
      exact unknown i w e m _ he (ih _ _)
    | .eventKeyRelease =>
      rcases waiting_cases w e with hnone | ⟨u, p, v, rfl, hu, hp⟩
      · rw [matchReleases_redundant he hnone]
        exact redundant i w e m _ he hnone (ih _ _)
      · rw [matchReleases_release he rfl hu hp]
        exact release i u p v e m _ he hu hp (ih _ _)

end

/-! ### The vectors of presses and releases -/

lemma fillInVectors_press {e : KeyEvent} (he : e.event = .eventKeyPress) (i : ℕ)
    (m : MacroType) :
    fillInVectors i (e :: m) =
      (⟨e, i⟩ :: (fillInVectors (i + 1) m).1, (fillInVectors (i + 1) m).2) := by
  simp only [fillInVectors, he]

lemma fillInVectors_release {e : KeyEvent} (he : e.event = .eventKeyRelease) (i : ℕ)
    (m : MacroType) :
    fillInVectors i (e :: m) =
      ((fillInVectors (i + 1) m).1, ⟨e, i⟩ :: (fillInVectors (i + 1) m).2) := by
  simp only [fillInVectors, he]

lemma fillInVectors_unknown {e : KeyEvent} (he : e.event = .eventKeyUnknown) (i : ℕ)
    (m : MacroType) :
    fillInVectors i (e :: m) = fillInVectors (i + 1) m := by
  simp only [fillInVectors, he]

lemma le_index_of_mem_pressed (m : MacroType) (i : ℕ) :
    ∀ p ∈ (fillInVectors i m).1, i ≤ p.index := by
  induction m generalizing i with
  | nil => simp [fillInVectors]
  | cons e m ih =>
    intro p hp
    match he : e.event with
    | .eventKeyPress =>
      rw [fillInVectors_press he] at hp
      rcases List.mem_cons.mp hp with rfl | hp
      · exact le_rfl
      · exact (Nat.le_succ i).trans (ih (i + 1) p hp)
    | .eventKeyRelease =>
      rw [fillInVectors_release he] at hp
      exact (Nat.le_succ i).trans (ih (i + 1) p hp)
    | .eventKeyUnknown =>
      rw [fillInVectors_unknown he] at hp
      exact (Nat.le_succ i).trans (ih (i + 1) p hp)

/-! ### First release of a press -/

/-- `p` cannot take the release `r`. -/
def MacroEvent.Skips (r p : MacroEvent) : Prop := p.key.code = r.key.code → r.index ≤ p.index

lemma takeRelease_cons_of_skips {r p : MacroEvent} (h : r.Skips p) (rs : List MacroEvent) :
    takeRelease p (r :: rs) = (takeRelease p rs).map fun x => (x.1, r :: x.2) := by
  rw [takeRelease, if_neg]
  rintro ⟨hc, hi⟩
  exact absurd (h hc) (Nat.not_le.mpr hi)

lemma takeRelease_cons_self {r p : MacroEvent} (hc : p.key.code = r.key.code)
    (hi : p.index < r.index) (rs : List MacroEvent) : takeRelease p (r :: rs) = some (r, rs) :=
  if_pos ⟨hc, hi⟩

/-- A release that no press can take stays. -/
lemma addMissingReleases_of_skips {r : MacroEvent} (rs : List MacroEvent) (m : MacroType) :
    ∀ (ps : List MacroEvent), (∀ p ∈ ps, r.Skips p) →
    addMissingReleases ps (r :: rs) m =
      ((addMissingReleases ps rs m).1, r :: (addMissingReleases ps rs m).2) := by
  intro ps
  induction ps generalizing rs m with
  | nil => intro _; rfl
  | cons p ps ih =>
    intro h
    have hp := takeRelease_cons_of_skips (h p List.mem_cons_self) rs
    have hps : ∀ q ∈ ps, r.Skips q := fun q hq => h q (List.mem_cons_of_mem _ hq)
    match htake : takeRelease p rs with
    | none =>
      rw [htake, Option.map_none] at hp
      simp only [addMissingReleases, hp, htake, ih _ _ hps]
    | some (x, rest) =>
      rw [htake, Option.map_some] at hp
      simp only [addMissingReleases, hp, htake, ih _ _ hps]

/-- The first press that can take the release takes it. -/
lemma addMissingReleases_of_takes {r p : MacroEvent} (hc : p.key.code = r.key.code)
    (hi : p.index < r.index) (ps rs : List MacroEvent) (m : MacroType) :
    ∀ (u : List MacroEvent), (∀ q ∈ u, r.Skips q) →
    addMissingReleases (u ++ p :: ps) (r :: rs) m = addMissingReleases (u ++ ps) rs m := by
  intro u
  induction u generalizing rs m with
  | nil =>
    intro _
    simp only [List.nil_append, addMissingReleases, takeRelease_cons_self hc hi]
  | cons q u ih =>
    intro h
    have hq := takeRelease_cons_of_skips (h q List.mem_cons_self) rs
    have hu : ∀ x ∈ u, r.Skips x := fun x hx => h x (List.mem_cons_of_mem _ hx)
    match htake : takeRelease q rs with
    | none =>
      rw [htake, Option.map_none] at hq
      simp only [List.cons_append, addMissingReleases, hq, htake, ih _ _ hu]
    | some (x, rest) =>
      rw [htake, Option.map_some] at hq
      -- `r` is still the first release after `q` has taken a later one
      simp only [List.cons_append, addMissingReleases, hq, htake, ih _ _ hu]

/-! ### The first loop -/

lemma addMissingReleases_nil (ps : List MacroEvent) (m : MacroType) :
    addMissingReleases ps [] m = (m ++ ps.map fun p => missingRelease p.key, []) := by
  induction ps generalizing m with
  | nil => simp [addMissingReleases]
  | cons p ps ih => simp only [addMissingReleases, takeRelease, ih, List.map_cons,
      List.append_assoc, List.singleton_append]

/-- With the waiting presses in front, the first loop adds one release for every press that
waits at the end and leaves the redundant releases. -/
lemma addMissingReleases_eq (m acc : MacroType) :
    ∀ (i : ℕ) (waiting : List MacroEvent), (∀ p ∈ waiting, p.index < i) →
    addMissingReleases (waiting ++ (fillInVectors i m).1) (fillInVectors i m).2 acc =
      (acc ++ (matchReleases i waiting m).waiting.map fun p => missingRelease p.key,
        (matchReleases i waiting m).redundant) := by
  induction m with
  | nil =>
    intro i waiting _
    simp only [fillInVectors, List.append_nil, matchReleases, addMissingReleases_nil]
  | cons e m ih =>
    intro i waiting hw
    have hlater : ∀ p ∈ waiting, p.index < i + 1 := fun p hp =>
      (hw p hp).trans (Nat.lt_succ_self i)
    match he : e.event with
    | .eventKeyPress =>
      have hw' : ∀ p ∈ waiting ++ [⟨e, i⟩], p.index < i + 1 := by
        intro p hp
        rcases List.mem_append.mp hp with hp | hp
        · exact hlater p hp
        · rw [List.mem_singleton.mp hp]
          exact Nat.lt_succ_self i
      have h := ih (i + 1) (waiting ++ [⟨e, i⟩]) hw'
      rw [List.append_assoc, List.singleton_append] at h
      rw [fillInVectors_press he, matchReleases_press he]
      exact h
    | .eventKeyUnknown =>
      rw [fillInVectors_unknown he, matchReleases_unknown he]
      exact ih (i + 1) waiting hlater
    | .eventKeyRelease =>
      have hfill : ∀ p ∈ (fillInVectors (i + 1) m).1, i ≤ p.index := fun p hp =>
        (Nat.le_succ i).trans (le_index_of_mem_pressed m (i + 1) p hp)
      rw [fillInVectors_release he]
      rcases waiting_cases waiting e with hnone | ⟨u, p, v, hsplit, hu, hp⟩
      · rw [matchReleases_redundant he hnone, addMissingReleases_of_skips,
          ih (i + 1) waiting hlater]
        · rfl
        · intro p hp
          rcases List.mem_append.mp hp with hp | hp
          · exact fun hc => absurd hc (hnone p hp)
          · exact fun _ => hfill p hp
      · rw [matchReleases_release he hsplit hu hp, hsplit, List.append_assoc, List.cons_append,
          addMissingReleases_of_takes hp (hw p (by simp [hsplit])) _ _ _ u
            (fun q hq hc => absurd hc (hu q hq)), ← List.append_assoc, ih (i + 1) (u ++ v)]
        · rfl
        · intro q hq
          refine hlater q ?_
          rw [hsplit]
          rcases List.mem_append.mp hq with hq | hq
          · exact List.mem_append_left _ hq
          · exact List.mem_append_right _ (List.mem_cons_of_mem _ hq)

/-! ### The second loop -/

/-- Erasing the redundant positions, last one first, leaves the kept events. -/
lemma eraseRedundantReleases_eq (m back : MacroType) :
    ∀ (front : MacroType) (waiting : List MacroEvent),
    eraseRedundantReleases (matchReleases front.length waiting m).redundant
      (front ++ m ++ back) = front ++ (matchReleases front.length waiting m).kept ++ back := by
  simp only [eraseRedundantReleases]
  induction m with
  | nil => intro front waiting; rfl
  | cons e m ih =>
    intro front waiting
    -- the event moves to the front of the rest of the macro
    have hmove : ∀ w, (matchReleases (front.length + 1) w m).redundant.reverse.foldl
        (fun m r => m.eraseIdx r.index) (front ++ e :: m ++ back) =
        front ++ e :: (matchReleases (front.length + 1) w m).kept ++ back := by
      intro w
      have h := ih (front ++ [e]) w
      simpa using h
    match he : e.event with
    | .eventKeyPress =>
      rw [matchReleases_press he]
      exact hmove _
    | .eventKeyUnknown =>
      rw [matchReleases_unknown he]
      exact hmove _
    | .eventKeyRelease =>
      rcases waiting_cases waiting e with hnone | ⟨u, p, v, hsplit, hu, hp⟩
      · rw [matchReleases_redundant he hnone]
        simp only [Matching.drop, List.reverse_cons, List.foldl_append, hmove, List.foldl_cons,
          List.foldl_nil]
        rw [List.append_assoc, List.eraseIdx_append_of_length_le le_rfl, Nat.sub_self,
          List.cons_append, List.eraseIdx_cons_zero, ← List.append_assoc]
      · rw [matchReleases_release he hsplit hu hp]
        exact hmove _

/-- What `checkMacro` makes of a macro before it looks at the size. -/
def fixedReleases (m : MacroType) : MacroType :=
  (matchReleases 0 [] m).kept ++
    (matchReleases 0 [] m).waiting.map fun p => missingRelease p.key

theorem fixMacroReleaseEvents_eq (m : MacroType) :
    fixMacroReleaseEvents (fillInVectors 0 m).1 (fillInVectors 0 m).2 m = fixedReleases m := by
  have hfirst := addMissingReleases_eq m m 0 [] (by simp)
  have hsecond := eraseRedundantReleases_eq m
    ((matchReleases 0 [] m).waiting.map fun p => missingRelease p.key) [] []
  rw [List.nil_append] at hfirst
  simp only [fixMacroReleaseEvents, hfirst]
  exact hsecond

/-! ### The keys that wait -/

/-- The keys held after the event, with multiplicity; a redundant release changes nothing. -/
def KeyEvent.hold (held : Multiset UInt8) (e : KeyEvent) : Multiset UInt8 :=
  match e.event with
  | .eventKeyPress   => e.code ::ₘ held
  | .eventKeyRelease => held.erase e.code
  | .eventKeyUnknown => held

/-- The keys held after the whole macro, starting with none. -/
def heldKeys (m : MacroType) : Multiset UInt8 := m.foldl KeyEvent.hold 0

@[simp] lemma waitingCodes_nil : waitingCodes [] = 0 := rfl

@[simp] lemma waitingCodes_cons (p : MacroEvent) (w : List MacroEvent) :
    waitingCodes (p :: w) = p.key.code ::ₘ waitingCodes w := rfl

@[simp] lemma waitingCodes_append (u v : List MacroEvent) :
    waitingCodes (u ++ v) = waitingCodes u + waitingCodes v := by
  simp only [waitingCodes, List.map_append, Multiset.coe_add]

lemma waitingCodes_concat (w : List MacroEvent) (p : MacroEvent) :
    waitingCodes (w ++ [p]) = p.key.code ::ₘ waitingCodes w := by
  rw [waitingCodes_append, Multiset.add_comm, waitingCodes_cons, waitingCodes_nil,
    Multiset.cons_add, Multiset.zero_add]

lemma waitingCodes_middle (u v : List MacroEvent) (p : MacroEvent) :
    waitingCodes (u ++ p :: v) = p.key.code ::ₘ waitingCodes (u ++ v) := by
  rw [waitingCodes_append, waitingCodes_append, waitingCodes_cons, Multiset.add_cons]

lemma notMem_waitingCodes {w : List MacroEvent} {k : UInt8} (h : ∀ p ∈ w, p.key.code ≠ k) :
    k ∉ waitingCodes w := by
  simpa [waitingCodes] using h

lemma waitingCodes_matchReleases (m : MacroType) (i : ℕ) (w : List MacroEvent) :
    waitingCodes (matchReleases i w m).waiting = m.foldl KeyEvent.hold (waitingCodes w) := by
  refine matchReleases_induct
    (motive := fun _ w m r => waitingCodes r.waiting = m.foldl KeyEvent.hold (waitingCodes w))
    ?nil ?press ?unknown ?redundant ?release m i w
  case nil =>
    intro i w
    rfl
  case press =>
    intro i w e m r he ih
    rwa [List.foldl_cons, KeyEvent.hold, he, ← waitingCodes_concat w ⟨e, i⟩]
  case unknown =>
    intro i w e m r he ih
    rwa [List.foldl_cons, KeyEvent.hold, he]
  case redundant =>
    intro i w e m r he hnone ih
    rwa [List.foldl_cons, KeyEvent.hold, he, Multiset.erase_of_notMem (notMem_waitingCodes hnone)]
  case release =>
    intro i u p v e m r he hu hp ih
    rwa [List.foldl_cons, KeyEvent.hold, he, waitingCodes_middle, hp, Multiset.erase_cons_head]

lemma heldKeys_eq (m : MacroType) : heldKeys m = waitingCodes (matchReleases 0 [] m).waiting :=
  (waitingCodes_matchReleases m 0 []).symm

/-! ### The kept events -/

/-- No kept release is stray, and the keys still open are those that wait. -/
lemma pending_kept (m : MacroType) (i : ℕ) (w : List MacroEvent) :
    pending (waitingCodes w) (marks (matchReleases i w m).kept) =
      some (waitingCodes (matchReleases i w m).waiting) := by
  refine matchReleases_induct
    (motive := fun _ w _ r =>
      pending (waitingCodes w) (marks r.kept) = some (waitingCodes r.waiting))
    ?nil ?press ?unknown ?redundant ?release m i w
  case nil =>
    intro i w
    rfl
  case press =>
    intro i w e m r he ih
    rwa [Matching.keep, marks_cons_press he, pending_opening, ← waitingCodes_concat w ⟨e, i⟩]
  case unknown =>
    intro i w e m r he ih
    rwa [Matching.keep, marks_cons_unknown he]
  case redundant =>
    intro i w e m r he hnone ih
    exact ih
  case release =>
    intro i u p v e m r he hu hp ih
    rwa [Matching.keep, marks_cons_release he, waitingCodes_middle, hp,
      pending_closing_of_mem (Multiset.mem_cons_self _ _), Multiset.erase_cons_head]

/-- A macro without stray release has no redundant one, so everything is kept. -/
lemma matchReleases_of_pending {m : MacroType} {i : ℕ} {w : List MacroEvent} {t : Multiset UInt8}
    (h : pending (waitingCodes w) (marks m) = some t) :
    (matchReleases i w m).redundant = [] ∧ (matchReleases i w m).kept = m := by
  revert h
  refine matchReleases_induct
    (motive := fun _ w m r =>
      pending (waitingCodes w) (marks m) = some t → r.redundant = [] ∧ r.kept = m)
    ?nil ?press ?unknown ?redundant ?release m i w
  case nil =>
    intro i w _
    exact ⟨rfl, rfl⟩
  case press =>
    intro i w e m r he ih h
    rw [marks_cons_press he, pending_opening, ← waitingCodes_concat w ⟨e, i⟩] at h
    exact ⟨(ih h).1, congrArg (e :: ·) (ih h).2⟩
  case unknown =>
    intro i w e m r he ih h
    rw [marks_cons_unknown he] at h
    exact ⟨(ih h).1, congrArg (e :: ·) (ih h).2⟩
  case redundant =>
    intro i w e m r he hnone ih h
    rw [marks_cons_release he, pending_closing_of_notMem (notMem_waitingCodes hnone)] at h
    cases h
  case release =>
    intro i u p v e m r he hu hp ih h
    rw [marks_cons_release he, waitingCodes_middle, hp,
      pending_closing_of_mem (Multiset.mem_cons_self _ _), Multiset.erase_cons_head] at h
    exact ⟨(ih h).1, congrArg (e :: ·) (ih h).2⟩

lemma kept_sublist (m : MacroType) (i : ℕ) (w : List MacroEvent) :
    (matchReleases i w m).kept.Sublist m := by
  refine matchReleases_induct (motive := fun _ _ m r => r.kept.Sublist m)
    ?nil ?press ?unknown ?redundant ?release m i w
  case nil => exact fun _ _ => List.Sublist.refl _
  case press => exact fun _ _ e _ _ _ ih => ih.cons_cons e
  case unknown => exact fun _ _ e _ _ _ ih => ih.cons_cons e
  case redundant => exact fun _ _ e _ _ _ _ ih => ih.cons e
  case release => exact fun _ _ _ _ e _ _ _ _ _ ih => ih.cons_cons e

lemma pressCount_kept (m : MacroType) (i : ℕ) (w : List MacroEvent) :
    pressCount (matchReleases i w m).kept = pressCount m := by
  refine matchReleases_induct (motive := fun _ _ m r => pressCount r.kept = pressCount m)
    ?nil ?press ?unknown ?redundant ?release m i w
  case nil =>
    intro i w
    rfl
  case press =>
    intro i w e m r he ih
    rw [Matching.keep, pressCount_cons_press he, pressCount_cons_press he, ih]
  case unknown =>
    intro i w e m r he ih
    rw [Matching.keep, pressCount_cons_of_ne (by simp [he]),
      pressCount_cons_of_ne (by simp [he]), ih]
  case redundant =>
    intro i w e m r he hnone ih
    rwa [pressCount_cons_of_ne (e := e) (by simp [he])]
  case release =>
    intro i u p v e m r he hu hp ih
    rw [Matching.keep, pressCount_cons_of_ne (by simp [he]),
      pressCount_cons_of_ne (by simp [he]), ih]

/-- The start of the kept events is what is kept of the start of the macro. -/
lemma exists_isPrefix_kept (m : MacroType) (i : ℕ) (w : List MacroEvent) :
    ∀ n ≤ (matchReleases i w m).kept.length,
      ∃ q, q <+: m ∧ (matchReleases i w q).kept = (matchReleases i w m).kept.take n := by
  refine matchReleases_induct
    (motive := fun i w m r => ∀ n ≤ r.kept.length,
      ∃ q, q <+: m ∧ (matchReleases i w q).kept = r.kept.take n)
    ?nil ?press ?unknown ?redundant ?release m i w
  case nil => exact fun i w n _ => ⟨[], List.prefix_rfl, by simp [matchReleases]⟩
  case press =>
    rintro i w e m r he ih (_ | n) hn
    · exact ⟨[], List.nil_prefix, by simp [matchReleases]⟩
    · obtain ⟨q, hq, hk⟩ := ih n (Nat.le_of_succ_le_succ hn)
      refine ⟨e :: q, List.cons_prefix_cons.mpr ⟨rfl, hq⟩, ?_⟩
      rw [matchReleases_press he]
      exact congrArg (e :: ·) hk
  case unknown =>
    rintro i w e m r he ih (_ | n) hn
    · exact ⟨[], List.nil_prefix, by simp [matchReleases]⟩
    · obtain ⟨q, hq, hk⟩ := ih n (Nat.le_of_succ_le_succ hn)
      refine ⟨e :: q, List.cons_prefix_cons.mpr ⟨rfl, hq⟩, ?_⟩
      rw [matchReleases_unknown he]
      exact congrArg (e :: ·) hk
  case redundant =>
    intro i w e m r he hnone ih n hn
    obtain ⟨q, hq, hk⟩ := ih n hn
    refine ⟨e :: q, List.cons_prefix_cons.mpr ⟨rfl, hq⟩, ?_⟩
    rw [matchReleases_redundant he hnone]
    exact hk
  case release =>
    rintro i u p v e m r he hu hp ih (_ | n) hn
    · exact ⟨[], List.nil_prefix, by simp [matchReleases]⟩
    · obtain ⟨q, hq, hk⟩ := ih n (Nat.le_of_succ_le_succ hn)
      refine ⟨e :: q, List.cons_prefix_cons.mpr ⟨rfl, hq⟩, ?_⟩
      rw [matchReleases_release he rfl hu hp]
      exact congrArg (e :: ·) hk

lemma isPrefix_kept_append (q t : MacroType) (i : ℕ) (w : List MacroEvent) :
    (matchReleases i w q).kept <+: (matchReleases i w (q ++ t)).kept := by
  refine matchReleases_induct
    (motive := fun i w q r => r.kept <+: (matchReleases i w (q ++ t)).kept)
    ?nil ?press ?unknown ?redundant ?release q i w
  case nil => exact fun _ _ => List.nil_prefix
  case press =>
    intro i w e q r he ih
    rw [List.cons_append, matchReleases_press he]
    exact List.cons_prefix_cons.mpr ⟨rfl, ih⟩
  case unknown =>
    intro i w e q r he ih
    rw [List.cons_append, matchReleases_unknown he]
    exact List.cons_prefix_cons.mpr ⟨rfl, ih⟩
  case redundant =>
    intro i w e q r he hnone ih
    rwa [List.cons_append, matchReleases_redundant he hnone]
  case release =>
    intro i u p v e q r he hu hp ih
    rw [List.cons_append, matchReleases_release he rfl hu hp]
    exact List.cons_prefix_cons.mpr ⟨rfl, ih⟩

end GLogiK
