import GLogiK.Macro.Matching

/-!
# A scan with counters

What `fixMacroReleaseEvents` computes, told without positions: one pass over the macro with a
counter for each key code decides which events are kept, and the presses that are left without a
release are those of the greedy matching.
-/

namespace GLogiK

/-- The kept events and the counters at the end. A press is kept and counted, a release is kept
while its counter is positive. -/
def scan (counts : UInt8 → ℕ) : MacroType → MacroType × (UInt8 → ℕ)
  | [] => ([], counts)
  | e :: m =>
    match e.event with
    | .eventKeyPress =>
      let r := scan (Function.update counts e.code (counts e.code + 1)) m
      (e :: r.1, r.2)
    | .eventKeyRelease =>
      if 0 < counts e.code then
        let r := scan (Function.update counts e.code (counts e.code - 1)) m
        (e :: r.1, r.2)
      else scan counts m
    | .eventKeyUnknown =>
      let r := scan counts m
      (e :: r.1, r.2)

/-- The presses that the greedy matching leaves: each press takes the first later release of its
key that no earlier press took. -/
def unmatchedPresses : List MacroEvent → List MacroEvent → List MacroEvent
  | [], _ => []
  | pressed :: pressedEvents, releasedEvents =>
    match takeRelease pressed releasedEvents with
    | some (_, rest) => unmatchedPresses pressedEvents rest
    | none => pressed :: unmatchedPresses pressedEvents releasedEvents

/-- The presses of a macro that are left without a release. -/
def openPresses (m : MacroType) : List MacroEvent :=
  unmatchedPresses (fillInVectors 0 m).1 (fillInVectors 0 m).2

/-- The kept events, and a release for each press that is left without one. -/
def scannedReleases (m : MacroType) : MacroType :=
  (scan (fun _ => 0) m).1 ++ (openPresses m).map fun p => missingRelease p.key

/-! ### The scan, case by case -/

section

variable {counts : UInt8 → ℕ} {e : KeyEvent}

lemma scan_press (he : e.event = .eventKeyPress) (m : MacroType) :
    scan counts (e :: m) =
      (e :: (scan (Function.update counts e.code (counts e.code + 1)) m).1,
        (scan (Function.update counts e.code (counts e.code + 1)) m).2) := by
  simp only [scan, he]

lemma scan_unknown (he : e.event = .eventKeyUnknown) (m : MacroType) :
    scan counts (e :: m) = (e :: (scan counts m).1, (scan counts m).2) := by
  simp only [scan, he]

lemma scan_redundant (he : e.event = .eventKeyRelease) (hcount : counts e.code = 0)
    (m : MacroType) : scan counts (e :: m) = scan counts m := by
  simp only [scan, he, hcount, lt_irrefl, if_false]

lemma scan_release (he : e.event = .eventKeyRelease) (hcount : 0 < counts e.code)
    (m : MacroType) :
    scan counts (e :: m) =
      (e :: (scan (Function.update counts e.code (counts e.code - 1)) m).1,
        (scan (Function.update counts e.code (counts e.code - 1)) m).2) := by
  simp only [scan, he, if_pos hcount]

end

/-! ### The counters and the waiting presses -/

/-- How many presses of each key wait. -/
def waitingCounts (w : List MacroEvent) (code : UInt8) : ℕ := (waitingCodes w).count code

lemma waitingCounts_concat (w : List MacroEvent) (p : MacroEvent) :
    waitingCounts (w ++ [p]) =
      Function.update (waitingCounts w) p.key.code (waitingCounts w p.key.code + 1) := by
  funext code
  rw [waitingCounts, waitingCodes_concat, Multiset.count_cons, Function.update_apply]
  split_ifs with hcode
  · rw [hcode]
    rfl
  · rfl

lemma waitingCounts_middle (u v : List MacroEvent) (p : MacroEvent) :
    waitingCounts (u ++ v) = Function.update (waitingCounts (u ++ p :: v)) p.key.code
      (waitingCounts (u ++ p :: v) p.key.code - 1) := by
  funext code
  simp only [waitingCounts, waitingCodes_middle, Multiset.count_cons, Function.update_apply]
  split_ifs with hcode
  · rw [hcode]
    omega
  · rfl

/-- The scan keeps what the reading with a queue keeps, and its counters are those of the queue. -/
lemma scan_eq_matchReleases (m : MacroType) (i : ℕ) (w : List MacroEvent) :
    scan (waitingCounts w) m =
      ((matchReleases i w m).kept, waitingCounts (matchReleases i w m).waiting) := by
  refine matchReleases_induct
    (motive := fun _ w m r => scan (waitingCounts w) m = (r.kept, waitingCounts r.waiting))
    ?nil ?press ?unknown ?redundant ?release m i w
  case nil =>
    intro i w
    rfl
  case press =>
    intro i w e m r he ih
    rw [waitingCounts_concat] at ih
    rw [scan_press he, ih]
    rfl
  case unknown =>
    intro i w e m r he ih
    rw [scan_unknown he, ih]
    rfl
  case redundant =>
    intro i w e m r he hnone ih
    have hcount : waitingCounts w e.code = 0 :=
      Multiset.count_eq_zero_of_notMem (notMem_waitingCodes hnone)
    rw [scan_redundant he hcount, ih]
    rfl
  case release =>
    intro i u p v e m r he hu hp ih
    have hcount : 0 < waitingCounts (u ++ p :: v) e.code := by
      rw [waitingCounts, waitingCodes_middle, hp, Multiset.count_cons_self]
      exact Nat.succ_pos _
    rw [waitingCounts_middle u v p, hp] at ih
    rw [scan_release he hcount, ih]
    rfl

/-! ### The added releases -/

lemma addMissingReleases_fst (ps rs : List MacroEvent) (m : MacroType) :
    (addMissingReleases ps rs m).1 =
      m ++ (unmatchedPresses ps rs).map fun p => missingRelease p.key := by
  induction ps generalizing rs m with
  | nil => simp [addMissingReleases, unmatchedPresses]
  | cons p ps ih =>
    rcases htake : takeRelease p rs with _ | ⟨r, rest⟩
    · simp only [addMissingReleases, unmatchedPresses, htake, ih, List.map_cons,
        List.append_assoc, List.singleton_append]
    · simp only [addMissingReleases, unmatchedPresses, htake, ih]

/-- The presses that the greedy matching leaves get the same releases as those that wait. -/
lemma map_openPresses (m : MacroType) :
    ((openPresses m).map fun p => missingRelease p.key) =
      (matchReleases 0 [] m).waiting.map fun p => missingRelease p.key := by
  have hqueue := addMissingReleases_eq m [] 0 [] (List.forall_mem_nil _)
  have hgreedy := addMissingReleases_fst (fillInVectors 0 m).1 (fillInVectors 0 m).2 []
  rw [List.nil_append] at hqueue
  rw [hqueue, List.nil_append, List.nil_append] at hgreedy
  exact hgreedy.symm

/-- Each key has as many presses without a release as its counter says. -/
lemma count_openPresses (m : MacroType) (code : UInt8) :
    ((openPresses m).map fun p => p.key.code).count code = (scan (fun _ => 0) m).2 code := by
  have hcodes := congrArg (List.map KeyEvent.code) (map_openPresses m)
  rw [List.map_map, List.map_map] at hcodes
  have hscan : scan (fun _ => 0) m = _ := scan_eq_matchReleases m 0 []
  simp only [hscan, waitingCounts, waitingCodes, Multiset.coe_count]
  exact congrArg (List.count code) hcodes

/-- `fixMacroReleaseEvents` is the scan: it keeps events of the macro in their order, and adds for
each key as many releases as presses are left without one. -/
theorem fixMacroReleaseEvents_eq_scannedReleases (m : MacroType) :
    fixMacroReleaseEvents (fillInVectors 0 m).1 (fillInVectors 0 m).2 m = scannedReleases m ∧
      (scan (fun _ => 0) m).1.Sublist m ∧
      ∀ code, ((openPresses m).map fun p => p.key.code).count code =
        (scan (fun _ => 0) m).2 code := by
  have hscan : scan (fun _ => 0) m = _ := scan_eq_matchReleases m 0 []
  refine ⟨?_, ?_, count_openPresses m⟩
  · rw [fixMacroReleaseEvents_eq, fixedReleases, scannedReleases, hscan, map_openPresses]
  · rw [hscan]
    exact kept_sublist m 0 []

end GLogiK
