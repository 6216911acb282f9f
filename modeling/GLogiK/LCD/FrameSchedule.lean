import GLogiK.LCD.ScreenPlugins
import GLogiK.Lib.Rotation
import GLogiK.Lib.Run

/-!
# The schedule of the frames

A plugin shows its frames in a circle, each one for as many calls as it was added with. The index of
the current frame is kept a second time with 16 bits, so that it is the position of the frame only
when there are not too many of them.
-/

namespace GLogiK

open Rotation

namespace LCDPlugin

variable {plugin : LCDPlugin} {frames : List UInt16}

/-! ### What is selected -/

/-- The positions of the frames that the next calls select. -/
def selectedPBMFrames : ℕ → LCDPlugin → List ℕ
  | 0, _          => []
  | k + 1, plugin =>
    plugin.prepareNextPBMFrame.itCurrentPBMFrame :: selectedPBMFrames k plugin.prepareNextPBMFrame

/-- For how many calls a frame is shown. -/
def shownFor (frames : List UInt16) (i : ℕ) : ℕ := (frames.getD i 0).toNat

/-- The frames from the first one on, round and round, each one as often as it is shown. -/
def cyclicSchedule (frames : List UInt16) (turns : ℕ) : List ℕ :=
  (List.range turns).flatMap fun t =>
    List.replicate (shownFor frames (t % frames.length)) (t % frames.length)

/-- The position that follows in the circle. -/
def nextPosition (frames : List UInt16) (i : ℕ) : ℕ := (i + 1) % frames.length

lemma shownFor_pos (hpos : ∀ num ∈ frames, 0 < num) {i : ℕ} (hi : i < frames.length) :
    0 < shownFor frames i := by
  rw [shownFor, List.getD_eq_getElem _ _ hi]
  exact UInt16.lt_iff_toNat_lt.mp (hpos _ (List.getElem_mem hi))

lemma nextPBMFrameIndex_eq : plugin.nextPBMFrameIndex =
    nextPosition plugin.PBMFrames plugin.itCurrentPBMFrame :=
  succ_eq_mod plugin.current_lt

/-! ### One call -/

lemma PBMFrames_prepareNextPBMFrame : plugin.prepareNextPBMFrame.PBMFrames = plugin.PBMFrames := by
  rw [prepareNextPBMFrame]
  split_ifs <;> rfl

/-- The current frame is shown once more. -/
lemma prepareNextPBMFrame_of_lt
    (h : plugin.PBMFrameCounter.toNat < shownFor plugin.PBMFrames plugin.itCurrentPBMFrame) :
    plugin.prepareNextPBMFrame.itCurrentPBMFrame = plugin.itCurrentPBMFrame ∧
      plugin.prepareNextPBMFrame.PBMFrameCounter.toNat = plugin.PBMFrameCounter.toNat + 1 := by
  have hless := UInt16.lt_iff_toNat_lt.mpr h
  have hbound := (plugin.PBMFrames.getD plugin.itCurrentPBMFrame 0).toNat_lt
  have hcounter : (plugin.PBMFrameCounter + 1).toNat = plugin.PBMFrameCounter.toNat + 1 := by
    rw [UInt16.toNat_add]
    exact Nat.mod_eq_of_lt (Nat.lt_of_le_of_lt (Nat.succ_le_of_lt h) hbound)
  rw [prepareNextPBMFrame, if_neg (UInt16.not_le.mpr hless)]
  exact ⟨rfl, hcounter⟩

/-- The next frame has its first call. -/
lemma prepareNextPBMFrame_of_le
    (h : shownFor plugin.PBMFrames plugin.itCurrentPBMFrame ≤ plugin.PBMFrameCounter.toNat) :
    plugin.prepareNextPBMFrame.itCurrentPBMFrame =
        nextPosition plugin.PBMFrames plugin.itCurrentPBMFrame ∧
      plugin.prepareNextPBMFrame.PBMFrameCounter.toNat = 1 := by
  rw [prepareNextPBMFrame, if_pos (UInt16.le_iff_toNat_le.mpr h)]
  exact ⟨nextPBMFrameIndex_eq, rfl⟩

/-! ### All calls -/

lemma selectedPBMFrames_eq_turns (hframes : plugin.PBMFrames = frames) (k : ℕ) :
    selectedPBMFrames k plugin =
      turns (nextPosition frames) (shownFor frames) k plugin.itCurrentPBMFrame
        (shownFor frames plugin.itCurrentPBMFrame - plugin.PBMFrameCounter.toNat) := by
  induction k generalizing plugin with
  | zero => rfl
  | succ k ih =>
    have hrest := ih (PBMFrames_prepareNextPBMFrame.trans hframes)
    rw [selectedPBMFrames, hrest]
    subst hframes
    by_cases hmore :
        plugin.PBMFrameCounter.toNat < shownFor plugin.PBMFrames plugin.itCurrentPBMFrame
    · obtain ⟨hcurrent, hcounter⟩ := prepareNextPBMFrame_of_lt hmore
      have hremaining : shownFor plugin.PBMFrames plugin.itCurrentPBMFrame -
          plugin.PBMFrameCounter.toNat =
            shownFor plugin.PBMFrames plugin.itCurrentPBMFrame -
              (plugin.PBMFrameCounter.toNat + 1) + 1 := by
        omega
      rw [hcurrent, hcounter, hremaining, turns]
    · obtain ⟨hcurrent, hcounter⟩ := prepareNextPBMFrame_of_le (not_lt.mp hmore)
      rw [hcurrent, hcounter, Nat.sub_eq_zero_of_le (not_lt.mp hmore), turns]

lemma iterate_nextPosition (t : ℕ) :
    (nextPosition frames)^[t] 0 = t % frames.length := by
  induction t with
  | zero => rw [Nat.zero_mod, Function.iterate_zero_apply]
  | succ t ih => rw [Function.iterate_succ_apply', ih, nextPosition, Nat.mod_add_mod]

/-- The first frame and all turns after it are the schedule. -/
lemma cyclicSchedule_succ (k : ℕ) :
    cyclicSchedule frames (k + 1) =
      List.replicate (shownFor frames 0) 0 ++
        allTurns (nextPosition frames) (shownFor frames) 0 k := by
  rw [cyclicSchedule, List.range_succ_eq_map, List.flatMap_cons, List.flatMap_map, Nat.zero_mod,
    allTurns]
  simp only [iterate_nextPosition]

lemma le_length_cyclicSchedule (hpos : ∀ num ∈ frames, 0 < num) (hne : 0 < frames.length) (k : ℕ) :
    k ≤ (cyclicSchedule frames k).length := by
  induction k with
  | zero => exact Nat.zero_le _
  | succ k ih =>
    have hlast := shownFor_pos hpos (Nat.mod_lt k hne)
    rw [cyclicSchedule, List.range_succ, List.flatMap_append, List.flatMap_singleton,
      List.length_append, List.length_replicate]
    exact Nat.add_le_add ih hlast

lemma selectedPBMFrames_resetPBMFrameIndex (hpos : ∀ num ∈ plugin.PBMFrames, 0 < num) (k : ℕ) :
    selectedPBMFrames k plugin.resetPBMFrameIndex =
      (cyclicSchedule plugin.PBMFrames k).take k := by
  have hne := plugin.PBMFrames_pos
  have hlength : ∀ i, 0 < shownFor plugin.PBMFrames (nextPosition plugin.PBMFrames i) :=
    fun i => shownFor_pos hpos (Nat.mod_lt _ hne)
  have hturns := @selectedPBMFrames_eq_turns plugin.resetPBMFrameIndex plugin.PBMFrames rfl k
  have hschedule : cyclicSchedule plugin.PBMFrames (k + 1) =
      cyclicSchedule plugin.PBMFrames k ++
        List.replicate (shownFor plugin.PBMFrames (k % plugin.PBMFrames.length))
          (k % plugin.PBMFrames.length) := by
    rw [cyclicSchedule, List.range_succ, List.flatMap_append, List.flatMap_singleton]
    rfl
  rw [turns_eq_take hlength] at hturns
  rw [hturns, ← List.take_append_of_le_length (le_length_cyclicSchedule hpos hne k), ← hschedule,
    cyclicSchedule_succ]
  rfl

/-! ### The index of the current frame -/

/-- What changes the current frame. -/
inductive FrameEvent
  | resetPBMFrameIndex
  | prepareNextPBMFrame
  | writeStringOnLastPBMFrame
  deriving DecidableEq, Repr

def frameStep (plugin : LCDPlugin) : FrameEvent → LCDPlugin
  | .resetPBMFrameIndex        => plugin.resetPBMFrameIndex
  | .prepareNextPBMFrame       => plugin.prepareNextPBMFrame
  | .writeStringOnLastPBMFrame => plugin.writeStringOnLastPBMFrame

/-- The index has the low 16 bits of the position. -/
def Indexed (plugin : LCDPlugin) : Prop :=
  plugin.PBMFrameIndex = .ofNat plugin.itCurrentPBMFrame

lemma Indexed.prepareNextPBMFrame (h : plugin.Indexed) : plugin.prepareNextPBMFrame.Indexed := by
  rw [LCDPlugin.prepareNextPBMFrame]
  split_ifs
  · rfl
  · exact h

lemma Indexed.frameStep (h : plugin.Indexed) (event : FrameEvent) :
    (plugin.frameStep event).Indexed := by
  cases event with
  | resetPBMFrameIndex => rfl
  | prepareNextPBMFrame => exact h.prepareNextPBMFrame
  | writeStringOnLastPBMFrame => rfl

lemma PBMFrames_frameStep (event : FrameEvent) :
    (plugin.frameStep event).PBMFrames = plugin.PBMFrames := by
  cases event with
  | resetPBMFrameIndex => rfl
  | prepareNextPBMFrame => exact PBMFrames_prepareNextPBMFrame
  | writeStringOnLastPBMFrame => rfl

lemma PBMFrames_run (events : List FrameEvent) :
    (Run.run frameStep plugin events).PBMFrames = plugin.PBMFrames := by
  induction events generalizing plugin with
  | nil => rfl
  | cons event events ih => exact ih.trans (PBMFrames_frameStep event)

lemma indexed_run (events : List FrameEvent) :
    (Run.run frameStep plugin.resetPBMFrameIndex events).Indexed :=
  (Run.steps_true events).induction (show plugin.resetPBMFrameIndex.Indexed from rfl)
    fun _ event h _ => h.frameStep event

/-- Frames that are shown once follow each other. -/
lemma itCurrentPBMFrame_of_once {n : ℕ} (hframes : plugin.PBMFrames = List.replicate n 1) {k : ℕ}
    (hk : k < n) :
    (Run.run frameStep plugin.resetPBMFrameIndex
        (List.replicate (k + 1) .prepareNextPBMFrame)).itCurrentPBMFrame = k ∧
      (Run.run frameStep plugin.resetPBMFrameIndex
        (List.replicate (k + 1) .prepareNextPBMFrame)).PBMFrameCounter.toNat = 1 := by
  have honce : ∀ i < n, shownFor (List.replicate n 1) i = 1 := by
    intro i hi
    rw [shownFor, List.getD_replicate _ hi]
    rfl
  induction k with
  | zero =>
    have hfirst := @prepareNextPBMFrame_of_lt plugin.resetPBMFrameIndex
      (by
        have hshown := honce 0 hk
        rw [← hframes] at hshown
        exact Nat.lt_of_lt_of_eq Nat.zero_lt_one hshown.symm)
    exact ⟨hfirst.1, hfirst.2⟩
  | succ k ih =>
    obtain ⟨hcurrent, hcounter⟩ := ih (Nat.lt_of_succ_lt hk)
    have hsame := @PBMFrames_run plugin.resetPBMFrameIndex
      (List.replicate (k + 1) .prepareNextPBMFrame)
    rw [show plugin.resetPBMFrameIndex.PBMFrames = _ from hframes] at hsame
    rw [List.replicate_succ', Run.run_append]
    generalize Run.run frameStep plugin.resetPBMFrameIndex
      (List.replicate (k + 1) .prepareNextPBMFrame) = p at hcurrent hcounter hsame
    have hnext := @prepareNextPBMFrame_of_le p
      (by rw [hsame, hcurrent, honce k (Nat.lt_of_succ_lt hk), hcounter])
    rw [hsame, hcurrent, nextPosition, List.length_replicate, Nat.mod_eq_of_lt hk] at hnext
    exact hnext

end LCDPlugin

open LCDPlugin

/-- After a reset the frames are selected in a circle, each one for as many calls as it was added
with. The index of the current frame is its position modulo 65536, and its position when there are
not more frames than that. -/
theorem selectedPBMFrames_cyclic (plugin : LCDPlugin) (hpos : ∀ num ∈ plugin.PBMFrames, 0 < num) :
    (∀ k, selectedPBMFrames k plugin.resetPBMFrameIndex =
      (cyclicSchedule plugin.PBMFrames k).take k) ∧
    ∀ events : List FrameEvent,
      let p := Run.run frameStep plugin.resetPBMFrameIndex events
      p.PBMFrameIndex.toNat = p.itCurrentPBMFrame % 65536 ∧
        (plugin.PBMFrames.length ≤ 65536 → p.PBMFrameIndex.toNat = p.itCurrentPBMFrame) := by
  refine ⟨selectedPBMFrames_resetPBMFrameIndex hpos, fun events => ?_⟩
  have hindexed := @indexed_run plugin events
  have hframes := @PBMFrames_run plugin.resetPBMFrameIndex events
  have hlow : (Run.run frameStep plugin.resetPBMFrameIndex events).PBMFrameIndex.toNat =
      (Run.run frameStep plugin.resetPBMFrameIndex events).itCurrentPBMFrame % 65536 := by
    rw [hindexed]
    exact UInt16.toNat_ofNat'
  refine ⟨hlow, fun hfew => ?_⟩
  have hlt := (Run.run frameStep plugin.resetPBMFrameIndex events).current_lt
  rw [hframes] at hlt
  rw [hlow, Nat.mod_eq_of_lt (Nat.lt_of_lt_of_le hlt hfew)]

/-- A frame that is shown once, and one that is shown for three calls. -/
def twoFrames : LCDPlugin where
  pluginID := GK_LCD_SPLASHSCREEN
  pluginTempo := .TEMPO_400_15
  PBMFrames := [1, 3]
  current_lt := Nat.two_pos

theorem selectedPBMFrames_cyclic_two : (∀ num ∈ twoFrames.PBMFrames, 0 < num) ∧
    selectedPBMFrames 6 twoFrames.resetPBMFrameIndex = [0, 1, 1, 1, 0, 1] := by
  have hpos : ∀ num ∈ twoFrames.PBMFrames, 0 < num :=
    List.forall_mem_cons.mpr ⟨by decide, List.forall_mem_singleton.mpr (by decide)⟩
  exact ⟨hpos, ((selectedPBMFrames_cyclic twoFrames hpos).1 6).trans rfl⟩

/-- As many frames as are needed for a position that has more than 16 bits. -/
def manyFrames : LCDPlugin where
  pluginID := GK_LCD_SPLASHSCREEN
  pluginTempo := .TEMPO_400_15
  PBMFrames := List.replicate 65537 1
  current_lt := List.length_replicate ▸ Nat.succ_pos 65536

/-- The index of the last of these frames is 0. -/
theorem not_index_manyFrames : ¬ ∀ plugin : LCDPlugin, (∀ num ∈ plugin.PBMFrames, 0 < num) →
    ∀ events : List FrameEvent,
      let p := Run.run frameStep plugin.resetPBMFrameIndex events
      p.PBMFrameIndex.toNat = p.itCurrentPBMFrame := by
  intro hall
  have hindex : (Run.run frameStep manyFrames.resetPBMFrameIndex
      (List.replicate 65537 .prepareNextPBMFrame)).PBMFrameIndex.toNat = _ :=
    hall manyFrames
      (fun num hnum => List.eq_of_mem_replicate hnum ▸ (by decide : (0 : UInt16) < 1)) _
  have hlast := (@itCurrentPBMFrame_of_once manyFrames 65537 rfl 65536 (Nat.lt_succ_self _)).1
  have hindexed := @indexed_run manyFrames (List.replicate 65537 .prepareNextPBMFrame)
  rw [hindexed, hlast] at hindex
  exact absurd hindex (by decide)

end GLogiK
