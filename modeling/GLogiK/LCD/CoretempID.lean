import GLogiK.LCD.Coretemp
import Mathlib.Tactic.IntervalCases

/-!
# The directories of the packages

After each directory that was found the search goes on one number further on, whatever the number
of this directory was. It stops after number 11, and only there.
-/

namespace GLogiK

namespace Coretemp

variable {isDirectory : IsDirectory} {basedir : String} {dirs : ℕ → Bool} {x : UInt32}
  {fuel : ℕ} {ids found : List String}

/-- All questions about the paths are answered, and this is the answer. -/
def Answers (isDirectory : IsDirectory) (basedir : String) (dirs : ℕ → Bool) : Prop :=
  ∀ n, isDirectory (directoryPath basedir n) = .ok (dirs n)

/-! ### One search -/

lemma seekDirectoryPath_of_true (h : Answers isDirectory basedir dirs) (hx : dirs x.toNat = true) :
    seekDirectoryPath isDirectory basedir x = .ok (directoryPath basedir x.toNat) := by
  rw [seekDirectoryPath, h, hx]

lemma seekDirectoryPath_of_false (h : Answers isDirectory basedir dirs)
    (hx : dirs x.toNat = false) :
    seekDirectoryPath isDirectory basedir x =
      if x + 1 = 12 then .ok "" else seekDirectoryPath isDirectory basedir (x + 1) := by
  rw [seekDirectoryPath, h, hx]
  exact dite_eq_ite

lemma add_one_eq_twelve_iff : x + 1 = 12 ↔ x.toNat = 11 := by
  rw [← UInt32.toNat_inj, UInt32.toNat_add]
  have hx := x.toNat_lt
  simp only [UInt32.reduceToNat]
  omega

lemma add_one_toNat {n : ℕ} (hx : x.toNat ≤ n) (hn : n < 12) : (x + 1).toNat = x.toNat + 1 := by
  rw [UInt32.toNat_add]
  exact Nat.mod_eq_of_lt (show x.toNat + 1 < 4294967296 by omega)

/-- A search that starts before a directory finds one. -/
lemma exists_seekDirectoryPath (h : Answers isDirectory basedir dirs) {n : ℕ} (hn : n < 12)
    (hdir : dirs n = true) (hx : x.toNat ≤ n) :
    ∃ m, seekDirectoryPath isDirectory basedir x = .ok (directoryPath basedir m) := by
  induction hk : n - x.toNat generalizing x with
  | zero =>
    obtain rfl : x.toNat = n := by omega
    exact ⟨_, seekDirectoryPath_of_true h hdir⟩
  | succ k ih =>
    rcases hfirst : dirs x.toNat with _ | _
    · have hnext := add_one_toNat hx hn
      have hne : ¬ x + 1 = 12 := fun heq => by
        have htwelve := add_one_eq_twelve_iff.mp heq
        omega
      rw [seekDirectoryPath_of_false h hfirst, if_neg hne]
      exact ih (by omega) (by omega)
    · exact ⟨_, seekDirectoryPath_of_true h hfirst⟩

/-- Directory 11 is found from everywhere. -/
lemma exists_seekDirectoryPath_of_eleven (h : Answers isDirectory basedir dirs)
    (hdir : dirs 11 = true) (x : UInt32) :
    ∃ m, seekDirectoryPath isDirectory basedir x = .ok (directoryPath basedir m) := by
  induction hk : (11 - x).toNat using Nat.strong_induction_on generalizing x with
  | _ k ih =>
    rcases hfirst : dirs x.toNat with _ | _
    · have hne : ¬ x + 1 = 12 := fun heq => by
        rw [add_one_eq_twelve_iff.mp heq, hdir] at hfirst
        cases hfirst
      rw [seekDirectoryPath_of_false h hfirst, if_neg hne]
      exact ih _ (hk ▸ seek_decreasing hne) (x + 1) rfl
    · exact ⟨_, seekDirectoryPath_of_true h hfirst⟩

/-- Nothing is found after the last directory. -/
lemma seekDirectoryPath_eq_empty (h : Answers isDirectory basedir dirs) (hx : x.toNat < 12)
    (hnone : ∀ n, x.toNat ≤ n → n < 12 → dirs n = false) :
    seekDirectoryPath isDirectory basedir x = .ok "" := by
  induction hk : 11 - x.toNat generalizing x with
  | zero =>
    rw [seekDirectoryPath_of_false h (hnone _ le_rfl hx),
      if_pos (add_one_eq_twelve_iff.mpr (by omega))]
  | succ k ih =>
    have hnext := add_one_toNat le_rfl hx
    have hne : ¬ x + 1 = 12 := fun heq => by
      have htwelve := add_one_eq_twelve_iff.mp heq
      omega
    rw [seekDirectoryPath_of_false h (hnone _ le_rfl hx), if_neg hne]
    exact ih (by omega) (fun n hn => hnone n (by omega)) (by omega)

/-! ### All searches -/

lemma directoryPath_ne_empty (n : ℕ) : directoryPath coretempBasedir n ≠ "" := by
  intro hempty
  have hlength := congrArg String.length hempty
  rw [directoryPath, String.length_append] at hlength
  exact absurd hlength (by simp [coretempBasedir])

/-- A search that finds a directory. -/
lemma seekCoretempIDs_of_found {m : ℕ}
    (hfound : seekDirectoryPath isDirectory coretempBasedir x =
      .ok (directoryPath coretempBasedir m)) :
    seekCoretempIDs isDirectory (fuel + 1) x ids =
      seekCoretempIDs isDirectory fuel (x + 1) (ids ++ [directoryPath coretempBasedir m]) := by
  simp only [seekCoretempIDs, hfound, if_neg (directoryPath_ne_empty m)]

lemma length_le_of_seekCoretempIDs (h : seekCoretempIDs isDirectory fuel x ids = some found) :
    ids.length ≤ found.length := by
  induction fuel generalizing x ids with
  | zero => cases h
  | succ fuel ih =>
    rw [seekCoretempIDs] at h
    split at h
    · exact ih h
    · split_ifs at h
      · cases h
        exact le_rfl
      · exact Nat.le_of_succ_le ((List.length_append ▸ ih h :))

/-- One more directory is returned for each number up to the one of an existing directory. -/
lemma lt_length_of_seekCoretempIDs (h : Answers isDirectory coretempBasedir dirs) {n : ℕ}
    (hn : n < 12) (hdir : dirs n = true) (hx : x.toNat ≤ n)
    (hfound : seekCoretempIDs isDirectory fuel x ids = some found) :
    ids.length + (n - x.toNat) < found.length := by
  induction fuel generalizing x ids with
  | zero => cases hfound
  | succ fuel ih =>
    obtain ⟨m, hm⟩ := exists_seekDirectoryPath h hn hdir hx
    rw [seekCoretempIDs_of_found hm] at hfound
    have hnext := add_one_toNat hx hn
    rcases Nat.eq_or_lt_of_le hx with hlast | hlt
    · have hlength := length_le_of_seekCoretempIDs hfound
      rw [List.length_append, List.length_singleton] at hlength
      omega
    · have hlength := ih (by omega) hfound
      rw [List.length_append, List.length_singleton] at hlength
      omega

/-- When directory 11 exists the loop never ends. -/
lemma seekCoretempIDs_of_eleven (h : Answers isDirectory coretempBasedir dirs)
    (hdir : dirs 11 = true) (fuel : ℕ) (x : UInt32) (ids : List String) :
    seekCoretempIDs isDirectory fuel x ids = none := by
  induction fuel generalizing x ids with
  | zero => rfl
  | succ fuel ih =>
    obtain ⟨m, hm⟩ := exists_seekDirectoryPath_of_eleven h hdir x
    rw [seekCoretempIDs_of_found hm]
    exact ih _ _

/-- Directories that follow each other without a gap are all returned. -/
lemma seekCoretempIDs_of_lt (h : Answers isDirectory coretempBasedir dirs) {m : ℕ} (hm : m < 12)
    (hdirs : ∀ n < 12, dirs n = decide (n < m)) {n : ℕ} (hn : n ≤ m) :
    seekCoretempIDs isDirectory (m - n + 1) (.ofNat n) ids =
      some (ids ++ (List.range' n (m - n)).map (directoryPath coretempBasedir)) := by
  have hx : (UInt32.ofNat n).toNat = n := UInt32.toNat_ofNat_of_lt' (show n < 4294967296 by omega)
  induction hk : m - n generalizing n ids with
  | zero =>
    have hempty := @seekDirectoryPath_eq_empty _ _ _ (.ofNat n) h (by omega) fun k hk hlt => by
      rw [hdirs k hlt, decide_eq_false (by omega)]
    simp [seekCoretempIDs, hempty]
  | succ k ih =>
    have hdir : dirs (UInt32.ofNat n).toNat = true := by
      rw [hx, hdirs n (by omega), decide_eq_true (by omega)]
    have hstep : UInt32.ofNat n + 1 = .ofNat (n + 1) := (UInt32.ofNat_add n 1).symm
    have hnext := @ih (ids ++ [directoryPath coretempBasedir n]) (n + 1) (by omega)
      (UInt32.toNat_ofNat_of_lt' (show n + 1 < 4294967296 by omega)) (by omega)
    rw [seekCoretempIDs_of_found (seekDirectoryPath_of_true h hdir), hx, List.range'_succ,
      List.map_cons, hstep, hnext, List.append_assoc]
    rfl

/-! ### Directories without a gap -/

/-- The existing directories below 12, in increasing order. -/
def existingDirectories (dirs : ℕ → Bool) : List String :=
  ((List.range 12).filter dirs).map (directoryPath coretempBasedir)

/-- Each existing directory has all those before it. -/
def WithoutGap (dirs : ℕ → Bool) (k : ℕ) : Prop :=
  ∀ n < k, dirs n = true → ∀ m < n, dirs m = true

instance (dirs : ℕ → Bool) (k : ℕ) : Decidable (WithoutGap dirs k) :=
  inferInstanceAs (Decidable (∀ n < k, dirs n = true → ∀ m < n, dirs m = true))

/-- There are enough directories before each one of them. -/
lemma withoutGap_of_lt_countP (dirs : ℕ → Bool) (k : ℕ)
    (h : ∀ n < k, dirs n = true → n < (List.range k).countP dirs) : WithoutGap dirs k := by
  induction k with
  | zero => exact fun n hn => absurd hn (Nat.not_lt_zero n)
  | succ k ih =>
    rw [List.range_succ, List.countP_append, List.countP_singleton] at h
    rcases hlast : dirs k with _ | _
    · have hk := ih fun n hn hdir => by
        have hlt := h n (Nat.lt_succ_of_lt hn) hdir
        rwa [hlast, if_neg Bool.false_ne_true, Nat.add_zero] at hlt
      intro n hn hdir
      have hne : n ≠ k := fun heq => by
        rw [heq, hlast] at hdir
        cases hdir
      exact hk n (by omega) hdir
    · have hlt := h k (Nat.lt_succ_self k) hlast
      rw [hlast, if_pos rfl] at hlt
      have hall : (List.range k).countP dirs = (List.range k).length :=
        le_antisymm List.countP_le_length (by rw [List.length_range]; omega)
      intro n hn hdir m hm
      exact List.countP_eq_length.mp hall m (List.mem_range.mpr (by omega))

/-- The numbers of existing directories without a gap are the first numbers. -/
lemma exists_of_withoutGap (dirs : ℕ → Bool) (k : ℕ) (h : WithoutGap dirs k) :
    ∃ m ≤ k, ∀ n < k, dirs n = decide (n < m) := by
  induction k with
  | zero => exact ⟨0, le_rfl, fun n hn => absurd hn (Nat.not_lt_zero n)⟩
  | succ k ih =>
    rcases hlast : dirs k with _ | _
    · obtain ⟨m, hm, hdirs⟩ := ih fun n hn => h n (Nat.lt_succ_of_lt hn)
      refine ⟨m, Nat.le_succ_of_le hm, fun n hn => ?_⟩
      rcases Nat.lt_succ_iff_lt_or_eq.mp hn with hlt | rfl
      · exact hdirs n hlt
      · rw [hlast, decide_eq_false (by omega)]
    · refine ⟨k + 1, le_rfl, fun n hn => ?_⟩
      rw [decide_eq_true hn]
      rcases Nat.lt_succ_iff_lt_or_eq.mp hn with hlt | rfl
      · exact h k (Nat.lt_succ_self k) hlast n hlt
      · exact hlast

lemma existingDirectories_eq {m : ℕ} (hm : m < 12) (hdirs : ∀ n < 12, dirs n = decide (n < m)) :
    existingDirectories dirs = (List.range' 0 m).map (directoryPath coretempBasedir) := by
  have hfilter : (List.range 12).filter dirs = (List.range 12).filter fun n => n < m :=
    List.filter_congr fun n hn => hdirs n (List.mem_range.mp hn)
  rw [existingDirectories, hfilter]
  congr 1
  interval_cases m <;> rfl

end Coretemp

open Coretemp

/-- All directories below 12 are returned, each of them once and in increasing order, exactly when
directory 11 does not exist and there is no gap before any of them. -/
theorem getCoretempID_iff (isDirectory : IsDirectory) (dirs : ℕ → Bool)
    (h : Answers isDirectory coretempBasedir dirs) :
    (∃ fuel, getCoretempID isDirectory fuel = some (existingDirectories dirs)) ↔
      dirs 11 = false ∧ WithoutGap dirs 12 := by
  constructor
  · rintro ⟨fuel, hfound⟩
    refine ⟨?_, withoutGap_of_lt_countP dirs 12 fun n hn hdir => ?_⟩
    · by_contra heleven
      have hnone := seekCoretempIDs_of_eleven h (Bool.eq_true_of_not_eq_false heleven) fuel 0 []
      rw [getCoretempID, hnone] at hfound
      cases hfound
    · have hzero : (0 : UInt32).toNat ≤ n := Nat.zero_le n
      have hlt := lt_length_of_seekCoretempIDs h hn hdir hzero hfound
      rw [existingDirectories, List.length_map, ← List.countP_eq_length_filter] at hlt
      exact Nat.lt_of_le_of_lt (Nat.le_add_left _ _) hlt
  · rintro ⟨heleven, hgap⟩
    obtain ⟨m, hm, hdirs⟩ := exists_of_withoutGap dirs 12 hgap
    have hlt : m < 12 := by
      by_contra hge
      rw [hdirs 11 (by decide), decide_eq_true (by omega)] at heleven
      cases heleven
    exact ⟨m + 1, (seekCoretempIDs_of_lt h hlt hdirs (Nat.zero_le m)).trans
      (congrArg some (existingDirectories_eq hlt hdirs).symm)⟩

/-- A machine with one package. -/
theorem getCoretempID_zero : ∃ fuel,
    getCoretempID (fun path => .ok (path == directoryPath coretempBasedir 0)) fuel =
      some (existingDirectories fun n =>
        directoryPath coretempBasedir n == directoryPath coretempBasedir 0) :=
  (getCoretempID_iff _ _ fun _ => rfl).mpr ⟨by decide, by decide⟩

/-- Only directory 1 exists: it is found twice. -/
theorem not_getCoretempID_one : ¬ ∀ (isDirectory : IsDirectory) (dirs : ℕ → Bool),
    Answers isDirectory coretempBasedir dirs →
    ∃ fuel, getCoretempID isDirectory fuel = some (existingDirectories dirs) := by
  intro hall
  obtain ⟨fuel, hfound⟩ := hall
    (fun path => .ok (path == directoryPath coretempBasedir 1))
    (fun n => directoryPath coretempBasedir n == directoryPath coretempBasedir 1) fun _ => rfl
  have hlt := lt_length_of_seekCoretempIDs (fun _ => rfl) (show 1 < 12 by decide) (by decide)
    (by decide) hfound
  exact absurd hlt (by decide)

end GLogiK
