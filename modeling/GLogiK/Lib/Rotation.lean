import Mathlib.Data.List.Range

/-!
# Rotation

Places in a circle that are given one turn after another. A search goes on from a place to the next
one that may have a turn; the place itself is asked last.
-/

namespace Rotation

variable {p q : ℕ → Bool} {n i j d : ℕ}

/-! ### The next place -/

/-- The place that follows in the circle. -/
def succ (n i : ℕ) : ℕ := if i + 1 = n then 0 else i + 1

lemma succ_eq_mod (hi : i < n) : succ n i = (i + 1) % n := by
  rw [succ]
  split_ifs with hlast
  · rw [hlast, Nat.mod_self]
  · exact (Nat.mod_eq_of_lt (by omega)).symm

lemma succ_mod (hn : 0 < n) (i d : ℕ) : succ n ((i + d) % n) = (i + (d + 1)) % n := by
  rw [succ_eq_mod (Nat.mod_lt _ hn), Nat.mod_add_mod, Nat.add_assoc]

/-- The first place after this one that has the property. -/
def next (p : ℕ → Bool) (n i : ℕ) : Option ℕ :=
  ((List.range' 1 n).map fun d => (i + d) % n).find? p

/-- Each place lies somewhere in the round. -/
lemma exists_distance (i : ℕ) (hj : j < n) : ∃ d, 1 ≤ d ∧ d < 1 + n ∧ (i + d) % n = j := by
  have hi := Nat.mod_lt i (Nat.zero_lt_of_lt hj)
  rcases Nat.lt_or_ge (i % n) j with hlt | hge
  · refine ⟨j - i % n, by omega, by omega, ?_⟩
    rw [← Nat.mod_add_mod, Nat.add_sub_of_le hlt.le, Nat.mod_eq_of_lt hj]
  · refine ⟨n - i % n + j, by omega, by omega, ?_⟩
    have hround : i % n + (n - i % n + j) = n + j := by omega
    rw [← Nat.mod_add_mod, hround, Nat.add_mod_left, Nat.mod_eq_of_lt hj]

lemma next_isSome (i : ℕ) (hj : j < n) (hp : p j = true) : (next p n i).isSome := by
  obtain ⟨d, hd, hlt, rfl⟩ := exists_distance i hj
  rw [next, List.find?_isSome]
  exact ⟨_, List.mem_map_of_mem (List.mem_range'_1.mpr ⟨hd, hlt⟩), hp⟩

lemma next_spec (hn : 0 < n) (h : next p n i = some j) : j < n ∧ p j = true := by
  obtain ⟨d, -, rfl⟩ := List.mem_map.mp (List.mem_of_find?_eq_some h)
  exact ⟨Nat.mod_lt _ hn, List.find?_some h⟩

lemma next_eq_none (h : ∀ j < n, p j = false) (hn : 0 < n) : next p n i = none := by
  rw [next, List.find?_eq_none]
  intro j hj
  obtain ⟨d, -, rfl⟩ := List.mem_map.mp hj
  rw [h _ (Nat.mod_lt _ hn)]
  exact Bool.false_ne_true

/-! ### The search -/

/-- A loop that stops at a place that has the property, or when it is back at the first place. It
may run out of fuel. -/
def seek (p : ℕ → Bool) (n first : ℕ) : ℕ → ℕ → Option (Option ℕ)
  | 0, _        => none
  | fuel + 1, i =>
    if p (succ n i) then some (some (succ n i))
    else if succ n i = first then some none
    else seek p n first fuel (succ n i)

/-- The rest of a round. -/
lemma seek_eq_find? (hi : i < n) (k : ℕ) (hk : k + 1 + d = n) :
    seek p n i (k + 1) ((i + d) % n) =
      some (((List.range' (d + 1) (k + 1)).map fun d => (i + d) % n).find? p) := by
  induction k generalizing d with
  | zero =>
    have hround : (i + (d + 1)) % n = i := by
      rw [show d + 1 = n by omega, Nat.add_mod_right, Nat.mod_eq_of_lt hi]
    rw [seek, succ_mod (Nat.zero_lt_of_lt hi), hround, if_pos rfl]
    by_cases hp : p i <;> simp [hround, hp]
  | succ k ih =>
    have hne : (i + (d + 1)) % n ≠ i := by
      intro heq
      rcases Nat.lt_or_ge (i + (d + 1)) n with hlt | hge
      · rw [Nat.mod_eq_of_lt hlt] at heq
        omega
      · rw [Nat.mod_eq_sub_mod hge, Nat.mod_eq_of_lt (by omega)] at heq
        omega
    have hlist : List.range' (d + 1) (k + 1 + 1) = (d + 1) :: List.range' (d + 1 + 1) (k + 1) :=
      List.range'_succ
    rw [seek, succ_mod (Nat.zero_lt_of_lt hi), if_neg hne, ih (by omega), hlist, List.map_cons,
      List.find?_cons]
    by_cases hp : p ((i + (d + 1)) % n)
    · rw [if_pos hp, hp]
    · rw [if_neg hp, Bool.eq_false_iff.mpr hp]

/-- One round is enough for the search. -/
lemma seek_eq_next (hi : i < n) : seek p n i n i = some (next p n i) := by
  cases n with
  | zero => exact absurd hi (Nat.not_lt_zero i)
  | succ k =>
    have hround := @seek_eq_find? p (k + 1) i 0 hi k rfl
    have hstart : (i + 0) % (k + 1) = i := Nat.mod_eq_of_lt hi
    rw [hstart] at hround
    exact hround

/-! ### Turns -/

/-- Who has the first turns, when the place `i` has still `rest` of them and each following place
has its own number. -/
def turns (follow length : ℕ → ℕ) : ℕ → ℕ → ℕ → List ℕ
  | 0, _, _            => []
  | k + 1, i, 0        => follow i :: turns follow length k (follow i) (length (follow i) - 1)
  | k + 1, i, rest + 1 => i :: turns follow length k i rest

/-- The turns of all places one after another, in as many rounds as are needed. -/
def allTurns (follow length : ℕ → ℕ) (i k : ℕ) : List ℕ :=
  (List.range k).flatMap fun t => List.replicate (length (follow^[t + 1] i)) (follow^[t + 1] i)

lemma le_length_allTurns {follow length : ℕ → ℕ} (hlength : ∀ i, 0 < length (follow i)) (i k : ℕ) :
    k ≤ (allTurns follow length i k).length := by
  induction k with
  | zero => exact Nat.zero_le _
  | succ k ih =>
    have hpos := hlength (follow^[k] i)
    rw [← Function.iterate_succ_apply' follow k i] at hpos
    rw [allTurns, List.range_succ, List.flatMap_append, List.length_append, List.flatMap_singleton,
      List.length_replicate]
    exact Nat.add_le_add ih hpos

lemma allTurns_succ (follow length : ℕ → ℕ) (i k : ℕ) :
    allTurns follow length i (k + 1) =
      List.replicate (length (follow i)) (follow i) ++ allTurns follow length (follow i) k := by
  rw [allTurns, List.range_succ_eq_map, List.flatMap_cons, List.flatMap_map]
  rfl

/-- The turns of a place are consecutive. -/
lemma turns_eq_take {follow length : ℕ → ℕ} (hlength : ∀ i, 0 < length (follow i)) (k i rest : ℕ) :
    turns follow length k i rest =
      (List.replicate rest i ++ allTurns follow length i k).take k := by
  induction k generalizing i rest with
  | zero => rfl
  | succ k ih =>
    cases rest with
    | zero =>
      obtain ⟨l, hl⟩ := Nat.exists_eq_succ_of_ne_zero (hlength i).ne'
      rw [turns, ih, allTurns_succ, hl]
      rfl
    | succ rest =>
      have hlast : allTurns follow length i (k + 1) =
          allTurns follow length i k ++
            List.replicate (length (follow^[k + 1] i)) (follow^[k + 1] i) := by
        rw [allTurns, List.range_succ, List.flatMap_append, List.flatMap_singleton]
        rfl
      have henough : k ≤ (List.replicate rest i ++ allTurns follow length i k).length := by
        rw [List.length_append]
        exact Nat.le_add_left_of_le (le_length_allTurns hlength i k)
      rw [turns, ih, List.replicate_succ, List.cons_append, List.take_succ_cons, hlast,
        ← List.append_assoc (List.replicate rest i), List.take_append_of_le_length henough]

end Rotation
