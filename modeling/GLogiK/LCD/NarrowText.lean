import GLogiK.LCD.PaintedText

/-!
# Texts in the narrow font

All characters of the narrow font go on by five pixels, so that the region of a text only depends
on how long it is.
-/

namespace GLogiK

open Bitmap

/-! ### Regions -/

/-- A row of characters that ends at the right border. -/
def rightRegion (y x : ℕ) : Set ℕ := {p | y ≤ p / 160 ∧ p / 160 < y + 10 ∧ x ≤ p % 160}

lemma mem_rightRegion {y x p : ℕ} :
    p ∈ rightRegion y x ↔ y ≤ p / 160 ∧ p / 160 < y + 10 ∧ x ≤ p % 160 :=
  Iff.rfl

lemma rightRegion_subset {y x x' : ℕ} (h : x' ≤ x) : rightRegion y x ⊆ rightRegion y x' :=
  fun _ hp => ⟨hp.1, hp.2.1, h.trans hp.2.2⟩

namespace PBMFont

variable {PBMData : PixelsData} {y x n p : ℕ} {c : Char} {cs : List Char}

/-- A text stays in its rows, and on the right of its place. -/
lemma textRegion_bounds {font : PBMFont} (hp : p ∈ font.textRegion y x cs) :
    y ≤ p / 160 ∧ p / 160 < y + font.charHeight.toNat ∧ x ≤ p % 160 := by
  induction cs generalizing x with
  | nil => exact hp.elim
  | cons c cs ih =>
    obtain ⟨-, hfirst | hrest⟩ := hp
    · exact ⟨hfirst.1, hfirst.2.1, hfirst.2.2.1⟩
    · obtain ⟨hlo, hhi, hx⟩ := ih hrest
      exact ⟨hlo, hhi, (Nat.le_add_right _ _).trans hx⟩

/-- The characters of the narrow font. -/
def AllKnown (cs : List Char) : Prop := ∀ c ∈ cs, (defaultCharsMap.lookup c).isSome

instance (cs : List Char) : Decidable (AllKnown cs) :=
  List.decidableBAll (fun c => (defaultCharsMap.lookup c).isSome) cs

lemma accepted_monospace85 (hc : (defaultCharsMap.lookup c).isSome) (hx : x + 5 < 160)
    (hy : y + 10 < 43) : (FontMonospace85 PBMData).Accepted y x c :=
  ⟨hc, hx, hy⟩

lemma advance_monospace85 : (FontMonospace85 PBMData).advance c = 5 := by
  simp [advance, nextXPos, FontMonospace85]

/-- As many characters as there is place for are printed. -/
lemma textRegion_monospace85 (hknown : AllKnown cs) (hn : 0 < n) (hlength : n ≤ cs.length)
    (hx : x + 5 * n = 159) (hy : y + 10 < 43) :
    (FontMonospace85 PBMData).textRegion y x cs = rightRegion y x := by
  induction n generalizing x cs with
  | zero => cases hn
  | succ n ih =>
    cases cs with
    | nil => cases hlength
    | cons c cs =>
      obtain ⟨hc, hcs⟩ := List.forall_mem_cons.mp hknown
      have haccepted := @accepted_monospace85 PBMData y x c hc (by omega) hy
      rw [textRegion_of_accepted haccepted, advance_monospace85]
      have hrest : (FontMonospace85 PBMData).textRegion y (x + 5) cs = rightRegion y (x + 5) ∨
          n = 0 ∧ (FontMonospace85 PBMData).textRegion y (x + 5) cs = ∅ := by
        rcases Nat.eq_zero_or_pos n with rfl | hpos
        · refine .inr ⟨rfl, ?_⟩
          cases cs with
          | nil => rfl
          | cons c cs =>
            refine textRegion_of_refused (fun h => ?_) cs
            have hlast : x + 5 + 5 < 160 := h.2.1
            omega
        · exact .inl (ih hcs hpos (Nat.le_of_succ_le_succ hlength) (by omega))
      ext p
      have hchar : p ∈ (FontMonospace85 PBMData).charRegion y x ↔ y ≤ p / 160 ∧ p / 160 < y + 10 ∧
          x ≤ p % 160 ∧ p % 160 / 8 ≤ (x + 5 - 1) / 8 := Iff.rfl
      rcases hrest with hrest | ⟨rfl, hrest⟩
      · rw [hrest, Set.mem_union, hchar, mem_rightRegion, mem_rightRegion]
        omega
      · rw [hrest, Set.union_empty, hchar, mem_rightRegion]
        omega

/-- The cells of the characters that are printed. -/
lemma mem_textRegion_monospace85 (hknown : AllKnown cs) (hx : x + 5 * cs.length ≤ 159)
    (hy : y + 10 < 43) (hp : p ∈ rightRegion y x) (hend : p % 160 < x + 5 * cs.length) :
    p ∈ (FontMonospace85 PBMData).textRegion y x cs := by
  induction cs generalizing x with
  | nil => exact absurd hp.2.2 (not_le.mpr hend)
  | cons c cs ih =>
    obtain ⟨hc, hcs⟩ := List.forall_mem_cons.mp hknown
    rw [List.length_cons] at hx hend
    obtain ⟨hlo, hhi, hcol⟩ := hp
    rw [textRegion_of_accepted (accepted_monospace85 hc (by omega) hy), advance_monospace85]
    by_cases hfirst : p % 160 < x + 5
    · have hbyte : p % 160 / 8 ≤ (x + 5 - 1) / 8 := by omega
      exact .inl ⟨hlo, hhi, hcol, hbyte⟩
    · exact .inr (ih hcs (by omega) ⟨hlo, hhi, not_lt.mp hfirst⟩ (by omega))

lemma printedChars_monospace85 (hknown : AllKnown cs) (hx : x + 5 * cs.length ≤ 159)
    (hy : y + 10 < 43) : (FontMonospace85 PBMData).printedChars y x cs = cs := by
  induction cs generalizing x with
  | nil => rfl
  | cons c cs ih =>
    obtain ⟨hc, hcs⟩ := List.forall_mem_cons.mp hknown
    rw [List.length_cons] at hx
    rw [printedChars, if_pos (accepted_monospace85 hc (by omega) hy), advance_monospace85,
      ih hcs (by omega)]

lemma totalAdvance_monospace85 : (FontMonospace85 PBMData).totalAdvance cs = 5 * cs.length := by
  induction cs with
  | nil => rfl
  | cons c cs ih =>
    rw [totalAdvance_cons, advance_monospace85, ih, List.length_cons]
    omega

/-! ### Known characters -/

lemma AllKnown.append {cs' : List Char} (h : AllKnown cs) (h' : AllKnown cs') :
    AllKnown (cs ++ cs') :=
  List.forall_mem_append.mpr ⟨h, h'⟩

lemma allKnown_replicate (hc : (defaultCharsMap.lookup c).isSome) (n : ℕ) :
    AllKnown (List.replicate n c) := fun _ h => List.eq_of_mem_replicate h ▸ hc

lemma allKnown_toDigits (n : ℕ) : AllKnown (Nat.toDigits 10 n) := by
  intro c hc
  have hdigit := Nat.isDigit_of_mem_toDigits (by decide) (by decide) hc
  obtain ⟨hlo, hhi⟩ : 48 ≤ c.toNat ∧ c.toNat ≤ 57 := by
    rw [Char.isDigit, Bool.and_eq_true, decide_eq_true_eq, decide_eq_true_eq] at hdigit
    exact hdigit
  rw [← Char.ofNat_toNat c]
  generalize c.toNat = k at hlo hhi
  interval_cases k <;> decide

/-- A text ends in the byte of its last character. -/
lemma textRegion_monospace85_le {p : ℕ} (hp : p ∈ (FontMonospace85 PBMData).textRegion y x cs) :
    p % 160 / 8 ≤ (x + 5 * cs.length - 1) / 8 := by
  induction cs generalizing x with
  | nil => exact hp.elim
  | cons c cs ih =>
    rw [List.length_cons]
    obtain ⟨-, hfirst | hrest⟩ := hp
    · have hend : p % 160 / 8 ≤ (x + 5 - 1) / 8 := hfirst.2.2.2
      omega
    · rw [advance_monospace85] at hrest
      have hend := ih hrest
      omega

end PBMFont

end GLogiK
