import GLogiK.Lib.Actions
import Mathlib.Data.List.Basic
import Mathlib.Data.List.TakeWhile

/-!
# Input streams that throw

What is left of a stream, what was taken from it, and whether its end was met. A read that fails
throws, and so does every read that begins after the end was met.
-/

open Actions

/-- The last symbol taken is the first one of `past`. -/
structure InputStream (α : Type) where
  past : List α := []
  rest : List α
  eofbit : Bool := false
  deriving DecidableEq, Repr

namespace InputStream

variable {ε α β : Type} {fail : ε} {s s' : InputStream α}

/-! ### Reading -/

/-- The symbols were taken from the stream. -/
def taken (s : InputStream α) (symbols rest : List α) : InputStream α :=
  { past := symbols.reverse ++ s.past, rest := rest, eofbit := false }

/-- Nothing is left. -/
def atEnd (s : InputStream α) : InputStream α :=
  { past := s.rest.reverse ++ s.past, rest := [], eofbit := true }

/-- Nothing is read once the end was met. -/
def whenGood (fail : ε) (x : Action ε (InputStream α) β) : Action ε (InputStream α) β := fun s =>
  if s.eofbit then (.error fail, s) else x s

def get (fail : ε) : Action ε (InputStream α) α :=
  whenGood fail fun s =>
    match s.rest with
    | []        => (.error fail, s.atEnd)
    | c :: rest => (.ok c, s.taken [c] rest)

def unget (fail : ε) : Action ε (InputStream α) Unit := fun s =>
  match s.past with
  | []        => (.error fail, { s with eofbit := false })
  | c :: past => (.ok (), { past := past, rest := c :: s.rest, eofbit := false })

/-- The symbols up to the delimiter, which is taken too, or up to the end. -/
def getline [DecidableEq α] (fail : ε) (delim : α) : Action ε (InputStream α) (List α) :=
  whenGood fail fun s =>
    let line := s.rest.takeWhile (· ≠ delim)
    match s.rest.dropWhile (· ≠ delim) with
    | []        => (if line = [] then .error fail else .ok line, s.atEnd)
    | c :: rest => (.ok line, s.taken (line ++ [c]) rest)

def read (fail : ε) (n : ℕ) : Action ε (InputStream α) (List α) :=
  whenGood fail fun s =>
    if s.rest.length < n then (.error fail, s.atEnd)
    else (.ok (s.rest.take n), s.taken (s.rest.take n) (s.rest.drop n))

def ignore (fail : ε) : Action ε (InputStream α) Unit :=
  whenGood fail fun s =>
    match s.rest with
    | []        => (.ok (), s.atEnd)
    | c :: rest => (.ok (), s.taken [c] rest)

def eof : Action ε (InputStream α) Bool := fun s => (.ok s.eofbit, s)

/-! ### What was read -/

lemma whenGood_of_good {x : Action ε (InputStream α) β} (h : s.eofbit = false) :
    whenGood fail x s = x s := by
  rw [whenGood, h]
  rfl

lemma whenGood_eq_ok {x : Action ε (InputStream α) β} {value : β}
    (h : whenGood fail x s = (.ok value, s')) : s.eofbit = false ∧ x s = (.ok value, s') := by
  rw [whenGood] at h
  split_ifs at h with heof
  · cases h
  · exact ⟨eq_false_of_ne_true heof, h⟩

lemma get_of_rest {c : α} {rest : List α} (hgood : s.eofbit = false) (hrest : s.rest = c :: rest) :
    get fail s = (.ok c, s.taken [c] rest) := by
  rw [get, whenGood_of_good hgood]
  simp only [hrest]

lemma get_eq_ok {c : α} (h : get fail s = (.ok c, s')) :
    s.eofbit = false ∧ s.rest = c :: s'.rest ∧ s' = s.taken [c] s'.rest := by
  obtain ⟨hgood, h⟩ := whenGood_eq_ok h
  rcases hrest : s.rest with _ | ⟨c', rest⟩
  · simp only [hrest] at h
    cases h
  · simp only [hrest] at h
    cases h
    exact ⟨hgood, rfl, rfl⟩

/-- The symbol that was just taken is put back. -/
lemma unget_taken {c : α} {rest : List α} (hgood : s.eofbit = false) (hrest : s.rest = c :: rest) :
    unget fail (s.taken [c] rest) = (.ok (), s) := by
  obtain ⟨past, _, _⟩ := s
  subst hgood hrest
  rfl

lemma read_of_append {symbols rest : List α} (hgood : s.eofbit = false)
    (hrest : s.rest = symbols ++ rest) :
    read fail symbols.length s = (.ok symbols, s.taken symbols rest) := by
  rw [read, whenGood_of_good hgood, if_neg, hrest, List.take_left, List.drop_left]
  rw [hrest, List.length_append]
  exact Nat.not_lt.mpr (Nat.le_add_right _ _)

lemma read_eq_ok {n : ℕ} {symbols : List α} (h : read fail n s = (.ok symbols, s')) :
    s.eofbit = false ∧ symbols.length = n ∧ s.rest = symbols ++ s'.rest ∧ s'.eofbit = false := by
  obtain ⟨hgood, h⟩ := whenGood_eq_ok h
  split_ifs at h with hshort
  · cases h
  · cases h
    refine ⟨hgood, ?_, (List.take_append_drop n s.rest).symm, rfl⟩
    exact List.length_take_of_le (Nat.not_lt.mp hshort)

/-- The end is met by the symbol that is ignored, when there is none. -/
lemma ignore_of_good (hgood : s.eofbit = false) :
    ∃ s', ignore fail s = (.ok (), s') ∧ (s'.eofbit = true ↔ s.rest = []) := by
  rw [ignore, whenGood_of_good hgood]
  rcases hrest : s.rest with _ | ⟨c, rest⟩
  · exact ⟨s.atEnd, rfl, iff_of_true rfl rfl⟩
  · exact ⟨s.taken [c] rest, rfl, iff_of_false Bool.false_ne_true (List.cons_ne_nil c rest)⟩

/-! ### Lines -/

variable [DecidableEq α] {delim : α} {line rest : List α}

lemma notMem_takeWhile (symbols : List α) : delim ∉ symbols.takeWhile (· ≠ delim) := by
  intro hmem
  have hne := List.mem_takeWhile_imp hmem
  exact of_decide_eq_true hne rfl

lemma takeWhile_line (hline : delim ∉ line) (rest : List α) :
    (line ++ delim :: rest).takeWhile (· ≠ delim) = line ∧
      (line ++ delim :: rest).dropWhile (· ≠ delim) = delim :: rest := by
  have hall : ∀ c ∈ line, decide (c ≠ delim) = true := by
    intro c hc
    exact decide_eq_true fun heq => hline (heq ▸ hc)
  constructor
  · rw [List.takeWhile_append_of_pos hall, List.takeWhile_cons_of_neg, List.append_nil]
    exact fun hne => of_decide_eq_true hne rfl
  · rw [List.dropWhile_append_of_pos hall, List.dropWhile_cons_of_neg]
    exact fun hne => of_decide_eq_true hne rfl

/-- A line ends at the first delimiter. -/
lemma line_injective {line' rest' : List α} (hline : delim ∉ line) (hline' : delim ∉ line')
    (heq : line ++ delim :: rest = line' ++ delim :: rest') : line = line' ∧ rest = rest' := by
  obtain ⟨htake, hdrop⟩ := takeWhile_line hline rest
  obtain ⟨htake', hdrop'⟩ := takeWhile_line hline' rest'
  rw [heq] at htake hdrop
  exact ⟨htake.symm.trans htake', List.tail_eq_of_cons_eq (hdrop.symm.trans hdrop')⟩

lemma getline_of_append (hgood : s.eofbit = false) (hline : delim ∉ line)
    (hrest : s.rest = line ++ delim :: rest) :
    getline fail delim s = (.ok line, s.taken (line ++ [delim]) rest) := by
  obtain ⟨htake, hdrop⟩ := takeWhile_line hline rest
  rw [← hrest] at htake hdrop
  rw [getline, whenGood_of_good hgood]
  simp only [htake, hdrop]

/-- Unless the end was met, the line and its delimiter were taken. -/
lemma getline_eq_ok (h : getline fail delim s = (.ok line, s')) :
    s.eofbit = false ∧ delim ∉ line ∧
      (s'.eofbit = false → s.rest = line ++ delim :: s'.rest) := by
  obtain ⟨hgood, h⟩ := whenGood_eq_ok h
  have hsplit := List.takeWhile_append_dropWhile (p := (· ≠ delim)) (l := s.rest)
  rcases hdrop : s.rest.dropWhile (· ≠ delim) with _ | ⟨c, rest⟩
  · simp only [hdrop] at h
    split_ifs at h
    · cases h
    · cases h
      exact ⟨hgood, notMem_takeWhile s.rest, fun heof => absurd heof.symm Bool.false_ne_true⟩
  · have hc : c = delim := by
      have hhead := List.head?_dropWhile_not (· ≠ delim) s.rest
      rw [hdrop] at hhead
      exact not_not.mp (of_decide_eq_false hhead)
    simp only [hdrop] at h hsplit
    cases h
    subst hc
    exact ⟨hgood, notMem_takeWhile s.rest, fun _ => hsplit.symm⟩

end InputStream
