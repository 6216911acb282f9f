import GLogiK.LCD.PBMFile

/-!
# What PBM files are accepted

A file is cut at the delimiters of its header. It is a PBM file of the expected size when the two
fields of the header are the decimal numbers that are expected; it is accepted when the conversions
make these numbers of the fields.
-/

namespace GLogiK

open Actions InputStream

/-! ### Files -/

def IsComment (line : Bytes) : Prop := line.head? = some comment ∧ white ∉ line

def commentBytes (comments : List Bytes) : Bytes := comments.flatMap (· ++ [white])

/-- The width and the height, and what follows them. -/
def sizeBytes (width height rest : Bytes) : Bytes := width ++ space :: (height ++ white :: rest)

/-- A file with the magic of a bitmap in bytes. -/
def PBMBytes (comments : List Bytes) (width height data : Bytes) : Bytes :=
  P4 ++ white :: (commentBytes comments ++ sizeBytes width height data)

/-- The digits of the number, with or without leading zeros. -/
structure IsDecimal (digits : Bytes) (n : ℕ) : Prop where
  ne_nil : digits ≠ []
  digit : ∀ c ∈ digits, isdigit c = true
  value : decimalValue digits = n

/-- The file is a PBM file of the size, with as many bytes of data. -/
def IsPBM (file : Bytes) (width height size : ℕ) (data : Bytes) : Prop :=
  ∃ comments widthDigits heightDigits, (∀ line ∈ comments, IsComment line) ∧
    IsDecimal widthDigits width ∧ IsDecimal heightDigits height ∧ data.length = size ∧
      file = PBMBytes comments widthDigits heightDigits data

/-! ### Cuts -/

/-- The lines and fields are those that end at the first delimiter. -/
structure HeaderCut (comments : List Bytes) (width height : Bytes) : Prop where
  isComment : ∀ line ∈ comments, IsComment line
  width_head : width.head? ≠ some comment
  space_notMem : space ∉ width
  white_notMem : white ∉ height

/-- The number that is made of a field. -/
def declared (field : Bytes) : Option UInt16 := (toUInt field).toOption.map UInt32.toUInt16

/-- The digits of a number of 16 bits. -/
def IsPlain (field : Bytes) : Prop := ∃ n < 65536, IsDecimal field n

variable {comments comments' : List Bytes} {width height data width' height' data' digits : Bytes}

lemma commentBytes_cons (line : Bytes) (comments : List Bytes) (rest : Bytes) :
    commentBytes (line :: comments) ++ rest = line ++ white :: (commentBytes comments ++ rest) := by
  rw [commentBytes, List.flatMap_cons, List.append_assoc, List.append_assoc]
  rfl

lemma head?_sizeBytes (hhead : width.head? ≠ some comment) (height rest : Bytes) :
    ∃ c more, sizeBytes width height rest = c :: more ∧ c ≠ comment := by
  cases width with
  | nil => exact ⟨space, _, rfl, by decide⟩
  | cons c width => exact ⟨c, _, rfl, fun heq => hhead (congrArg some heq)⟩

lemma IsComment.exists_eq {line : Bytes} (h : IsComment line) : ∃ text, line = comment :: text := by
  obtain ⟨hhead, _⟩ := h
  cases line with
  | nil => cases hhead
  | cons c text => exact ⟨text, congrArg (· :: text) (Option.some.inj hhead)⟩

lemma commentBytes_injective {rest rest' : Bytes} (hcomments : ∀ line ∈ comments, IsComment line)
    (hcomments' : ∀ line ∈ comments', IsComment line) (hrest : rest.head? ≠ some comment)
    (hrest' : rest'.head? ≠ some comment)
    (heq : commentBytes comments ++ rest = commentBytes comments' ++ rest') :
    comments = comments' ∧ rest = rest' := by
  induction comments generalizing comments' with
  | nil =>
    cases comments' with
    | nil => exact ⟨rfl, heq⟩
    | cons line' comments' =>
      obtain ⟨text, rfl⟩ := (hcomments' line' List.mem_cons_self).exists_eq
      rw [commentBytes_cons] at heq
      exact absurd (congrArg List.head? heq) hrest
  | cons line comments ih =>
    obtain ⟨hline, hcomments⟩ := List.forall_mem_cons.mp hcomments
    cases comments' with
    | nil =>
      obtain ⟨text, rfl⟩ := hline.exists_eq
      rw [commentBytes_cons] at heq
      exact absurd (congrArg List.head? heq).symm hrest'
    | cons line' comments' =>
      obtain ⟨hline', hcomments'⟩ := List.forall_mem_cons.mp hcomments'
      rw [commentBytes_cons, commentBytes_cons] at heq
      obtain ⟨hfirst, hlines⟩ := line_injective hline.2 hline'.2 heq
      obtain ⟨hothers, hrest⟩ := ih hcomments hcomments' hlines
      exact ⟨congrArg₂ List.cons hfirst hothers, hrest⟩

/-- A file is cut in one way only. -/
lemma HeaderCut.unique (h : HeaderCut comments width height)
    (h' : HeaderCut comments' width' height')
    (heq : PBMBytes comments width height data = PBMBytes comments' width' height' data') :
    width = width' ∧ height = height' := by
  have hhead : ∀ {field : Bytes}, field.head? ≠ some comment → ∀ height rest,
      (sizeBytes field height rest).head? ≠ some comment := by
    intro field hfield height rest hcomment
    obtain ⟨c, more, hbytes, hc⟩ := head?_sizeBytes hfield height rest
    rw [hbytes] at hcomment
    exact hc (Option.some.inj hcomment)
  have hlines := List.tail_eq_of_cons_eq (List.append_cancel_left heq)
  obtain ⟨_, hsize⟩ := commentBytes_injective h.isComment h'.isComment
    (hhead h.width_head _ _) (hhead h'.width_head _ _) hlines
  obtain ⟨hwidth, hrest⟩ := line_injective h.space_notMem h'.space_notMem hsize
  exact ⟨hwidth, (line_injective h.white_notMem h'.white_notMem hrest).1⟩

/-! ### Decimal fields -/

lemma ne_of_isdigit {c c' : UInt8} (hc : isdigit c = true) (hc' : isdigit c' = false) : c ≠ c' :=
  fun heq => Bool.false_ne_true (hc'.symm.trans (heq ▸ hc))

lemma isspace_of_isdigit {c : UInt8} (hc : isdigit c = true) : isspace c = false := by
  simp only [isdigit, isspace, Bool.and_eq_true, Bool.or_eq_false_iff, Bool.and_eq_false_iff,
    decide_eq_true_eq, decide_eq_false_iff_not, UInt8.le_iff_toNat_le] at hc ⊢
  refine ⟨?_, .inr ?_⟩
  · rintro rfl
    exact absurd hc.1 (by decide)
  · exact fun hle => absurd (hc.1.trans hle) (by decide)

lemma IsDecimal.notMem {n : ℕ} (h : IsDecimal digits n) {c : UInt8} (hc : isdigit c = false) :
    c ∉ digits :=
  fun hmem => ne_of_isdigit (h.digit c hmem) hc rfl

/-- The conversion stops nowhere in the digits. -/
lemma stoul_of_isDecimal {n : ℕ} (h : IsDecimal digits n) (hn : n < 2 ^ 64) :
    stoul digits = .ok n := by
  obtain ⟨hne, hdigit, hvalue⟩ := h
  have htake : digits.takeWhile isdigit = digits := List.takeWhile_eq_self_iff.mpr hdigit
  have hspace : digits.dropWhile isspace = digits := by
    obtain ⟨c, rest, rfl⟩ := List.exists_cons_of_ne_nil hne
    have hc := isspace_of_isdigit (hdigit c List.mem_cons_self)
    exact List.dropWhile_cons_of_neg (Bool.not_eq_true _ ▸ hc)
  have hsign : dropSign digits = (false, digits) := by
    obtain ⟨c, rest, rfl⟩ := List.exists_cons_of_ne_nil hne
    have hc := hdigit c List.mem_cons_self
    rw [dropSign]
    · intro s heq
      exact ne_of_isdigit hc (by decide) (List.head_eq_of_cons_eq heq)
    · intro s heq
      exact ne_of_isdigit hc (by decide) (List.head_eq_of_cons_eq heq)
  rw [stoul, hspace, hsign]
  simp only [htake, hvalue]
  rw [if_neg hne, if_neg (Nat.not_le.mpr hn)]
  rfl

lemma declared_of_isDecimal {n : ℕ} (h : IsDecimal digits n) (hn : n < 2 ^ 32) :
    declared digits = some (.ofNat n) := by
  have hstoul := stoul_of_isDecimal h (hn.trans (by decide))
  have htoUInt : toUInt digits = .ok (.ofNat n) := by
    rw [toUInt, toUL, hstoul]
    exact if_neg (Nat.not_lt.mpr (Nat.le_sub_one_of_lt hn))
  rw [declared, htoUInt]
  exact congrArg some (UInt32.toUInt16_ofNat' n)

/-- A field that is plain declares what it says. -/
lemma IsPlain.isDecimal {n : UInt16} (h : IsPlain digits) (hdeclared : declared digits = some n) :
    IsDecimal digits n.toNat := by
  obtain ⟨value, hvalue, hdecimal⟩ := h
  have hsame := declared_of_isDecimal hdecimal (hvalue.trans (by decide))
  have hn : n = .ofNat value := Option.some.inj (hdeclared.symm.trans hsame)
  rw [hn, UInt16.toNat_ofNat', Nat.mod_eq_of_lt hvalue]
  exact hdecimal

lemma IsDecimal.declared_eq {n : UInt16} (h : IsDecimal digits n.toNat) :
    declared digits = some n := by
  rw [declared_of_isDecimal h (n.toNat_lt.trans (by decide)), UInt16.ofNat_toNat]

lemma headerCut_of_isDecimal {w h : ℕ} (hcomments : ∀ line ∈ comments, IsComment line)
    (hwidth : IsDecimal width w) (hheight : IsDecimal height h) :
    HeaderCut comments width height where
  isComment := hcomments
  width_head := fun hhead => hwidth.notMem (by decide) (List.mem_of_mem_head? hhead)
  space_notMem := hwidth.notMem (by decide)
  white_notMem := hheight.notMem (by decide)

/-! ### The parser -/

variable {s s' : InputStream UInt8} {rest : Bytes}

lemma length_le_commentBytes (comments : List Bytes) (rest : Bytes) :
    comments.length ≤ (commentBytes comments ++ rest).length := by
  induction comments with
  | nil => exact Nat.zero_le _
  | cons line comments ih =>
    rw [commentBytes_cons, List.length_append, List.length_cons, List.length_cons]
    exact (Nat.succ_le_succ ih).trans (Nat.le_add_left _ _)

/-- The comments are skipped, and the first byte after them is put back. -/
lemma skipComments_of_comments (hcomments : ∀ line ∈ comments, IsComment line) {c : UInt8}
    (hc : c ≠ comment) (hgood : s.eofbit = false)
    (hrest : s.rest = commentBytes comments ++ c :: rest) {n : ℕ} (hn : comments.length < n) :
    ∃ s', skipComments n s = (.ok (), s') ∧ s'.eofbit = false ∧ s'.rest = c :: rest := by
  induction comments generalizing s n with
  | nil =>
    obtain ⟨m, rfl⟩ := Nat.exists_eq_add_one_of_ne_zero hn.ne'
    refine ⟨s, ?_, hgood, hrest⟩
    rw [skipComments, bind_of_ok (get_of_rest hgood hrest), if_neg hc]
    exact unget_taken hgood hrest
  | cons line comments ih =>
    obtain ⟨hline, hothers⟩ := List.forall_mem_cons.mp hcomments
    obtain ⟨text, rfl⟩ := hline.exists_eq
    obtain ⟨m, rfl⟩ := Nat.exists_eq_add_one_of_ne_zero (Nat.ne_zero_of_lt hn)
    rw [commentBytes_cons] at hrest
    obtain ⟨s', hskip, hs'⟩ := ih hothers (n := m)
      (s := (s.taken [comment] (text ++ white :: (commentBytes comments ++ c :: rest))).taken
        (text ++ [white]) (commentBytes comments ++ c :: rest))
      rfl rfl (Nat.lt_of_succ_lt_succ hn)
    refine ⟨s', ?_, hs'⟩
    rw [skipComments, bind_of_ok (get_of_rest hgood hrest), if_pos rfl]
    rw [bind_of_ok (getline_of_append rfl (fun hmem => hline.2 (List.mem_cons_of_mem _ hmem)) rfl)]
    exact hskip

/-- What was skipped is comments. -/
lemma skipComments_eq_ok {n : ℕ} (h : skipComments n s = (.ok (), s')) :
    s.eofbit = false ∧ s'.eofbit = false ∧ s'.rest.head? ≠ some comment ∧
      ∃ comments, (∀ line ∈ comments, IsComment line) ∧
        s.rest = commentBytes comments ++ s'.rest := by
  induction n generalizing s with
  | zero => cases h
  | succ n ih =>
    rw [skipComments] at h
    obtain ⟨c, between, hget, h⟩ := bind_eq_ok h
    obtain ⟨hgood, hrest, hbetween⟩ := get_eq_ok hget
    split_ifs at h with hc
    · obtain ⟨text, after, hline, h⟩ := bind_eq_ok h
      obtain ⟨_, hwhite, htext⟩ := getline_eq_ok hline
      obtain ⟨hafter, hgood', hhead, comments, hcomments, hbytes⟩ := ih h
      refine ⟨hgood, hgood', hhead, (comment :: text) :: comments, ?_, ?_⟩
      · refine List.forall_mem_cons.mpr ⟨⟨rfl, ?_⟩, hcomments⟩
        exact List.not_mem_cons_of_ne_of_not_mem (by decide) hwhite
      · rw [commentBytes_cons, ← hbytes, hrest, htext hafter, hc]
        rfl
    · rw [hbetween, unget_taken hgood hrest] at h
      cases h
      refine ⟨hgood, hgood, ?_, [], List.forall_mem_nil _, rfl⟩
      rw [hrest]
      exact fun heq => hc (Option.some.inj heq)

lemma ofExcept_eq_ok {α : Type} {x : Except String α} {value : α}
    (h : PBMAction.ofExcept x s = (.ok value, s')) : x = .ok value ∧ s' = s := by
  cases x with
  | error e => cases h
  | ok value' =>
    cases h
    exact ⟨rfl, rfl⟩

lemma toUInt_of_declared {field : Bytes} {n : UInt16} (h : declared field = some n) :
    ∃ ret, toUInt field = .ok ret ∧ ret.toUInt16 = n := by
  rcases hfield : toUInt field with e | ret
  · rw [declared, hfield] at h
    cases h
  · rw [declared, hfield] at h
    exact ⟨ret, rfl, Option.some.inj h⟩

lemma parsePBMHeader_of_cut (hcut : HeaderCut comments width height) {w h : UInt16}
    (hw : declared width = some w) (hh : declared height = some h) (data : Bytes) :
    ∃ s', parsePBMHeader { rest := PBMBytes comments width height data } = (.ok (P4, w, h), s') ∧
      s'.eofbit = false ∧ s'.rest = data := by
  obtain ⟨ret, hret, rfl⟩ := toUInt_of_declared hw
  obtain ⟨ret', hret', rfl⟩ := toUInt_of_declared hh
  obtain ⟨c, more, hbytes, hc⟩ := head?_sizeBytes hcut.width_head height data
  obtain ⟨after, hskip, hgood, hafter⟩ := skipComments_of_comments hcut.isComment hc
    (s := InputStream.taken { rest := PBMBytes comments width height data } (P4 ++ [white])
      (commentBytes comments ++ sizeBytes width height data))
    rfl (congrArg (commentBytes comments ++ ·) hbytes)
    (Nat.lt_succ_of_le (length_le_commentBytes comments (sizeBytes width height data)))
  rw [← hbytes] at hafter
  refine ⟨(after.taken (width ++ [space]) (height ++ white :: data)).taken (height ++ [white]) data,
    ?_, rfl, rfl⟩
  rw [parsePBMHeader, bind_of_ok (getline_of_append rfl (by decide) rfl)]
  apply (bind_of_ok hskip).trans
  rw [bind_of_ok (getline_of_append hgood hcut.space_notMem hafter), hret]
  apply (bind_of_ok rfl).trans
  rw [bind_of_ok (getline_of_append rfl hcut.white_notMem rfl), hret']
  rfl

lemma parsePBMHeader_eq_ok {magic : Bytes} {w h : UInt16}
    (hparse : parsePBMHeader s = (.ok (magic, w, h), s')) (hgood : s'.eofbit = false) :
    ∃ comments width height, HeaderCut comments width height ∧ declared width = some w ∧
      declared height = some h ∧
        s.rest = magic ++ white :: (commentBytes comments ++ sizeBytes width height s'.rest) := by
  rw [parsePBMHeader] at hparse
  obtain ⟨_, s₁, hmagic, h₁⟩ := bind_eq_ok hparse
  obtain ⟨_, s₂, hskip, h₂⟩ := bind_eq_ok h₁
  obtain ⟨width, s₃, hwidth, h₃⟩ := bind_eq_ok h₂
  obtain ⟨ret, s₄, hret, h₄⟩ := bind_eq_ok h₃
  obtain ⟨height, s₅, hheight, h₅⟩ := bind_eq_ok h₄
  obtain ⟨ret', s₆, hret', h₆⟩ := bind_eq_ok h₅
  obtain ⟨hwidthInt, rfl⟩ := ofExcept_eq_ok hret
  obtain ⟨hheightInt, rfl⟩ := ofExcept_eq_ok hret'
  cases h₆
  obtain ⟨_, _, hmagicBytes⟩ := getline_eq_ok hmagic
  obtain ⟨hgood₁, hgood₂, hhead, comments, hcomments, hcommentBytes⟩ := skipComments_eq_ok hskip
  obtain ⟨_, hspace, hwidthBytes⟩ := getline_eq_ok hwidth
  obtain ⟨hgood₄, hwhite, hheightBytes⟩ := getline_eq_ok hheight
  have hsize := hwidthBytes hgood₄
  rw [hheightBytes hgood] at hsize
  refine ⟨comments, width, height, ⟨hcomments, ?_, hspace, hwhite⟩, ?_, ?_, ?_⟩
  · intro hcomment
    rw [hsize] at hhead
    cases width with
    | nil => cases hcomment
    | cons c width => exact hhead hcomment
  · rw [declared, hwidthInt]
    rfl
  · rw [declared, hheightInt]
    rfl
  · rw [hmagicBytes hgood₁, hcommentBytes, hsize]
    rfl

/-! ### The data -/

lemma extractPBMData_of_length {PBMData : PixelsData} (hgood : s.eofbit = false)
    (hlength : s.rest.length = PBMData.length) :
    ∃ s', extractPBMData PBMData s = (.ok s.rest, s') := by
  have hread : read PBMExcept.failure PBMData.length s = (.ok s.rest, s.taken s.rest []) := by
    rw [← hlength]
    exact read_of_append hgood (List.append_nil _).symm
  obtain ⟨s', hignore, heof⟩ :=
    @ignore_of_good PBMExcept UInt8 .failure (s.taken s.rest []) rfl
  refine ⟨s', ?_⟩
  rw [extractPBMData, bind_of_ok hread, if_neg (not_not.mpr hlength.symm), bind_of_ok hignore]
  apply (bind_of_ok rfl).trans
  rw [if_neg (not_not.mpr (heof.mpr rfl))]
  rfl

lemma extractPBMData_eq_ok {PBMData : PixelsData}
    (h : extractPBMData PBMData s = (.ok data, s')) :
    s.eofbit = false ∧ s.rest = data ∧ data.length = PBMData.length := by
  rw [extractPBMData] at h
  obtain ⟨bytes, s₁, hread, h₁⟩ := bind_eq_ok h
  obtain ⟨hgood, hlength, hrest, hgood₁⟩ := read_eq_ok hread
  rw [if_neg (not_not.mpr hlength.symm)] at h₁
  obtain ⟨_, s₂, hignore, h₂⟩ := bind_eq_ok h₁
  obtain ⟨_, s₃, heof, h₃⟩ := bind_eq_ok h₂
  obtain ⟨after, hafter, hend⟩ := @ignore_of_good PBMExcept UInt8 .failure s₁ hgood₁
  cases heof
  split_ifs at h₃ with hmet
  · cases h₃
    rw [hignore] at hafter
    cases hafter
    rw [hend.mp hmet, List.append_nil] at hrest
    exact ⟨hgood, hrest, hlength⟩
  · cases h₃

/-- A file is accepted when it can be cut into comments, two fields that are converted to the
expected numbers, and as many bytes as the destination has. -/
lemma readPBM_eq_ok_iff {file : Bytes} {PBMData : PixelsData} {w h : UInt16} :
    readPBM file PBMData w h = .ok data ↔
      ∃ comments width height, HeaderCut comments width height ∧ declared width = some w ∧
        declared height = some h ∧ data.length = PBMData.length ∧
          file = PBMBytes comments width height data := by
  constructor
  · intro hread
    have hrun : ∃ s', readHeaderAndData PBMData w h { rest := file } = (.ok data, s') := by
      rcases hrun : readHeaderAndData PBMData w h { rest := file } with ⟨(_ | e) | value, s'⟩
      · rw [readPBM, hrun] at hread
        cases hread
      · rw [readPBM, hrun] at hread
        cases hread
      · rw [readPBM, hrun] at hread
        cases hread
        exact ⟨s', rfl⟩
    obtain ⟨s', hrun⟩ := hrun
    rw [readHeaderAndData] at hrun
    obtain ⟨⟨magic, width, height⟩, s₁, hparse, hrest⟩ := bind_eq_ok hrun
    simp only at hrest
    split_ifs at hrest with hwrong
    · cases hrest
    · obtain ⟨rfl, rfl, rfl⟩ : magic = P4 ∧ width = w ∧ height = h := by
        simpa only [not_or, not_not] using hwrong
      obtain ⟨hgood, rfl, hlength⟩ := extractPBMData_eq_ok hrest
      obtain ⟨comments, widthField, heightField, hcut, hw, hh, hfile⟩ :=
        parsePBMHeader_eq_ok hparse hgood
      exact ⟨comments, widthField, heightField, hcut, hw, hh, hlength, hfile⟩
  · rintro ⟨comments, width, height, hcut, hw, hh, hlength, rfl⟩
    obtain ⟨s₁, hparse, hgood, rfl⟩ := parsePBMHeader_of_cut hcut hw hh data
    obtain ⟨s₂, hdata⟩ := extractPBMData_of_length hgood hlength
    have hright : ¬ (P4 ≠ P4 ∨ w ≠ w ∨ h ≠ h) := by
      simp only [ne_eq, not_true_eq_false, or_self, not_false_eq_true]
    rw [readPBM, readHeaderAndData, bind_of_ok hparse]
    simp only [if_neg hright, hdata]

/-- What the conversions make the expected numbers of is digits. -/
def FieldsPlain (file : Bytes) (size : ℕ) (w h : UInt16) : Prop :=
  ∀ comments width height data, HeaderCut comments width height → data.length = size →
    file = PBMBytes comments width height data → declared width = some w →
      declared height = some h → IsPlain width ∧ IsPlain height

lemma isPBM_of_plain {w h : UInt16} {size : ℕ} (hcut : HeaderCut comments width height)
    (hlength : data.length = size) (hw : declared width = some w) (hh : declared height = some h)
    (hplain : IsPlain width ∧ IsPlain height) :
    IsPBM (PBMBytes comments width height data) w.toNat h.toNat size data :=
  ⟨comments, width, height, hcut.isComment, hplain.1.isDecimal hw, hplain.2.isDecimal hh, hlength,
    rfl⟩

/-- The fields of a PBM file are plain, however it is cut. -/
lemma plain_of_isPBM {w h : UInt16} {size : ℕ} (hcut : HeaderCut comments width height)
    (hPBM : IsPBM (PBMBytes comments width height data) w.toNat h.toNat size data) :
    IsPlain width ∧ IsPlain height := by
  obtain ⟨comments', width', height', hcomments', hwidth, hheight, _, hfile⟩ := hPBM
  obtain ⟨rfl, rfl⟩ := hcut.unique (headerCut_of_isDecimal hcomments' hwidth hheight) hfile
  exact ⟨⟨_, w.toNat_lt, hwidth⟩, ⟨_, h.toNat_lt, hheight⟩⟩

lemma readPBM_of_isPBM {file : Bytes} {PBMData : PixelsData} {w h : UInt16}
    (hPBM : IsPBM file w.toNat h.toNat PBMData.length data) :
    readPBM file PBMData w h = .ok data := by
  obtain ⟨comments, width, height, hcomments, hwidth, hheight, hlength, rfl⟩ := hPBM
  exact readPBM_eq_ok_iff.mpr ⟨comments, width, height,
    headerCut_of_isDecimal hcomments hwidth hheight, hwidth.declared_eq, hheight.declared_eq,
    hlength, rfl⟩

/-- Exactly the PBM files of the size are accepted, with their data, unless a field that is not the
digits of a number of 16 bits is converted to the expected number. -/
theorem readPBM_iff_isPBM (file : Bytes) (PBMData : PixelsData) (w h : UInt16) :
    (∀ data, readPBM file PBMData w h = .ok data ↔
      IsPBM file w.toNat h.toNat PBMData.length data) ↔ FieldsPlain file PBMData.length w h := by
  constructor
  · rintro hall comments width height data hcut hlength rfl hw hh
    have hread := readPBM_eq_ok_iff.mpr ⟨comments, width, height, hcut, hw, hh, hlength, rfl⟩
    exact plain_of_isPBM hcut ((hall data).mp hread)
  · refine fun hplain data => ⟨fun hread => ?_, readPBM_of_isPBM⟩
    obtain ⟨comments, width, height, hcut, hw, hh, hlength, rfl⟩ := readPBM_eq_ok_iff.mp hread
    exact isPBM_of_plain hcut hlength hw hh (hplain _ _ _ _ hcut hlength rfl hw hh)

/-- The data of a frame, for a width of 65696: its low 16 bits are 160. -/
def wideFile : Bytes :=
  PBMBytes [] [0x36, 0x35, 0x36, 0x39, 0x36] [0x34, 0x38]
    (List.replicate DEFAULT_PBM_DATA_IN_BYTES 0)

theorem not_isPBM_wideFile : ¬ ∀ file PBMData w h data, readPBM file PBMData w h = .ok data ↔
    IsPBM file w.toNat h.toNat PBMData.length data := by
  intro hall
  have hcut : HeaderCut [] [0x36, 0x35, 0x36, 0x39, 0x36] [0x34, 0x38] :=
    ⟨List.forall_mem_nil _, by decide, by decide, by decide⟩
  have hread : readPBM wideFile (List.replicate DEFAULT_PBM_DATA_IN_BYTES 0) 160 48 =
      .ok (List.replicate DEFAULT_PBM_DATA_IN_BYTES 0) :=
    readPBM_eq_ok_iff.mpr ⟨[], _, _, hcut, by decide, by decide, rfl, rfl⟩
  obtain ⟨⟨n, hn, hdecimal⟩, _⟩ := plain_of_isPBM hcut ((hall _ _ _ _ _).mp hread)
  rw [← hdecimal.value] at hn
  exact absurd hn (by decide)

end GLogiK
