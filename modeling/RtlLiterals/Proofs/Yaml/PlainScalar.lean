import RtlLiterals.Proofs.Yaml.Gaps

/-!
# RtlLiterals.Proofs.Yaml.PlainScalar -- plain scalars are read back

A plain scalar goes on until something ends it: a colon at the end of a word for a key, a line that
is not indented enough for a value. A text that holds no such thing (`PlainLine`) is read whole
(`plain_append`), spaces between its words included, since these become part of it only when another
word follows. `Behind` is the invariant between two characters.
-/

namespace RtlLiterals.Yaml

/-! ## §A Spaces on a line -/

namespace Gap

/-- The gap of some blanks, without a line break. -/
def ofBlanks (t : Text) : Gap := ⟨t, false, [], []⟩

/-- The gap of one line feed, and any blanks around it. -/
def lineFeed : Gap := ⟨[], true, ['\n'], []⟩

@[simp] theorem content_ofBlanks (t : Text) : (ofBlanks t).content = t := rfl

theorem ofBlanks_nil : ofBlanks [] = .none := rfl

theorem isNone_ofBlanks (t : Text) : (ofBlanks t).isNone = t.isEmpty := rfl

theorem push_space_ofBlanks (t rest : Text) :
    (ofBlanks t).push ' ' rest = ofBlanks (t ++ [' ']) := rfl

end Gap

/-! ## §B One character -/

/-- **`PlainLine u`** -- the text may stand plainly in a line: it holds no mark, and its last
character is no space. -/
structure PlainLine (u : Text) : Prop where
  printable : ∀ c ∈ u, isPrintable c = true
  unbroken : ∀ c ∈ u, isBreak c = false
  unmarked : holdsMark u = false
  last : u.getLast? ≠ some ' '

theorem PlainLine.tail {c : Char} {u : Text} (h : PlainLine (c :: u)) : PlainLine u where
  printable d hd := h.printable d (List.mem_cons_of_mem _ hd)
  unbroken d hd := h.unbroken d (List.mem_cons_of_mem _ hd)
  unmarked := (Bool.or_eq_false_iff.1 h.unmarked).2
  last := by
    cases u with
    | nil => simp
    | cons d u => exact List.getLast?_cons_of_ne_nil (List.cons_ne_nil d u) ▸ h.last

/-- **`Behind indent blanks m u`** -- reading stands before the text `u` at the place `m`, and the
blanks were passed since the last word. Only behind such a gap do the place and the character count.
-/
structure Behind (indent : Int) (blanks : Text) (m : Mark) (u : Text) : Prop where
  /-- One more character is indented enough. -/
  column_le : indent ≤ (m.column : Int) + 1
  /-- The text does not end in a gap. -/
  blanks_nil : u = [] → blanks = []
  /-- A gap is followed by more of the scalar. -/
  continues : blanks ≠ [] → indent ≤ (m.column : Int) ∧ 0 < m.column ∧ u.head? ≠ some '#'

section

variable {indent : Int} {blanks : Text} {m : Mark} {c : Char} {u : Text} (hu : PlainLine (c :: u))
  (h : Behind indent blanks m (c :: u)) (start : Mark) (tail read : Text)
include hu h

/-- A space joins the gap, and a word follows it. -/
theorem plain_space (hc : c = ' ') :
    Behind indent (blanks ++ [c]) (m.step c (u ++ tail)) u ∧
      plain false indent start (c :: u ++ tail) m read (.ofBlanks blanks) =
        plain false indent start (u ++ tail) (m.step c (u ++ tail)) read
          (.ofBlanks (blanks ++ [c])) := by
  subst hc
  have hne : u ≠ [] := by
    rintro rfl
    exact hu.last rfl
  have hnumber : u.head? ≠ some '#' := by
    have hmark := (Bool.or_eq_false_iff.1 (Bool.or_eq_false_iff.1 hu.unmarked).1).2
    simpa [isGap, isBlank] using hmark
  have hcolumn := Mark.column_step (c := ' ') (by decide) m (u ++ tail)
  have hindent := h.column_le
  refine ⟨⟨by omega, fun hnil => absurd hnil hne, fun _ => ⟨by omega, by omega, hnumber⟩⟩, ?_⟩
  rw [List.cons_append, plain, if_pos (by decide), if_neg (by simp), Gap.push_space_ofBlanks]

/-- Any other character belongs to a word, and so do the blanks before it. -/
theorem plain_char (hc : isGap c = false) :
    Behind indent [] (m.step c (u ++ tail)) u ∧
      plain false indent start (c :: u ++ tail) m read (.ofBlanks blanks) =
        plain false indent start (u ++ tail) (m.step c (u ++ tail)) (c :: (blanks.reverse ++ read))
          (.ofBlanks []) := by
  have hcolumn := Mark.column_step (hu.unbroken c (List.mem_cons_self ..)) m (u ++ tail)
  have hindent := h.column_le
  have hlast := hu.last
  have hcolon : (c == ':' && endsWord (u ++ tail)) = false := by
    have hmark := (Bool.or_eq_false_iff.1 (Bool.or_eq_false_iff.1 hu.unmarked).1).1
    cases u with
    | nil => simp_all [endsWord]
    | cons d u => exact hmark
  have hgoes : (!(Gap.ofBlanks blanks).isNone && ((!false && decide ((m.column : Int) < indent)) ||
      Cursor.atMarker ⟨c :: (u ++ tail), m⟩ || c == '#')) = false := by
    rw [Gap.isNone_ofBlanks]
    cases blanks with
    | nil => rfl
    | cons b blanks =>
      obtain ⟨hle, hpos, hcomment⟩ := h.continues (List.cons_ne_nil b blanks)
      rw [Cursor.atMarker_of_column_pos hpos, decide_eq_false (by omega)]
      simpa using hcomment
  refine ⟨⟨by omega, fun _ => rfl, fun hne => absurd rfl hne⟩, ?_⟩
  rw [List.cons_append, plain, if_neg (by simp [hc]), if_neg (by rw [hgoes]; simp),
    if_neg (by simp), if_neg (by simp [hcolon]), Gap.content_ofBlanks, Gap.ofBlanks_nil]

end

/-! ## §C Words -/

/-- A text of one line that holds no mark is read up to its end. -/
theorem plain_append {indent : Int} (start : Mark) {u : Text} (hu : PlainLine u) (tail : Text)
    {m : Mark} (read : Text) {blanks : Text} (h : Behind indent blanks m u) :
    plain false indent start (u ++ tail) m read (.ofBlanks blanks) =
      plain false indent start tail (m.along u) ((blanks ++ u).reverse ++ read) .none := by
  induction u generalizing m read blanks with
  | nil =>
    obtain rfl := h.blanks_nil rfl
    rfl
  | cons c u ih =>
    have hbreak := hu.unbroken c (List.mem_cons_self ..)
    by_cases hgap : isGap c = true
    · have hspace : c = ' ' := by
        apply eq_space_of_isBlank (hu.printable c (List.mem_cons_self ..))
        rwa [isGap, hbreak, Bool.or_false] at hgap
      obtain ⟨h', hstep⟩ := plain_space hu h start tail read hspace
      rw [hstep, ih hu.tail read h', Mark.along_cons hbreak, List.append_assoc]
      rfl
    · obtain ⟨h', hstep⟩ := plain_char hu h start tail read (Bool.eq_false_iff.2 hgap)
      rw [hstep, ih hu.tail _ h', Mark.along_cons hbreak]
      simp

/-- **A plain word.** What may be written plainly is read up to its end. -/
theorem plain_word {u : Text} (hu : plainAllowed u = true) {indent : Int} {m : Mark}
    (hcolumn : indent ≤ (m.column : Int) + 1) (start : Mark) (tail : Text) :
    plain false indent start (u ++ tail) m [] .none =
      plain false indent start tail (m.along u) u.reverse .none := by
  have hline : PlainLine u := by
    simp only [plainAllowed, allPrintable, Bool.and_eq_true, List.all_eq_true, Bool.not_eq_true',
      List.any_eq_false, bne_iff_ne, Bool.not_eq_true] at hu
    obtain ⟨⟨⟨⟨⟨hprintable, hbreak⟩, -⟩, hlast⟩, -⟩, hmark⟩ := hu
    exact ⟨hprintable, hbreak, hmark, hlast⟩
  have hword := plain_append start hline tail [] ⟨hcolumn, fun _ => rfl, fun h => absurd rfl h⟩
  rw [Gap.ofBlanks_nil] at hword
  simpa using hword

/-! ## §D Ends -/

/-- A colon at the end of a word ends a key. -/
theorem plain_colon {t : Text} (ht : endsWord t = true) (indent : Int) (start m : Mark)
    (read : Text) :
    plain false indent start (':' :: t) m read .none =
      .ok ⟨read.reverse, false, ⟨':' :: t, m⟩⟩ := by
  rw [plain, if_neg (by decide), if_neg (by simp [Gap.none, Gap.isNone]), if_neg (by simp),
    if_pos (by simp [ht])]
  rfl

/-- Spaces at the start of a line belong to the gap before them. -/
theorem plain_spaces (n : Nat) (indent : Int) (start : Mark) (t : Text) (m : Mark) (read : Text) :
    plain false indent start (spaces n ++ t) m read .lineFeed =
      plain false indent start t (m.along (spaces n)) read .lineFeed := by
  induction n generalizing m with
  | zero => rfl
  | succ n ih =>
    have hpush : Gap.lineFeed.push ' ' (spaces n ++ t) = .lineFeed := rfl
    rw [spaces_succ, List.cons_append, plain, if_pos (by decide), if_neg (by simp), hpush, ih,
      Mark.along_cons (by decide)]

/-- A line that is not indented enough ends a value. -/
theorem plain_lineFeed {indent : Int} {column : Nat} {next : Text} (h : StartsEntry column next)
    (hcolumn : (column : Int) < indent) (start m : Mark) (read : Text) :
    ∃ m', m'.column = column ∧ m.line < m'.line ∧
      plain false indent start ('\n' :: (spaces column ++ next)) m read .none =
        .ok ⟨read.reverse, true, ⟨next, m'⟩⟩ := by
  have hpush : Gap.none.push '\n' (spaces column ++ next) = .lineFeed := rfl
  have hm : ((m.step '\n' (spaces column ++ next)).along (spaces column)).column = column := by
    rw [Mark.column_along, Mark.column_step_break (by decide) (by decide), length_spaces,
      Nat.zero_add]
  refine ⟨_, hm, Nat.lt_succ_self m.line, ?_⟩
  rw [plain, if_pos (by decide), if_neg (by simp), hpush, plain_spaces]
  rcases h with ⟨rfl, -⟩ | ⟨c, t, rfl, hc⟩
  · rfl
  · rw [plain, if_neg (by simp [(startsToken_iff.1 hc).1]), if_pos ?_]
    · rfl
    · rw [hm, decide_eq_true hcolumn]
      rfl

end RtlLiterals.Yaml
