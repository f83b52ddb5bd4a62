import RtlLiterals.Proofs.Yaml.Gaps

/-!
# RtlLiterals.Proofs.Yaml.BlockScalar -- blocks of lines are read back

A text with line feeds is written as a block: one line after the other, indented unless it is empty.
Two things cannot be seen from the lines, and are written after the sign of the block: how deep they
are indented, if the first of them starts with a space or is empty, and what becomes of the breaks
at the end.

## §A How it goes

`Block.Stands` ties what the reader keeps to the text that it has read, and each character of the
text preserves it (`blockLines_step`), so the whole text does (`blockLines_write`). At the end all
lines are ended, and the sign tells how much of the last breaks belongs to the text
(`Block.Stands.content_eq`).
-/

namespace RtlLiterals.Yaml

/-! ## §B What has been read -/

/-- **`b.Stands w inLine`** -- the reader has read the text `w`: breaks only, up to a character of a
line, or a line and the breaks after it. -/
inductive Block.Stands : Block → Text → (inLine : Bool) → Prop
  | empty {b : Block} : b.read = [] → b.lineBreak = [] → (∀ c ∈ b.more, isBreak c = true) →
      Stands b b.more false
  | inLine {b : Block} {c : Char} {read : Text} : b.read = c :: read → isBreak c = false →
      b.lineBreak = [] → b.more = [] → Stands b b.read.reverse true
  | ended {b : Block} {c d : Char} {read : Text} : b.read = c :: read → isBreak c = false →
      b.lineBreak = [d] → isBreak d = true → (∀ e ∈ b.more, isBreak e = true) →
      Stands b (b.read.reverse ++ d :: b.more) false

/-- The last of some breaks is a break, if there are any. -/
theorem any_getLast?_of_forall {u : Text} (h : ∀ c ∈ u, isBreak c = true) :
    (u.isEmpty || u.getLast?.any isBreak) = true := by
  cases hlast : u.getLast? with
  | none => simp [List.getLast?_eq_none_iff.1 hlast]
  | some c => simp [h c (List.mem_of_getLast? hlast)]

namespace Block.Stands

variable {b : Block} {w : Text}

theorem nil (indent widest : Nat) : Stands ⟨[], [], [], false, indent, widest⟩ [] false :=
  .empty rfl rfl nofun

/-- A break where a line would start. -/
theorem push_break (h : b.Stands w false) {c : Char} (hc : isBreak c = true) (widest : Nat) :
    Stands { b with more := b.more ++ [c], widest := widest } (w ++ [c]) false := by
  have hmore (h : ∀ e ∈ b.more, isBreak e = true) : ∀ e ∈ b.more ++ [c], isBreak e = true := by
    simpa [or_imp, forall_and, hc] using h
  cases h with
  | empty hread hline h => exact .empty hread hline (hmore h)
  | ended hread hlast hline hd h =>
    rw [List.append_assoc, List.cons_append]
    exact .ended (b := { b with more := b.more ++ [c], widest := widest }) hread hlast hline hd
      (hmore h)

/-- A break that ends a line. -/
theorem end_line (h : b.Stands w true) {c : Char} (hc : isBreak c = true) :
    Stands { b with lineBreak := [c] } (w ++ [c]) false := by
  cases h with
  | inLine hread hlast hline hmore =>
    have hended := Stands.ended (b := { b with lineBreak := [c] }) hread hlast rfl hc
      (by simp [hmore])
    simpa only [hmore] using hended

/-- One more character of a line. -/
theorem push_char (h : b.Stands w true) {c : Char} (hc : isBreak c = false) :
    Stands { b with read := c :: b.read } (w ++ [c]) true := by
  cases h with
  | inLine hread hlast hline hmore =>
    rw [← List.reverse_cons]
    exact .inLine (b := { b with read := c :: b.read }) rfl hc hline hmore

/-- The first character of a line. -/
theorem start_line (h : b.Stands w false) {c : Char} (hc : isBreak c = false) :
    Stands (b.startLine true c) (w ++ [c]) true := by
  have hread : (b.startLine true c).read =
      c :: (b.more.reverse ++ b.lineBreak.reverse ++ b.read) := rfl
  have hw : (b.startLine true c).read.reverse = w ++ [c] := by
    cases h with
    | empty hread' hline h => simp [hread, hread', hline]
    | ended hread' hlast hline hd h => simp [hread, hline]
  rw [← hw]
  exact .inLine hread hc rfl rfl

/-- A text that ends in a break ends its last line. -/
theorem inLine_eq {inLine : Bool} (h : b.Stands w inLine) (hw : w.getLast?.any isBreak = true) :
    inLine = false := by
  cases h with
  | empty => rfl
  | inLine hread hlast hline hmore =>
    rw [List.getLast?_reverse, hread, List.head?_cons, Option.any_some, hlast] at hw
    cases hw
  | ended => rfl

/-- What the reader keeps is what it has read. -/
theorem eq_append {inLine : Bool} (h : b.Stands w inLine) :
    b.read.reverse ++ b.lineBreak ++ b.more = w := by
  cases h with
  | empty hread hline h => simp [hread, hline]
  | inLine hread hlast hline hmore => simp [hline, hmore]
  | ended hread hlast hline hd h => simp [hline]

/-- Before the last break there is another break or nothing, unless it ends a line. -/
theorem before_last {u : Text} {e : Char} (h : b.Stands (u ++ [e]) false) :
    (u.isEmpty || u.getLast?.any isBreak) = true ∨
      (b.read.reverse = u ∧ b.lineBreak = [e] ∧ b.more = []) := by
  generalize hw : u ++ [e] = w at h
  cases h with
  | empty hread hline h =>
    left
    have hu : ∀ c ∈ u, isBreak c = true := fun c hc => h c (by simp [← hw, hc])
    exact any_getLast?_of_forall hu
  | @ended c d read hread hlast hline hd h =>
    rcases List.eq_nil_or_concat b.more with hmore | ⟨more, e', hmore⟩
    · right
      rw [hmore] at hw
      obtain ⟨rfl, he⟩ := List.append_inj' hw rfl
      exact ⟨rfl, hline.trans he.symm, hmore⟩
    · left
      rw [List.concat_eq_append] at hmore
      have hbreaks : ∀ c ∈ d :: more, isBreak c = true := by
        simpa [hd] using fun c hc => h c (by simp [hmore, hc])
      rw [hmore, ← List.cons_append, ← List.append_assoc] at hw
      obtain ⟨rfl, -⟩ := List.append_inj' hw rfl
      have hbefore := List.getLast?_eq_some_getLast (List.cons_ne_nil d more)
      have hbreak := hbreaks _ (List.mem_of_getLast? hbefore)
      rw [List.getLast?_append, hbefore, Option.some_or, Option.any_some, hbreak, Bool.or_true]

end Block.Stands

/-! ## §C The sign -/

/-- The sign of what becomes of the line breaks at the end. -/
def Chomping.sign : Chomping → Text
  | clip => []
  | strip => ['-']
  | keep => ['+']

/-- What has to become of the line breaks at the end of a text. -/
def chompingFor (t : Text) : Chomping :=
  match t.reverse with
  | [] => .strip
  | c :: before =>
    if !isBreak c then .strip
    else if before.isEmpty || before.head?.any isBreak then .keep
    else .clip

/-- The first line of the text shows no indentation. -/
def hidesIndentation (t : Text) : Bool := t.head?.any fun c => isSpace c || isBreak c

theorem blockHints_eq (t : Text) :
    blockHints t = (if hidesIndentation t then ['2'] else []) ++ (chompingFor t).sign := by
  have hstep : Text.ofNat indentStep = ['2'] := by decide
  rw [blockHints, chompingFor, hidesIndentation, hstep]
  cases t.reverse with
  | nil => rfl
  | cons c before =>
    simp only [apply_ite Chomping.sign]
    rfl

/-- The line feed that is added to a text to end its last line. -/
def finalFeed (t : Text) : Text := if t.getLast?.any isBreak then [] else ['\n']

theorem chompingFor_concat (before : Text) (c : Char) :
    chompingFor (before ++ [c]) =
      if !isBreak c then .strip
      else if before.isEmpty || before.getLast?.any isBreak then .keep
      else .clip := by
  rw [chompingFor, List.reverse_concat, ← List.head?_reverse, ← List.isEmpty_reverse]

/-- **The sign tells where the text ends.** -/
theorem Block.Stands.content_eq {b : Block} {t : Text} (ht : t ≠ [])
    (h : b.Stands (t ++ finalFeed t) false) : b.content (chompingFor t) = t := by
  obtain ⟨before, c, rfl⟩ : ∃ before c, t = before ++ [c] :=
    ⟨t.dropLast, t.getLast ht, (List.dropLast_concat_getLast ht).symm⟩
  rw [chompingFor_concat, Block.content]
  cases hc : isBreak c with
  | false =>
    have hfinal : finalFeed (before ++ [c]) = ['\n'] := by simp [finalFeed, hc]
    rw [hfinal] at h
    rcases h.before_last with hbreak | ⟨hread, -, -⟩
    · simp [hc] at hbreak
    · simp [hread]
  | true =>
    have hfinal : finalFeed (before ++ [c]) = [] := by simp [finalFeed, hc]
    rw [hfinal, List.append_nil] at h
    by_cases hkeep : (before.isEmpty || before.getLast?.any isBreak) = true
    · simpa [hkeep] using h.eq_append
    · obtain hbreak | ⟨hread, hline, -⟩ := h.before_last
      · exact absurd hbreak hkeep
      · simp [hkeep, hread, hline]

/-! ## §D Lines -/

variable {outer : Int} (start : Mark)

/-- The indentation of a line, and spaces after the last one. -/
theorem blockLines_spaces {b : Block} (n : Nat) (t : Text) (m : Mark)
    (hb : b.indent = 0 ∨ m.column + n ≤ b.indent) :
    blockLines true outer start (spaces n ++ t) m false b =
      blockLines true outer start t (m.along (spaces n)) false b := by
  induction n generalizing m with
  | zero => rfl
  | succ n ih =>
    have hcolumn := Mark.column_step (c := ' ') (by decide) m (spaces n ++ t)
    have hspace : (' ' == ' ' && (b.indent == 0 || decide (m.column < b.indent))) = true := by
      simp only [beq_self_eq_true, Bool.true_and, Bool.or_eq_true, beq_iff_eq, decide_eq_true_eq]
      omega
    rw [spaces_succ, List.cons_append, blockLines, if_neg (by simp), if_pos hspace,
      ih _ (by omega), Mark.along_cons (by decide)]

/-- The first character of a line, behind the indentation of the block, which need not be known if
the character is no space. -/
theorem blockLines_startLine {b : Block} {width : Nat} {c : Char} (houter : outer < width)
    (hpos : 0 < width) (hprintable : isPrintable c = true) (hc : isBreak c = false)
    (hb : b.indent = width ∨ (b.indent = 0 ∧ b.widest ≤ width ∧ c ≠ ' ')) (t : Text) {m : Mark}
    (hm : m.column = width) :
    blockLines true outer start (c :: t) m false b =
      blockLines true outer start t (m.step c t) true
        ({ b with indent := width }.startLine true c) := by
  have hspace : (c == ' ' && (b.indent == 0 || decide (m.column < b.indent))) = false := by
    rw [Bool.and_eq_false_iff, Bool.or_eq_false_iff, beq_eq_false_iff_ne, beq_eq_false_iff_ne,
      decide_eq_false_iff_not]
    rcases hb with hb | ⟨-, -, hb⟩
    · exact .inr (by omega)
    · exact .inl hb
  have htab : c ≠ '\t' := by
    rintro rfl
    exact absurd hprintable (by decide)
  have hindent : (if b.indent == 0 then max (max b.widest m.column) (max (outer + 1).toNat 1)
      else b.indent) = width := by
    rcases hb with hb | ⟨hb, hwidest, -⟩
    · rw [if_neg (by rw [beq_iff_eq]; omega), hb]
    · have hcolumn : max b.widest m.column = width := by omega
      have hleast : max (outer + 1).toNat 1 ≤ width := by omega
      rw [if_pos (by rw [beq_iff_eq]; exact hb), hcolumn, Nat.max_eq_left hleast]
  rw [blockLines, if_neg (by simp), if_neg (by simp [hspace]), if_neg (by simp [htab]),
    if_neg (by simp [hc])]
  simp only [hindent]
  rw [if_pos (by rw [beq_iff_eq]; exact hm)]

/-- **`b.Within width w inLine m`** -- the reader has read the text `w` and stands at the place `m`
of the block, whose indentation is known. -/
structure Block.Within (b : Block) (width : Nat) (w : Text) (inLine : Bool) (m : Mark) : Prop where
  stands : b.Stands w inLine
  indent_eq : b.indent = width
  column_eq : inLine = false → m.column = 0

section

variable {width : Nat} {b : Block} {w : Text} {m : Mark} {c : Char} (u tail : Text)

/-- A break ends a line. -/
theorem blockLines_endLine (h : b.Within width w true m) (hc : isPrintable c = true)
    (hbreak : isBreak c = true) :
    ∃ b' m', b'.Within width (w ++ [c]) false m' ∧
      blockLines true outer start (writeLines width (c :: u) false ++ tail) m true b =
        blockLines true outer start (writeLines width u true ++ tail) m' false b' := by
  refine ⟨{ b with lineBreak := [c] }, m.step c (writeLines width u true ++ tail),
    ⟨h.stands.end_line hbreak, h.indent_eq, fun _ => Mark.column_step_break hc hbreak m _⟩, ?_⟩
  rw [writeLines, if_pos hbreak, List.cons_append, blockLines, if_pos rfl, if_pos hbreak,
    if_neg (by simp [joinsNext_of_isPrintable hc]), breakText_of_isPrintable hc hbreak]

/-- A break makes an empty line, which is not indented. -/
theorem blockLines_emptyLine (h : b.Within width w false m) (hc : isPrintable c = true)
    (hbreak : isBreak c = true) :
    ∃ b' m', b'.Within width (w ++ [c]) false m' ∧
      blockLines true outer start (writeLines width (c :: u) true ++ tail) m false b =
        blockLines true outer start (writeLines width u true ++ tail) m' false b' := by
  have hspace : c ≠ ' ' := by
    rintro rfl
    cases hbreak
  have htab : c ≠ '\t' := by
    rintro rfl
    cases hbreak
  refine ⟨{ b with more := b.more ++ [c], widest := max b.widest m.column },
    m.step c (writeLines width u true ++ tail), ⟨h.stands.push_break hbreak _, h.indent_eq,
      fun _ => Mark.column_step_break hc hbreak m _⟩, ?_⟩
  rw [writeLines, if_pos hbreak, List.cons_append, blockLines, if_neg (by simp),
    if_neg (by simp [hspace]), if_neg (by simp [htab]), if_pos hbreak,
    if_neg (by simp [joinsNext_of_isPrintable hc]), breakText_of_isPrintable hc hbreak]

/-- A character of a line. -/
theorem blockLines_char (h : b.Within width w true m) (hbreak : isBreak c = false) :
    ∃ b' m', b'.Within width (w ++ [c]) true m' ∧
      blockLines true outer start (writeLines width (c :: u) false ++ tail) m true b =
        blockLines true outer start (writeLines width u false ++ tail) m' true b' := by
  refine ⟨{ b with read := c :: b.read }, m.step c (writeLines width u false ++ tail),
    ⟨h.stands.push_char hbreak, h.indent_eq, Bool.noConfusion⟩, ?_⟩
  rw [writeLines, if_neg (by simp [hbreak]), if_neg (by simp), List.nil_append, List.cons_append,
    blockLines, if_pos rfl, if_neg (by simp [hbreak])]

/-- The first character of a line stands behind its indentation. -/
theorem blockLines_firstChar (houter : outer < width) (hpos : 0 < width)
    (h : b.Within width w false m) (hc : isPrintable c = true) (hbreak : isBreak c = false) :
    ∃ b' m', b'.Within width (w ++ [c]) true m' ∧
      blockLines true outer start (writeLines width (c :: u) true ++ tail) m false b =
        blockLines true outer start (writeLines width u false ++ tail) m' true b' := by
  have hcolumn : (m.along (spaces width)).column = width := by simp [h.column_eq rfl]
  have hindent := h.indent_eq
  have hstart := blockLines_startLine start houter hpos hc hbreak (.inl hindent)
    (writeLines width u false ++ tail) hcolumn
  refine ⟨b.startLine true c, (m.along (spaces width)).step c (writeLines width u false ++ tail),
    ⟨h.stands.start_line hbreak, hindent, Bool.noConfusion⟩, ?_⟩
  rw [writeLines, if_neg (by simp [hbreak]), if_pos rfl, List.append_assoc,
    blockLines_spaces start width _ m (by have := h.column_eq rfl; omega), List.cons_append, hstart,
    ← hindent]

/-- **One character** of a block whose indentation is known. -/
theorem blockLines_step (houter : outer < width) (hpos : 0 < width) {inLine : Bool}
    (h : b.Within width w inLine m) (hc : isPrintable c = true) :
    ∃ b' m' inLine', b'.Within width (w ++ [c]) inLine' m' ∧
      blockLines true outer start (writeLines width (c :: u) (!inLine) ++ tail) m inLine b =
        blockLines true outer start (writeLines width u (!inLine') ++ tail) m' inLine' b' := by
  cases inLine with
  | true =>
    cases hbreak : isBreak c with
    | true =>
      obtain ⟨b', m', h', hread⟩ := blockLines_endLine start u tail h hc hbreak
      exact ⟨b', m', false, h', hread⟩
    | false =>
      obtain ⟨b', m', h', hread⟩ := blockLines_char start u tail h hbreak
      exact ⟨b', m', true, h', hread⟩
  | false =>
    cases hbreak : isBreak c with
    | true =>
      obtain ⟨b', m', h', hread⟩ := blockLines_emptyLine start u tail h hc hbreak
      exact ⟨b', m', false, h', hread⟩
    | false =>
      obtain ⟨b', m', h', hread⟩ := blockLines_firstChar start u tail houter hpos h hc hbreak
      exact ⟨b', m', true, h', hread⟩

end

/-- **The lines of a block.** The text that is left is read as it was written; the indentation is
known. -/
theorem blockLines_write {width : Nat} (houter : outer < width) (hpos : 0 < width) {u : Text}
    (hprintable : ∀ c ∈ u, isPrintable c = true) (tail : Text) {b : Block} {w : Text}
    {inLine : Bool} {m : Mark} (h : b.Within width w inLine m) :
    ∃ b' m' inLine', b'.Within width (w ++ u) inLine' m' ∧
      blockLines true outer start (writeLines width u (!inLine) ++ tail) m inLine b =
        blockLines true outer start tail m' inLine' b' := by
  induction u generalizing b w inLine m with
  | nil => exact ⟨b, m, inLine, by rwa [List.append_nil], rfl⟩
  | cons c u ih =>
    obtain ⟨b₁, m₁, inLine₁, h₁, hstep⟩ :=
      blockLines_step start u tail houter hpos h (hprintable c (List.mem_cons_self ..))
    obtain ⟨b', m', inLine', h', hread⟩ :=
      ih (fun d hd => hprintable d (List.mem_cons_of_mem _ hd)) h₁
    exact ⟨b', m', inLine', by rwa [List.append_cons], hstep.trans hread⟩

/-- A line that is not indented enough ends a block. -/
theorem blockLines_stop {column : Nat} {next : Text} (hnext : StartsEntry column next) {b : Block}
    (hb : column < b.indent) {m : Mark} (hm : m.column = 0) :
    ∃ m', m'.column = column ∧
      blockLines true outer start (spaces column ++ next) m false b = .ok (b, ⟨next, m'⟩) := by
  have hcolumn : (m.along (spaces column)).column = column := by simp [hm]
  refine ⟨m.along (spaces column), hcolumn, ?_⟩
  rw [blockLines_spaces start column next m (by omega)]
  rcases hnext with ⟨rfl, -⟩ | ⟨c, t, rfl, hc⟩
  · rfl
  · obtain ⟨hblank, hbreak⟩ := isGap_eq_false_iff.1 (startsToken_iff.1 hc).1
    obtain ⟨hspace, htab⟩ := Bool.or_eq_false_iff.1 hblank
    have hindent : ¬ (b.indent == 0) = true := by simp; omega
    have hstop : ¬ ((m.along (spaces column)).column == b.indent) = true := by
      rw [hcolumn, beq_iff_eq]
      omega
    rw [blockLines, if_neg (by simp), if_neg (by simp [hspace]), if_neg (by simp [htab]),
      if_neg (by simp [hbreak])]
    simp only [if_neg hindent, if_neg hstop]

/-- **All lines of a block.** The first one shows how deep they are indented, or this is known
before. -/
theorem blockLines_all {width : Nat} (houter : outer < width) (hpos : 0 < width) {u : Text}
    (hu : u ≠ []) (hprintable : ∀ c ∈ u, isPrintable c = true) (tail : Text) {m : Mark}
    (hm : m.column = 0) :
    ∃ b' m' inLine', b'.Within width u inLine' m' ∧
      blockLines true outer start (writeLines width u true ++ tail) m false
          ⟨[], [], [], false, if hidesIndentation u then width else 0, 0⟩ =
        blockLines true outer start tail m' inLine' b' := by
  cases hhides : hidesIndentation u with
  | true =>
    exact blockLines_write start houter hpos hprintable tail ⟨.nil width 0, rfl, fun _ => hm⟩
  | false =>
    obtain ⟨c, u, rfl⟩ := List.exists_cons_of_ne_nil hu
    have hc := hprintable c (List.mem_cons_self ..)
    obtain ⟨hspace, hbreak⟩ : c ≠ ' ' ∧ isBreak c = false := by
      simpa [hidesIndentation, isSpace] using hhides
    have hcolumn : (m.along (spaces width)).column = width := by simp [hm]
    have hstart := blockLines_startLine start (b := ⟨[], [], [], false, 0, 0⟩) houter hpos
      hc hbreak (.inr ⟨rfl, Nat.zero_le _, hspace⟩) (writeLines width u false ++ tail) hcolumn
    have hfirst : (Block.startLine ⟨[], [], [], false, width, 0⟩ true c).Within width [c] true
        ((m.along (spaces width)).step c (writeLines width u false ++ tail)) :=
      ⟨(Block.Stands.nil width 0).start_line hbreak, rfl, Bool.noConfusion⟩
    obtain ⟨b', m', inLine', h', hread⟩ := blockLines_write start houter hpos
      (fun d hd => hprintable d (List.mem_cons_of_mem _ hd)) tail hfirst
    refine ⟨b', m', inLine', h', ?_⟩
    rw [writeLines, if_neg (by simp [hbreak]), if_pos rfl, if_neg (by simp), List.append_assoc,
      blockLines_spaces start width _ m (.inl rfl), List.cons_append, hstart]
    exact hread

/-! ## §E The whole scalar -/

/-- The first line of a block scalar. -/
theorem blockScalar_header (outer : Int) (hint : Bool) (chomping : Chomping) (rest : Text)
    (m : Mark) :
    ∃ m', m'.column = 0 ∧
      blockScalar true outer
          ⟨'|' :: ((if hint then ['2'] else []) ++ chomping.sign) ++ '\n' :: rest, m⟩ =
        (blockLines true outer m rest m' false
          ⟨[], [], [], false, if hint then (max outer 0).toNat + 2 else 0, 0⟩).map
            fun r => (r.1.content chomping, r.2) := by
  cases hint <;> cases chomping <;> exact ⟨_, rfl, rfl⟩

theorem writeLines_append_finalFeed (width : Nat) (t : Text) :
    writeLines width (t ++ finalFeed t) true = writeLines width t true ++ finalFeed t := by
  have hfeed (t : Text) (broken : Bool) :
      writeLines width (t ++ ['\n']) broken = writeLines width t broken ++ ['\n'] := by
    induction t generalizing broken with
    | nil => rfl
    | cons c t ih =>
      rw [List.cons_append, writeLines, writeLines, ih, ih]
      split <;> simp
  rw [finalFeed]
  split
  · rw [List.append_nil, List.append_nil]
  · exact hfeed t true

theorem getLast?_append_finalFeed (t : Text) :
    (t ++ finalFeed t).getLast?.any isBreak = true := by
  rw [finalFeed]
  split
  · rwa [List.append_nil]
  · rw [List.getLast?_concat]
    rfl

theorem isPrintable_of_mem_append_finalFeed {t : Text} (h : ∀ c ∈ t, isPrintable c = true) :
    ∀ c ∈ t ++ finalFeed t, isPrintable c = true := by
  intro c hc
  rcases List.mem_append.1 hc with hc | hc
  · exact h c hc
  · rw [finalFeed] at hc
    split at hc
    · cases hc
    · obtain rfl := List.mem_singleton.1 hc
      decide

/-- **A block scalar.** A text is read back from the lines that were written for it, up to a line
that is not indented more than the collection around it. -/
theorem blockScalar_write {outer : Nat} {t : Text} (ht : t ≠ [])
    (hprintable : ∀ c ∈ t, isPrintable c = true) {column : Nat} {next : Text}
    (hnext : StartsEntry column next) (hcolumn : column ≤ outer) (m : Mark) :
    ∃ m', m'.column = column ∧
      blockScalar true outer ⟨'|' :: blockHints t ++ '\n' :: writeLines (outer + 2) t true ++
        finalFeed t ++ (spaces column ++ next), m⟩ = .ok (t, ⟨next, m'⟩) := by
  have hhides : hidesIndentation (t ++ finalFeed t) = hidesIndentation t := by
    obtain ⟨c, u, rfl⟩ := List.exists_cons_of_ne_nil ht
    rfl
  have hwidth : (max (outer : Int) 0).toNat + 2 = outer + 2 := by omega
  obtain ⟨m₁, hm₁, hheader⟩ := blockScalar_header outer (hidesIndentation t) (chompingFor t)
    (writeLines (outer + 2) (t ++ finalFeed t) true ++ (spaces column ++ next)) m
  obtain ⟨b, m₂, inLine, h, hlines⟩ :=
    blockLines_all m (show (outer : Int) < (outer + 2 : Nat) by omega) (by omega)
      (u := t ++ finalFeed t) (by simp [ht]) (isPrintable_of_mem_append_finalFeed hprintable)
      (spaces column ++ next) hm₁
  obtain rfl := h.stands.inLine_eq (getLast?_append_finalFeed t)
  have hindent := h.indent_eq
  obtain ⟨m₃, hm₃, hstop⟩ := blockLines_stop m hnext (show column < b.indent by omega)
    (h.column_eq rfl)
  refine ⟨m₃, hm₃, ?_⟩
  have htext : '|' :: blockHints t ++ '\n' :: writeLines (outer + 2) t true ++ finalFeed t ++
      (spaces column ++ next) =
      '|' :: ((if hidesIndentation t then ['2'] else []) ++ (chompingFor t).sign) ++
        '\n' :: (writeLines (outer + 2) (t ++ finalFeed t) true ++ (spaces column ++ next)) := by
    rw [blockHints_eq, writeLines_append_finalFeed]
    simp
  rw [hhides] at hlines
  rw [hwidth, hlines, hstop] at hheader
  rw [htext, hheader, Except.map]
  simp only [h.stands.content_eq ht]

end RtlLiterals.Yaml
