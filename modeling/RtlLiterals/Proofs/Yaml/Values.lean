import RtlLiterals.Proofs.Yaml.BlockScalar
import RtlLiterals.Proofs.Yaml.DoubleQuoted
import RtlLiterals.Proofs.Yaml.Keys
import RtlLiterals.Proofs.Yaml.SingleQuoted

/-!
# RtlLiterals.Proofs.Yaml.Values -- every text is read back as it was written

Whatever style is chosen for a text, the value of an entry that is written in this style is read as
one scalar with the text as its content, and reading stands at the next entry then
(`reads_writeText`). The styles differ in where they stop: a plain scalar and a block go on to the
next entry, the others stop at their closing quote.
-/

namespace RtlLiterals.Yaml

/-- **`Reads indent value style content`** -- in a mapping indented by `indent`, the text `value`
after a colon is read as a scalar, up to the next entry; whether a key may start there makes no
difference. -/
def Reads (indent : Nat) (value : Text) (style : ScalarStyle) (content : Text) : Prop :=
  ∀ ⦃column : Nat⦄ ⦃next : Text⦄, StartsEntry column next → column ≤ indent →
    ∀ ⦃m : Mark⦄, indent < m.column → ∀ (tokens : List Token) (columns : List Nat)
      (keyAllowed : Bool), ∃ m' t, m'.column = column ∧ t.kind = .scalar style content ∧
        Layout.Steps
          (.between (' ' :: (value ++ (spaces column ++ next))) m tokens (indent :: columns)
            keyAllowed)
          (.between next m' (t :: tokens) (indent :: columns) true)

namespace Layout

/-! ## §A One value -/

/-- The layout with another key that may have started. -/
def withKey (s : Layout) (pending : Option PendingKey) : Layout := { s with pending := pending }

/-- The key that a value may be the start of, where a key may start. -/
def valueKey (m : Mark) (tokens : List Token) (keyAllowed : Bool) : Option PendingKey :=
  if keyAllowed then some ⟨tokens.length, m, false⟩ else none

theorem of_mem_valueKey {p : PendingKey} {m : Mark} {tokens : List Token} {keyAllowed : Bool}
    (h : p ∈ valueKey m tokens keyAllowed) : p.required = false ∧ p.mark = m := by
  cases keyAllowed with
  | false => cases h
  | true =>
    obtain rfl := Option.some.inj h
    exact ⟨rfl, rfl⟩

/-- A value is indented too much for its line to be nothing but a key. -/
theorem saveKey_value (rest : Text) {m : Mark} {indent : Nat} (hcolumn : indent < m.column)
    (tokens : List Token) (columns : List Nat) (keyAllowed : Bool) :
    (between rest m tokens (indent :: columns) keyAllowed).saveKey =
      .ok ((between rest m tokens (indent :: columns) keyAllowed).withKey
        (valueKey m tokens keyAllowed)) := by
  cases keyAllowed with
  | false => rfl
  | true =>
    have hindent : decide ((indent : Int) = (m.column : Int)) = false :=
      decide_eq_false (by omega)
    change Except.ok { between rest m tokens (indent :: columns) true with
      pending := some ⟨tokens.length, m, true && decide ((indent : Int) = (m.column : Int))⟩ } = _
    rw [hindent]
    rfl

/-- A key that is not required can be given up. -/
theorem expire_of_optional {s : Layout} {pending : Option PendingKey}
    (hpending : ∀ p ∈ pending, p.required = false) :
    s.expire pending = .ok (pending.filter (!s.isStale ·)) := by
  cases pending with
  | none => rfl
  | some p =>
    rw [expire, hpending p rfl, Option.filter_some]
    cases s.isStale p <;> rfl

theorem expireKeys_of_optional {s : Layout} (houter : s.outer = [])
    (hpending : ∀ p ∈ s.pending, p.required = false) :
    s.expireKeys = .ok (s.withKey (s.pending.filter (!s.isStale ·))) := by
  have hexpire := expire_of_optional (s := s) hpending
  obtain ⟨cursor, tokens, columns, pending, outer, keyAllowed⟩ := s
  subst houter
  rw [expireKeys, hexpire]
  rfl

/-- A key that is not required is given up on the next line. -/
theorem expireKeys_of_passed {s : Layout} (houter : s.outer = [])
    (hpending : ∀ p ∈ s.pending, p.required = false ∧ p.mark.line < s.mark.line) :
    s.expireKeys = .ok (s.withKey none) := by
  rw [expireKeys_of_optional houter fun p hp => (hpending p hp).1]
  cases hkey : s.pending with
  | none => rfl
  | some p =>
    have hstale : s.isStale p = true := by
      rw [isStale, decide_eq_true (hpending p hkey).2, Bool.true_or]
    rw [Option.filter_some, hstale]
    rfl

/-- The step over a value, from its first character. -/
theorem steps_value {c : Char} {u : Text} {m : Mark} {indent : Nat} {tokens : List Token}
    {columns : List Nat} {s s' : Layout} {t : Token} {keyAllowed : Bool} (hgap : isGap c = false)
    (hcomment : c ≠ '#') (hmark : c ≠ byteOrderMark) (hcolumn : indent < m.column)
    {style : ScalarStyle} {content : Text} (ht : t.kind = .scalar style content)
    (hread : (between (c :: u) (m.along [' ']) tokens (indent :: columns) keyAllowed).readToken =
      .ok s) (hkeys : s.expireKeys = .ok s') (htokens : s'.tokens = t :: tokens)
    (hlength : s'.cursor.rest.length ≤ u.length) :
    Steps (between (' ' :: c :: u) m tokens (indent :: columns) keyAllowed) s' := by
  have hstop := (nextToken_spaces 1 (c :: u) m keyAllowed).trans
    (nextToken_stop hgap hcomment hmark u _ keyAllowed)
  have hdone : s'.isDone = false := by
    rw [isDone, htokens]
    simp [ht]
  refine .head (step_eq (skipGap_eq rfl hstop) (expireKeys_of_none rfl rfl) ?_ hread hkeys) hdone
    (Nat.lt_succ_of_lt (Nat.lt_succ_of_le hlength)) (.refl rfl (Nat.le_refl _))
  intro d hd
  obtain rfl : indent = d := Option.some.inj hd
  exact Nat.le_add_right_of_le (Nat.le_of_lt hcolumn)

/-- **The next entry.** Behind a value reading goes on to it, and a key that the value might have
been the start of is given up. -/
theorem steps_nextEntry {column : Nat} {next : Text} (hnext : StartsEntry column next) {m : Mark}
    (tokens : List Token) (columns : List Nat) {pending : Option PendingKey}
    (hpending : ∀ p ∈ pending, p.required = false ∧ p.mark.line ≤ m.line) :
    ∃ m', m'.column = column ∧
      Steps ((between ('\n' :: (spaces column ++ next)) m tokens columns false).withKey pending)
        (between next m' tokens columns true) := by
  obtain ⟨m', hm', hline, hskip⟩ := nextToken_nextEntry hnext m false
  have hgap : ((between ('\n' :: (spaces column ++ next)) m tokens columns false).withKey
      pending).skipGap = (between next m' tokens columns true).withKey pending :=
    skipGap_eq rfl hskip
  have hgap' : (between next m' tokens columns true).skipGap =
      between next m' tokens columns true :=
    skipGap_eq rfl (nextToken_startsEntry hnext m' true)
  have hkeys : ((between next m' tokens columns true).withKey pending).expireKeys =
      .ok (between next m' tokens columns true) :=
    expireKeys_of_passed rfl fun p hp =>
      ⟨(hpending p hp).1, Nat.lt_of_le_of_lt (hpending p hp).2 hline⟩
  refine ⟨m', hm', .refl ?_ ?_⟩
  · rw [step, step, hgap, hgap', hkeys, expireKeys_of_none rfl rfl]
  · simp only [between, withKey, List.length_cons, List.length_append]
    omega

end Layout

/-! ## §B Styles -/

open Layout

theorem reads_plain {t : Text} (hplain : plainAllowed t = true) (hne : t ≠ []) (indent : Nat) :
    Reads indent (t ++ ['\n']) .plain t := by
  intro column next hnext hle m hm tokens columns keyAllowed
  obtain ⟨c, u, rfl⟩ := List.exists_cons_of_ne_nil hne
  obtain ⟨hprintable, hgap, hlist, hword⟩ := start_of_plainAllowed hplain
  have hends : endsWord (u ++ '\n' :: (spaces column ++ next)) = endsWord u := by
    cases u with
    | nil => rfl
    | cons => rfl
  have hindent : indent < (m.along [' ']).column := by
    rw [Mark.column_along]
    omega
  obtain ⟨m', hm', hline, hstop⟩ := plain_lineFeed hnext
    (show (column : Int) < indent + 1 by omega) (m.along [' '])
    ((m.along [' ']).along (c :: u)) (c :: u).reverse
  have hread := (plain_word hplain (show (indent : Int) + 1 ≤ ((m.along [' ']).column : Int) + 1 by
    omega) (m.along [' ']) ('\n' :: (spaces column ++ next))).trans hstop
  rw [List.reverse_reverse] at hread
  have htext : c :: u ++ ['\n'] ++ (spaces column ++ next) =
      c :: (u ++ '\n' :: (spaces column ++ next)) := by simp
  have hsave := saveKey_value (c :: (u ++ '\n' :: (spaces column ++ next))) hindent tokens columns
    keyAllowed
  rw [htext]
  refine ⟨m', ⟨.scalar .plain (c :: u), m.along [' '], m'⟩, hm', rfl, steps_value hgap ?_ ?_ hm rfl
    ((readToken_plain rfl rfl hgap hlist (by rw [hends, hword]) ?_).trans
      (readPlain_eq hsave rfl hread)) (expireKeys_of_passed rfl ?_) rfl ?_⟩
  · rintro rfl
    exact hlist (by decide)
  · rintro rfl
    exact absurd hprintable (by decide)
  · exact Cursor.atMarker_of_column_pos (by simp [between])
  · intro p hp
    obtain ⟨hrequired, hmark⟩ := of_mem_valueKey hp
    rw [hmark]
    exact ⟨hrequired, hline⟩
  · change next.length ≤ _
    simp only [List.length_append, List.length_cons]
    omega

/-- A token with its own text. -/
theorem readWord_eq {s t : Layout} {word : Cursor → Except Problem (TokenKind × Cursor)}
    {kind : TokenKind} {k : Cursor} (hsave : s.saveKey = .ok t)
    (hword : word t.cursor = .ok (kind, k)) :
    s.readWord word = .ok { t.push kind k with keyAllowed := false } := by
  simp only [readWord, hsave, bind, Except.bind, hword]

/-- A block scalar, where no key is pending. -/
theorem readBlockScalar_eq {s : Layout} {t : Text} {k : Cursor} (hpending : s.pending = none)
    (literal : Bool) (hread : blockScalar literal s.indent s.cursor = .ok (t, k)) :
    s.readBlockScalar literal =
      .ok { s.push (.scalar (if literal then .literal else .folded) t) k with
        keyAllowed := true } := by
  have hdrop : s.dropKey = .ok s := by
    obtain ⟨cursor, tokens, columns, pending, outer, keyAllowed⟩ := s
    subst hpending
    rfl
  simp only [readBlockScalar, hdrop, bind, Except.bind, hread]

section

variable {u : Text} {m : Mark} {indent : Nat} (hm : indent < m.column) (tokens : List Token)
  (columns : List Nat) (keyAllowed : Bool) {t : Text} {k : Cursor}
include hm

theorem readToken_singleQuote (hread : singleQuoted m u (m.step '\x27' u) [] .none = .ok (t, k)) :
    (between ('\x27' :: u) m tokens (indent :: columns) keyAllowed).readToken =
      .ok ((between k.rest k.mark (⟨.scalar .singleQuoted t, m, k.mark⟩ :: tokens)
        (indent :: columns) false).withKey (valueKey m tokens keyAllowed)) := by
  have hsave := saveKey_value ('\x27' :: u) hm tokens columns keyAllowed
  rw [readToken, between, Cursor.atMarker_of_column_pos (Nat.zero_lt_of_lt hm)]
  change (between ('\x27' :: u) m tokens (indent :: columns) keyAllowed).readSingleQuoted = _
  refine readWord_eq hsave ?_
  change (singleQuoted m u (m.step '\x27' u) [] .none).map _ = _
  rw [hread]
  rfl

theorem readToken_doubleQuote
    (hread : doubleQuoted m u (m.step '\x22' u) [] (.text .none) = .ok (t, k)) :
    (between ('\x22' :: u) m tokens (indent :: columns) keyAllowed).readToken =
      .ok ((between k.rest k.mark (⟨.scalar .doubleQuoted t, m, k.mark⟩ :: tokens)
        (indent :: columns) false).withKey (valueKey m tokens keyAllowed)) := by
  have hsave := saveKey_value ('\x22' :: u) hm tokens columns keyAllowed
  rw [readToken, between, Cursor.atMarker_of_column_pos (Nat.zero_lt_of_lt hm)]
  change (between ('\x22' :: u) m tokens (indent :: columns) keyAllowed).readDoubleQuoted = _
  refine readWord_eq hsave ?_
  change (doubleQuoted m u (m.step '\x22' u) [] (.text .none)).map _ = _
  rw [hread]
  rfl

theorem readToken_bar (hread : blockScalar true indent ⟨'|' :: u, m⟩ = .ok (t, k)) :
    (between ('|' :: u) m tokens (indent :: columns) keyAllowed).readToken =
      .ok (between k.rest k.mark (⟨.scalar .literal t, m, k.mark⟩ :: tokens) (indent :: columns)
        true) := by
  rw [readToken, between, Cursor.atMarker_of_column_pos (Nat.zero_lt_of_lt hm)]
  exact readBlockScalar_eq (s := between ('|' :: u) m tokens (indent :: columns) keyAllowed) rfl
    true hread

end

/-- A quoted value, from its opening quote to the next entry. -/
theorem steps_quoted {quote : Char} (hquote : startsToken quote = true) {u : Text} {m m₁ : Mark}
    {indent : Nat} (hm : indent < m.column) {tokens : List Token} {columns : List Nat}
    {keyAllowed : Bool} {column : Nat} {next : Text} (hnext : StartsEntry column next) {t : Token}
    {style : ScalarStyle} {content : Text} (ht : t.kind = .scalar style content)
    (hline : m.line ≤ m₁.line) (hlength : next.length + column < u.length)
    (hread : (between (quote :: u) (m.along [' ']) tokens (indent :: columns)
        keyAllowed).readToken =
      .ok ((between ('\n' :: (spaces column ++ next)) m₁ (t :: tokens) (indent :: columns)
        false).withKey (valueKey (m.along [' ']) tokens keyAllowed))) :
    ∃ m', m'.column = column ∧
      Steps (between (' ' :: quote :: u) m tokens (indent :: columns) keyAllowed)
        (between next m' (t :: tokens) (indent :: columns) true) := by
  obtain ⟨hgap, hcomment, hmark⟩ := startsToken_iff.1 hquote
  have hoptional (p : PendingKey) (hp : p ∈ valueKey (m.along [' ']) tokens keyAllowed) :
      p.required = false ∧ p.mark.line ≤ m₁.line := by
    obtain ⟨hrequired, hplace⟩ := of_mem_valueKey hp
    rw [hplace]
    exact ⟨hrequired, hline⟩
  obtain ⟨m', hm', hsteps⟩ := steps_nextEntry hnext (t :: tokens) (indent :: columns)
    fun p hp => hoptional p ((Option.mem_filter_iff.1 hp).1)
  refine ⟨m', hm', (steps_value hgap hcomment hmark hm ht hread
    (expireKeys_of_optional rfl fun p hp => (hoptional p hp).1) rfl ?_).trans hsteps⟩
  simp [between, withKey]
  omega

theorem reads_singleQuoted {t : Text} (hallowed : singleQuotedAllowed t = true) (hfeed : '\n' ∉ t)
    {width : Nat} (hwidth : 0 < width) (indent : Nat) :
    Reads indent ('\x27' :: writeSingleQuoted width t false ++ ['\x27', '\n']) .singleQuoted t := by
  intro column next hnext hle m hm tokens columns keyAllowed
  have hquotable : SingleQuotable t := by
    simp only [singleQuotedAllowed, allPrintable, Bool.and_eq_true, List.all_eq_true,
      Bool.not_eq_true'] at hallowed
    exact ⟨hallowed.1.1, hfeed, hallowed.1.2, hallowed.2⟩
  have htext : '\x27' :: writeSingleQuoted width t false ++ ['\x27', '\n'] ++
      (spaces column ++ next) =
      '\x27' :: (writeSingleQuoted width t false ++ '\x27' :: '\n' :: (spaces column ++ next)) := by
    simp
  have hfollows : ('\n' :: (spaces column ++ next)).head? ≠ some '\x27' := by simp
  have hpos : 0 < ((m.along [' ']).step '\x27' (writeSingleQuoted width t false ++
      '\x27' :: '\n' :: (spaces column ++ next))).column := by
    rw [Mark.column_step (by decide)]
    omega
  obtain ⟨m₁, hread⟩ := singleQuoted_write hwidth (m.along [' ']) hfollows hquotable []
    (Gap.before_none hpos t)
  have hline := Nat.le_trans (Mark.line_le_step ..) (singleQuoted_line_le hread)
  have hindent : indent < (m.along [' ']).column := Nat.lt_succ_of_lt hm
  obtain ⟨m', hm', hsteps⟩ := steps_quoted (by decide) hm hnext rfl hline (by simp; omega)
    (readToken_singleQuote hindent tokens columns keyAllowed hread)
  rw [htext]
  exact ⟨m', ⟨.scalar .singleQuoted t, m.along [' '], m₁⟩, hm', rfl, hsteps⟩

theorem reads_doubleQuoted (t : Text) (indent : Nat) :
    Reads indent ('\x22' :: writeDoubleQuoted t ++ ['\x22', '\n']) .doubleQuoted t := by
  intro column next hnext hle m hm tokens columns keyAllowed
  have htext : '\x22' :: writeDoubleQuoted t ++ ['\x22', '\n'] ++ (spaces column ++ next) =
      '\x22' :: (writeDoubleQuoted t ++ '\x22' :: '\n' :: (spaces column ++ next)) := by simp
  have hpos : 0 < ((m.along [' ']).step '\x22' (writeDoubleQuoted t ++
      '\x22' :: '\n' :: (spaces column ++ next))).column := by
    rw [Mark.column_step (by decide)]
    omega
  obtain ⟨m₁, hread⟩ :=
    doubleQuoted_write (m.along [' ']) t ('\n' :: (spaces column ++ next)) hpos [] []
  have hline := Nat.le_trans (Mark.line_le_step ..) (doubleQuoted_line_le hread)
  have hindent : indent < (m.along [' ']).column := Nat.lt_succ_of_lt hm
  obtain ⟨m', hm', hsteps⟩ := steps_quoted (by decide) hm hnext rfl hline (by simp; omega)
    (readToken_doubleQuote hindent tokens columns keyAllowed hread)
  rw [htext]
  exact ⟨m', ⟨.scalar .doubleQuoted t, m.along [' '], m₁⟩, hm', rfl, hsteps⟩

theorem reads_literal {t : Text} (hne : t ≠ []) (hprintable : ∀ c ∈ t, isPrintable c = true)
    (indent : Nat) :
    Reads indent ('|' :: blockHints t ++ '\n' :: writeLines (indent + 2) t true ++ finalFeed t)
      .literal t := by
  intro column next hnext hle m hm tokens columns keyAllowed
  obtain ⟨m', hm', hread⟩ := blockScalar_write hne hprintable hnext hle (m.along [' '])
  have hindent : indent < (m.along [' ']).column := Nat.lt_succ_of_lt hm
  refine ⟨m', ⟨.scalar .literal t, m.along [' '], m'⟩, hm', rfl,
    steps_value (by decide) (by decide) (by decide) hm rfl
      (readToken_bar hindent tokens columns keyAllowed hread) (expireKeys_of_none rfl rfl) rfl ?_⟩
  simp [between]
  omega

/-! ## §C Texts -/

/-- **`Fits t style`** -- the text has what reading it back in the style needs. -/
inductive Fits (t : Text) : ScalarStyle → Prop
  | plain : t ≠ [] → plainAllowed t = true → Fits t .plain
  | singleQuoted : '\n' ∉ t → singleQuotedAllowed t = true → Fits t .singleQuoted
  | doubleQuoted : Fits t .doubleQuoted
  | literal : t ≠ [] → (∀ c ∈ t, isPrintable c = true) → Fits t .literal

/-- The style that is chosen for a text fits it. -/
theorem fits_styleOf (t : Text) : Fits t (styleOf t) := by
  rw [styleOf]
  split
  · split
    case isTrue hliteral =>
      simp only [literalAllowed, allPrintable, Bool.and_eq_true, List.all_eq_true,
        Bool.not_eq_true', List.isEmpty_eq_false_iff] at hliteral
      exact .literal hliteral.1.1.1 hliteral.1.1.2
    case isFalse => exact .doubleQuoted
  case isFalse hfeed =>
    split
    case isTrue hplain =>
      rw [Bool.and_eq_true] at hplain
      refine .plain ?_ hplain.2
      rintro rfl
      exact absurd hplain.1 (by decide)
    case isFalse =>
      split
      case isTrue hsingle => exact .singleQuoted (by simpa using hfeed) hsingle
      case isFalse => exact .doubleQuoted

/-- **Every text.** Whatever its style, a text that is written as the value of an entry is read
back. -/
theorem reads_writeText (indent : Nat) (t : Text) :
    Reads indent (writeText (indent + 2) t) (styleOf t) t := by
  have hfits := fits_styleOf t
  rw [writeText]
  generalize styleOf t = style at hfits
  cases hfits with
  | plain hne hplain => exact reads_plain hplain hne indent
  | singleQuoted hfeed hsingle => exact reads_singleQuoted hsingle hfeed (by omega) indent
  | doubleQuoted => exact reads_doubleQuoted t indent
  | literal hne hprintable => exact reads_literal hne hprintable indent

/-! ## §D Characters -/

theorem mem_writeSingleQuoted {width : Nat} {t : Text} {broken : Bool} {c : Char}
    (h : c ∈ writeSingleQuoted width t broken) : c ∈ t ∨ c = ' ' ∨ c = '\x27' := by
  have hspaces {b : Bool} (h : c ∈ if b then spaces width else []) : c = ' ' := by
    cases b with
    | false => cases h
    | true => exact List.eq_of_mem_replicate h
  induction t generalizing broken with
  | nil => exact .inr (.inl (hspaces h))
  | cons d t ih =>
    rw [writeSingleQuoted] at h
    split at h
    · rcases List.mem_cons.1 h with rfl | h
      · simp
      · exact (ih h).imp_left (List.mem_cons_of_mem _)
    · rcases List.mem_append.1 h with h | h
      · rcases List.mem_append.1 h with h | h
        · exact .inr (.inl (hspaces h))
        · split at h <;> simp_all
      · exact (ih h).imp_left (List.mem_cons_of_mem _)

theorem mem_writeLines {width : Nat} {t : Text} {broken : Bool} {c : Char}
    (h : c ∈ writeLines width t broken) : c ∈ t ∨ c = ' ' := by
  induction t generalizing broken with
  | nil => cases h
  | cons d t ih =>
    rw [writeLines] at h
    split at h
    · rcases List.mem_cons.1 h with rfl | h
      · simp
      · exact (ih h).imp_left (List.mem_cons_of_mem _)
    · rcases List.mem_append.1 h with h | h
      · cases broken with
        | false => cases h
        | true => exact .inr (List.eq_of_mem_replicate h)
      · rcases List.mem_cons.1 h with rfl | h
        · simp
        · exact (ih h).imp_left (List.mem_cons_of_mem _)

theorem isAccepted_of_mem_hexDigits {k n : Nat} {c : Char} (h : c ∈ hexDigits k n) :
    isAccepted c = true := by
  have hall : ∀ n : Fin 16, isAccepted (hexDigit true n) = true := by decide
  induction k generalizing n with
  | zero => cases h
  | succ k ih =>
    rcases List.mem_append.1 h with h | h
    · exact ih h
    · rw [List.mem_singleton.1 h]
      exact hall ⟨n % 16, Nat.mod_lt _ (by decide)⟩

theorem isAccepted_of_mem_escape {c d : Char} (h : d ∈ escape c) : isAccepted d = true := by
  rw [escape] at h
  cases hletter : escapeLetter? c with
  | some e =>
    have he : isAccepted e = true := by
      simp only [escapeLetter?] at hletter
      split at hletter
      all_goals first
        | cases hletter; rfl
        | cases hletter
    simp only [hletter, List.mem_cons, List.not_mem_nil, or_false] at h
    rcases h with rfl | rfl
    · rfl
    · exact he
  | none =>
    have hnumber {x : Char} (hx : isAccepted x = true) {k : Nat}
        (h : d ∈ '\\' :: x :: hexDigits k c.toNat) : isAccepted d = true := by
      simp only [List.mem_cons] at h
      rcases h with rfl | rfl | h
      · rfl
      · exact hx
      · exact isAccepted_of_mem_hexDigits h
    simp only [hletter] at h
    split at h
    · exact hnumber rfl h
    · split at h
      · exact hnumber rfl h
      · exact hnumber rfl h

theorem isAccepted_of_mem_blockHints {t : Text} {c : Char} (h : c ∈ blockHints t) :
    isAccepted c = true := by
  have hsign (chomping : Chomping) : chomping.sign.all isAccepted = true := by
    cases chomping <;> rfl
  rw [blockHints_eq] at h
  rcases List.mem_append.1 h with h | h
  · split at h
    · obtain rfl := List.mem_singleton.1 h
      rfl
    · cases h
  · exact List.all_eq_true.1 (hsign _) c h

theorem isAccepted_of_mem_writeDoubleQuoted {t : Text} {c : Char} (h : c ∈ writeDoubleQuoted t) :
    isAccepted c = true := by
  obtain ⟨d, -, h⟩ := List.mem_flatMap.1 h
  split at h
  · exact isAccepted_of_mem_escape h
  case isFalse hescape =>
    obtain rfl := List.mem_singleton.1 h
    simp only [needsEscape, Bool.or_eq_true, not_or, Bool.not_eq_true',
      Bool.not_eq_false] at hescape
    exact isAccepted_of_isPrintable hescape.1.1.1

/-- All characters that are written for a text may stand in a document. -/
theorem isAccepted_of_mem_writeText {width : Nat} {t : Text} {c : Char}
    (h : c ∈ writeText width t) : isAccepted c = true := by
  have hfits := fits_styleOf t
  rw [writeText] at h
  generalize styleOf t = style at hfits h
  cases hfits with
  | plain hne hplain =>
    simp only [plainAllowed, allPrintable, Bool.and_eq_true, List.all_eq_true] at hplain
    rcases List.mem_append.1 h with h | h
    · exact isAccepted_of_isPrintable (hplain.1.1.1.1.1 c h)
    · obtain rfl := List.mem_singleton.1 h
      rfl
  | singleQuoted hfeed hsingle =>
    simp only [singleQuotedAllowed, allPrintable, Bool.and_eq_true, List.all_eq_true] at hsingle
    simp only [List.cons_append, List.mem_cons, List.mem_append, List.not_mem_nil, or_false] at h
    rcases h with rfl | h | rfl | rfl
    · rfl
    · rcases mem_writeSingleQuoted h with h | rfl | rfl
      · exact isAccepted_of_isPrintable (hsingle.1.1 c h)
      · rfl
      · rfl
    · rfl
    · rfl
  | doubleQuoted =>
    simp only [List.cons_append, List.mem_cons, List.mem_append, List.not_mem_nil, or_false] at h
    rcases h with rfl | h | rfl | rfl
    · rfl
    · exact isAccepted_of_mem_writeDoubleQuoted h
    · rfl
    · rfl
  | literal hne hprintable =>
    simp only [List.cons_append, List.mem_cons, List.mem_append] at h
    rcases h with rfl | (h | rfl | h) | h
    · rfl
    · exact isAccepted_of_mem_blockHints h
    · rfl
    · rcases mem_writeLines h with h | rfl
      · exact isAccepted_of_isPrintable (hprintable c h)
      · rfl
    · split at h
      · cases h
      · obtain rfl := List.mem_singleton.1 h
        rfl

end RtlLiterals.Yaml
