import RtlLiterals.Proofs.Yaml.PlainScalar

/-!
# RtlLiterals.Proofs.Yaml.Keys -- keys are found, and mappings open and close

The token of a key is only put in when the colon after it is seen, and the one that opens the
mapping with it. This module follows the steps of the reader over one key (`Layout.steps_key`) and
at the end of the text (`Layout.step_end`).

## §A States between entries

No brackets are open and no key is pending there, so a state is a place, the tokens so far, the
columns of the open mappings and whether a key may start. `Layout.Steps s t` says that steps lead
from `s` to `t`, up to what every step does before it reads a token: it passes a gap, gives up keys
and closes mappings. Each step goes over some text, so a text is never too long for the reader.
-/

namespace RtlLiterals.Yaml

namespace Layout

/-! ## §B Steps -/

/-- **`between rest m tokens columns keyAllowed`** -- the state at the text `rest` with no bracket
open and no key pending. -/
def between (rest : Text) (m : Mark) (tokens : List Token) (columns : List Nat)
    (keyAllowed : Bool) : Layout :=
  ⟨⟨rest, m⟩, tokens, columns, none, [], keyAllowed⟩

/-- **`Steps s t`** -- steps lead from `s` to `t`, each of them over some text, and none of them to
the end of it. -/
inductive Steps : Layout → Layout → Prop
  | refl {s t : Layout} : s.step = t.step → t.cursor.rest.length ≤ s.cursor.rest.length → Steps s t
  | head {s t u : Layout} : s.step = .ok t → t.isDone = false →
      t.cursor.rest.length < s.cursor.rest.length → Steps t u → Steps s u

namespace Steps

theorem trans {s t u : Layout} (h : Steps s t) (h' : Steps t u) : Steps s u := by
  induction h with
  | refl hstep hlength =>
    cases h' with
    | refl hstep' hlength' => exact .refl (hstep.trans hstep') (Nat.le_trans hlength' hlength)
    | head hnext hdone hlength' hrest =>
      exact .head (hstep.trans hnext) hdone (Nat.lt_of_lt_of_le hlength' hlength) hrest
  | head hstep hdone hlength _ ih => exact .head hstep hdone hlength (ih h')

/-- Steps that end where the text ends are the whole run. -/
theorem run_eq {s t u : Layout} (h : Steps s t) (hend : t.step = .ok u) (hdone : u.isDone = true)
    {fuel : Nat} (hfuel : s.cursor.rest.length < fuel) : s.run fuel = (u, none) := by
  induction h generalizing fuel with
  | refl hstep =>
    obtain ⟨fuel, rfl⟩ : ∃ k, fuel = k + 1 := ⟨fuel - 1, by omega⟩
    rw [run, hstep, hend]
    simp only [hdone, if_true]
  | head hstep hdone' hlength _ ih =>
    obtain ⟨fuel, rfl⟩ : ∃ k, fuel = k + 1 := ⟨fuel - 1, by omega⟩
    rw [run, hstep]
    simp only [hdone', Bool.false_eq_true, if_false]
    exact ih hend (by omega)

end Steps

/-! ## §C One step -/

/-- What the tokens say. -/
def kinds (tokens : List Token) : List TokenKind := tokens.map Token.kind

theorem kinds_cons (t : Token) (tokens : List Token) :
    kinds (t :: tokens) = t.kind :: kinds tokens := rfl

theorem kinds_append (ts tokens : List Token) : kinds (ts ++ tokens) = kinds ts ++ kinds tokens :=
  List.map_append

theorem expireKeys_of_none {s : Layout} (hpending : s.pending = none) (houter : s.outer = []) :
    s.expireKeys = .ok s := by
  obtain ⟨cursor, tokens, columns, pending, outer, keyAllowed⟩ := s
  subst hpending houter
  rfl

/-- A key is still possible on its line, if it is short enough. -/
theorem expireKeys_of_fresh {s : Layout} {p : PendingKey} (hpending : s.pending = some p)
    (houter : s.outer = []) (hline : p.mark.line = s.mark.line)
    (hindex : s.mark.index ≤ p.mark.index + 1024) : s.expireKeys = .ok s := by
  have hfresh : s.isStale p = false := by
    rw [isStale, decide_eq_false (by omega), decide_eq_false (by omega), Bool.or_false]
  have hexpire : s.expire (some p) = .ok (some p) := by
    rw [expire, hfresh]
    rfl
  obtain ⟨cursor, tokens, columns, pending, outer, keyAllowed⟩ := s
  subst hpending houter
  rw [expireKeys, hexpire]
  rfl

/-- No mapping closes at a column that is not left of the innermost one. -/
theorem closeBlocks_of_le {s : Layout} {column : Nat}
    (h : ∀ c ∈ s.columns.head?, c ≤ column) : s.closeBlocks column = s := by
  obtain ⟨cursor, tokens, columns, pending, outer, keyAllowed⟩ := s
  rw [closeBlocks]
  split
  · rfl
  · cases columns with
    | nil => rfl
    | cons c columns =>
      have hc : ¬ (decide ((column : Int) < (c : Int))) = true := by
        have hle : c ≤ column := h c rfl
        rw [decide_eq_true_eq]
        omega
      simp only [List.takeWhile_cons, List.dropWhile_cons, if_neg hc, List.map_nil, List.nil_append]

/-- A step before which no key is given up and no mapping closes. -/
theorem step_eq {s t u u' : Layout} (hgap : s.skipGap = t) (hkeys : t.expireKeys = .ok t)
    (hcolumn : ∀ c ∈ t.columns.head?, c ≤ t.mark.column) (hread : t.readToken = .ok u)
    (hkeys' : u.expireKeys = .ok u') : s.step = .ok u' := by
  rw [step, hgap, hkeys]
  change (do
    let s ← (t.closeBlocks (t.mark.column : Int)).readToken
    s.expireKeys) = _
  rw [closeBlocks_of_le hcolumn, hread]
  exact hkeys'

theorem skipGap_eq {s : Layout} {k : Cursor} {keyAllowed : Bool} (houter : s.outer = [])
    (h : nextToken false s.cursor.rest s.mark s.keyAllowed false = (k, keyAllowed)) :
    s.skipGap = { s with cursor := k, keyAllowed := keyAllowed } := by
  have hflow : s.inFlow = false := by rw [inFlow, houter]; rfl
  rw [skipGap, hflow, h]

theorem readPlain_eq {s t : Layout} {r : PlainRead} (hsave : s.saveKey = .ok t)
    (houter : t.outer = [])
    (hread : plain false (t.indent + 1) t.mark t.cursor.rest t.mark [] .none = .ok r) :
    s.readPlain =
      .ok { t.push (.scalar .plain r.content) r.cursor with keyAllowed := r.broken } := by
  have hflow : t.inFlow = false := by rw [inFlow, houter]; rfl
  simp only [readPlain, hsave, bind, Except.bind, hflow, hread]

/-! ## §D Where a key may stand -/

/-- The text may be the key of an entry, written plainly. -/
def isKey (key : Text) : Bool := plainAllowed key && !key.isEmpty

/-- The most bytes between the start of a key and its colon. -/
def keyBytesLimit : Nat := 1024

/-- **`Opens column columns opening columns'`** -- a key at the column belongs to the innermost open
mapping, or it opens one. -/
inductive Opens (column : Nat) : List Nat → List TokenKind → List Nat → Prop
  | stays (columns : List Nat) : Opens column (column :: columns) [] (column :: columns)
  | opens {columns : List Nat} : (∀ c ∈ columns.head?, c < column) →
      Opens column columns [.blockMappingStart] (column :: columns)

theorem Opens.columns_eq {column : Nat} {columns columns' : List Nat} {opening : List TokenKind}
    (h : Opens column columns opening columns') : ∃ around, columns' = column :: around := by
  cases h with
  | stays around => exact ⟨around, rfl⟩
  | opens => exact ⟨columns, rfl⟩

theorem Opens.le_column {column : Nat} {columns columns' : List Nat} {opening : List TokenKind}
    (h : Opens column columns opening columns') : ∀ c ∈ columns.head?, c ≤ column := by
  cases h with
  | stays => simp
  | opens h => exact fun c hc => Nat.le_of_lt (h c hc)

theorem indent_le {s : Layout} {column : Nat} (h : ∀ c ∈ s.columns.head?, c ≤ column) :
    s.indent ≤ (column : Int) := by
  rw [indent]
  split
  · omega
  · rename_i c columns hcolumns
    exact Int.ofNat_le.2 (h c (by rw [hcolumns]; rfl))

/-- The characters that start another token than a plain scalar, whatever follows them. -/
def indicators : List Char :=
  ['#', ',', '[', ']', '\x7b', '\x7d', '&', '*', '!', '|', '>', '\x27', '\x22', '%', '@', '\x60']

/-- The character starts another token than a plain scalar at the end of a word. -/
def isWordMark (c : Char) : Bool := c == '-' || c == '?' || c == ':'

/-- What may be written plainly starts as a plain scalar. -/
theorem start_of_plainAllowed {c : Char} {u : Text} (h : plainAllowed (c :: u) = true) :
    isPrintable c = true ∧ isGap c = false ∧ c ∉ indicators ∧
      (isWordMark c && endsWord u) = false := by
  simp only [plainAllowed, allPrintable, startsAsMark, holdsMark, List.all_cons, List.any_cons,
    List.head?_cons, List.contains_eq_mem, Bool.and_eq_true, Bool.not_eq_true',
    Bool.or_eq_false_iff, bne_iff_ne, ne_eq, Option.some.injEq, decide_eq_false_iff_not] at h
  obtain ⟨⟨⟨⟨⟨⟨hprintable, -⟩, hbreak, -⟩, hspace⟩, -⟩, ⟨hlist, hdash⟩, -⟩, ⟨hcolon, -⟩, -⟩ := h
  have hblank : isBlank c = false := by
    rw [← Bool.not_eq_true]
    exact fun hblank => hspace (eq_space_of_isBlank hprintable hblank)
  refine ⟨hprintable, isGap_eq_false_iff.2 ⟨hblank, hbreak⟩, hlist, ?_⟩
  rw [isWordMark, Bool.and_or_distrib_right, hdash, hcolon, Bool.or_false]

/-- A character that starts no other token starts a plain scalar. -/
theorem startsPlain_of_not_mem {c : Char} {u : Text} (hgap : isGap c = false)
    (hlist : c ∉ indicators) (hword : (isWordMark c && endsWord u) = false) :
    startsPlain false c u = true := by
  rw [startsPlain]
  split
  case isTrue hc =>
    rw [isWordMark, hc, Bool.true_or, Bool.true_or, Bool.true_and] at hword
    cases u with
    | nil => cases hword
    | cons d u =>
      have hblank : isBlank d = false := (isGap_eq_false_iff.1 hword).1
      simp [hblank]
  case isFalse =>
    split
    case isTrue hc =>
      rw [isWordMark, Bool.or_assoc, hc, Bool.or_true, Bool.true_and] at hword
      simp [hword]
    case isFalse =>
      simp only [indicators, List.mem_cons, not_or] at hlist
      simp [hgap, isFlowMark, hlist]

/-- A plain scalar is read where a character starts no other token. -/
theorem readToken_plain {s : Layout} {c : Char} {u : Text} (houter : s.outer = [])
    (hrest : s.cursor.rest = c :: u) (hgap : isGap c = false) (hlist : c ∉ indicators)
    (hword : (isWordMark c && endsWord u) = false) (hmarker : s.cursor.atMarker = false) :
    s.readToken = s.readPlain := by
  have hflow : s.inFlow = false := by rw [inFlow, houter]; rfl
  have hplain := startsPlain_of_not_mem hgap hlist hword
  simp only [isWordMark, Bool.and_or_distrib_right, Bool.or_eq_false_iff] at hword
  simp only [indicators, List.mem_cons, not_or] at hlist
  rw [readToken, hrest]
  simp [hmarker, hflow, hlist, hword, hplain]

/-! ## §E Keys -/

/-- Only dashes and points make the marker of a document. -/
theorem atMarker_of_ne {c : Char} (hdash : c ≠ '-') (hpoint : c ≠ '.') (t : Text) (m : Mark) :
    Cursor.atMarker ⟨c :: t, m⟩ = false := by
  have hstarts {d : Char} (hd : c ≠ d) : startsMarker d (c :: t) = false := by
    rw [startsMarker.eq_def]
    split
    · simp_all
    · rfl
  rw [Cursor.atMarker, hstarts hdash, hstarts hpoint, Bool.or_false, Bool.and_false]

theorem take_of_startsMarker {d : Char} {t : Text} (h : startsMarker d t = true) :
    t.take 3 = [d, d, d] := by
  rw [startsMarker.eq_def] at h
  split at h
  · simp only [Bool.and_eq_true, beq_iff_eq] at h
    simp [h]
  · cases h

/-- What is written plainly is no marker of a document, nor does it make one with a colon. -/
theorem atMarker_key {key : Text} (hkey : plainAllowed key = true) (after : Text) (m : Mark) :
    Cursor.atMarker ⟨key ++ ':' :: after, m⟩ = false := by
  have hstart : startsAsMark key = false := by
    simp only [plainAllowed, Bool.and_eq_true, Bool.not_eq_true'] at hkey
    exact hkey.1.2
  have hmarker {d : Char} (hd : d = '-' ∨ d = '.') :
      startsMarker d (key ++ ':' :: after) = false := by
    have hcolon : ':' ≠ d := by
      rcases hd with rfl | rfl <;> decide
    rw [← Bool.not_eq_true]
    intro h
    have htake := take_of_startsMarker h
    rcases key with _ | ⟨a, _ | ⟨b, _ | ⟨c, u⟩⟩⟩
    · simp [hcolon] at htake
    · simp [hcolon] at htake
    · simp [hcolon] at htake
    · obtain ⟨rfl, rfl, rfl⟩ : a = d ∧ b = d ∧ c = d := by simpa using htake
      rcases hd with rfl | rfl <;> simp [startsAsMark] at hstart
  rw [Cursor.atMarker, hmarker (.inl rfl), hmarker (.inr rfl), Bool.or_false, Bool.and_false]

theorem isKey_cases {key : Text} (h : isKey key = true) :
    ∃ c u, key = c :: u ∧ startsToken c = true ∧ plainAllowed (c :: u) = true := by
  simp only [isKey, Bool.and_eq_true] at h
  cases key with
  | nil => simp at h
  | cons c u =>
    obtain ⟨hprintable, hgap, hlist, -⟩ := start_of_plainAllowed h.1
    refine ⟨c, u, rfl, startsToken_iff.2 ⟨hgap, ?_, ?_⟩, h.1⟩
    · rintro rfl
      exact hlist (by decide)
    · rintro rfl
      exact absurd hprintable (by decide)

/-- The state after a key, before its colon. -/
def afterKey (key after : Text) (m : Mark) (tokens : List Token) (columns : List Nat)
    (required : Bool) : Layout :=
  ⟨⟨':' :: after, m.along key⟩, ⟨.scalar .plain key, m, m.along key⟩ :: tokens, columns,
    some ⟨tokens.length, m, required⟩, [], false⟩

/-- The text of a key is read as a scalar, and as a key that may turn out to be one. -/
theorem step_key {key after : Text} (hkey : isKey key = true)
    (hlength : Text.byteLength key ≤ keyBytesLimit) (hafter : endsWord after = true)
    {m : Mark} (tokens : List Token) {columns : List Nat}
    (hcolumns : ∀ c ∈ columns.head?, c ≤ m.column) :
    ∃ required, (between (key ++ ':' :: after) m tokens columns true).step =
      .ok (afterKey key after m tokens columns required) := by
  obtain ⟨c, u, rfl, hc, hplain⟩ := isKey_cases hkey
  obtain ⟨hgap, hcomment, hmark⟩ := startsToken_iff.1 hc
  obtain ⟨-, -, hlist, hword⟩ := start_of_plainAllowed hplain
  have hword' : (isWordMark c && endsWord (u ++ ':' :: after)) = false := by
    cases u with
    | nil => exact Bool.and_false _
    | cons => exact hword
  have hstop := nextToken_stop hgap hcomment hmark (u ++ ':' :: after) m true
  have hindent := indent_le (s := between (c :: u ++ ':' :: after) m tokens columns true) hcolumns
  have hread := (plain_word hplain (Int.add_le_add_right hindent 1) m (':' :: after)).trans
    (plain_colon hafter _ m (m.along (c :: u)) (c :: u).reverse)
  rw [List.reverse_reverse] at hread
  obtain ⟨required, hsave⟩ : ∃ required,
      (between (c :: u ++ ':' :: after) m tokens columns true).saveKey =
        .ok { between (c :: u ++ ':' :: after) m tokens columns true with
          pending := some ⟨tokens.length, m, required⟩ } := ⟨_, rfl⟩
  refine ⟨required, step_eq (skipGap_eq rfl hstop) (expireKeys_of_none rfl rfl) hcolumns ?_
    (expireKeys_of_fresh rfl rfl rfl ?_)⟩
  · exact (readToken_plain rfl rfl hgap hlist hword' (atMarker_key hplain after m)).trans
      (readPlain_eq hsave rfl hread)
  · exact Nat.add_le_add_left hlength m.index

/-- A token is put before the tokens that came later. -/
theorem insert_eq {s : Layout} (later : List Token) {tokens : List Token}
    (h : s.tokens = later ++ tokens) (kind : TokenKind) (place : Mark) :
    s.insert tokens.length kind place =
      { s with tokens := later ++ ⟨kind, place, place⟩ :: tokens } := by
  have hlater : (later ++ tokens).length - tokens.length = later.length := by simp
  rw [insert, h, hlater, List.take_left, List.drop_left]

/-- The token of a mapping that opens at a key is put before it. -/
theorem openBlock_eq {s : Layout} (later : List Token) {tokens : List Token} {place : Mark}
    {columns' : List Nat} {opening : List TokenKind} (h : s.tokens = later ++ tokens)
    (houter : s.outer = []) (hopens : Opens place.column s.columns opening columns') :
    s.openBlock tokens.length .blockMappingStart place =
      { s with
        tokens := later ++ (opening.map (⟨·, place, place⟩) ++ tokens)
        columns := columns' } := by
  obtain ⟨cursor, tokens', columns, pending, outer, keyAllowed⟩ := s
  subst h houter
  cases hopens with
  | stays => simp [openBlock, indent]
  | opens hcolumns =>
    have hindent : ¬ (place.column : Int) ≤
        indent ⟨cursor, later ++ tokens, columns, pending, [], keyAllowed⟩ := by
      cases columns with
      | nil => simp [indent]; omega
      | cons c columns =>
        have hc := hcolumns c rfl
        simp only [indent]
        omega
    rw [openBlock, decide_eq_false hindent]
    simp [insert_eq (s := ⟨cursor, later ++ tokens, columns, pending, [], keyAllowed⟩) later rfl,
      inFlow]

/-- **The colon after a key.** The token of the key is put before it, and the one of the mapping if
it opens here. -/
theorem step_colon {key after : Text} (hafter : endsWord after = true)
    (hlength : Text.byteLength key ≤ keyBytesLimit) {m : Mark} (tokens : List Token)
    {columns columns' : List Nat} {opening : List TokenKind}
    (hopens : Opens m.column columns opening columns') (required : Bool) :
    ∃ m' tokens', m.column < m'.column ∧
      kinds tokens' = .value :: .scalar .plain key :: .key :: (opening ++ kinds tokens) ∧
      (afterKey key after m tokens columns required).step =
        .ok (between after m' tokens' columns' false) := by
  have hstop :=
    nextToken_stop (c := ':') (by decide) (by decide) (by decide) after (m.along key) false
  have hread : (afterKey key after m tokens columns required).readToken =
      (afterKey key after m tokens columns required).readColon := by
    rw [readToken, afterKey, atMarker_of_ne (by decide) (by decide)]
    simp [inFlow, hafter]
  have hcolon : (afterKey key after m tokens columns required).readColon = .ok (between after
      ((m.along key).step ':' after)
      (⟨.value, m.along key, (m.along key).step ':' after⟩ ::
        ⟨.scalar .plain key, m, m.along key⟩ :: ⟨.key, m, m⟩ ::
        (opening.map (⟨·, m, m⟩) ++ tokens)) columns' false) := by
    have hinsert := insert_eq (s := afterKey key after m tokens columns required)
      [⟨.scalar .plain key, m, m.along key⟩] rfl .key m
    have hopen := openBlock_eq [⟨.scalar .plain key, m, m.along key⟩, ⟨.key, m, m⟩]
      (s := { afterKey key after m tokens columns required with
        tokens := ⟨.scalar .plain key, m, m.along key⟩ :: ⟨.key, m, m⟩ :: tokens })
      rfl rfl hopens
    simp only [afterKey, List.singleton_append] at hinsert hopen
    simp only [readColon, afterKey, hinsert, hopen]
    rfl
  refine ⟨(m.along key).step ':' after, _, ?_, ?_, step_eq (skipGap_eq rfl hstop)
    (expireKeys_of_fresh rfl rfl rfl (Nat.add_le_add_left hlength m.index))
    (fun c hc => Nat.le_add_right_of_le (hopens.le_column c hc)) (hread.trans hcolon)
    (expireKeys_of_none rfl rfl)⟩
  · rw [Mark.column_step (by decide), Mark.column_along]
    omega
  · simp [kinds, Function.comp_def]

/-- A layout whose last token is not the end of the text is not done. -/
theorem isDone_between {rest : Text} {m : Mark} {tokens : List Token} {columns : List Nat}
    {keyAllowed : Bool} {kind : TokenKind} {more : List TokenKind}
    (h : kinds tokens = kind :: more) (hkind : kind ≠ .streamEnd) :
    (between rest m tokens columns keyAllowed).isDone = false := by
  cases tokens with
  | nil => cases h
  | cons t tokens =>
    obtain rfl : t.kind = kind := (List.cons.inj h).1
    simp [isDone, between, hkind]

/-- **A key.** -/
theorem steps_key {key after : Text} (hkey : isKey key = true)
    (hlength : Text.byteLength key ≤ keyBytesLimit) (hafter : endsWord after = true)
    {m : Mark} (tokens : List Token) {columns columns' : List Nat} {opening : List TokenKind}
    (hopens : Opens m.column columns opening columns') :
    ∃ m' tokens', m.column < m'.column ∧
      kinds tokens' = .value :: .scalar .plain key :: .key :: (opening ++ kinds tokens) ∧
      Steps (between (key ++ ':' :: after) m tokens columns true)
        (between after m' tokens' columns' false) := by
  obtain ⟨c, u, hcons, -⟩ := isKey_cases hkey
  obtain ⟨required, hstep⟩ := step_key hkey hlength hafter tokens hopens.le_column
  obtain ⟨m', tokens', hm', htokens', hcolon⟩ := step_colon hafter hlength tokens hopens required
  refine ⟨m', tokens', hm', htokens', .head hstep rfl ?_ (.head hcolon
    (isDone_between htokens' nofun) (Nat.lt_succ_self _) (.refl rfl (Nat.le_refl _)))⟩
  simp only [between, afterKey, hcons, List.length_append, List.length_cons]
  omega

/-! ## §F Keys behind a question mark -/

/-- The mapping of a key that starts here opens here. -/
theorem openHere_eq {rest : Text} {m : Mark} (tokens : List Token) {columns columns' : List Nat}
    {opening : List TokenKind} (hopens : Opens m.column columns opening columns') (cause : Cause) :
    (between rest m tokens columns true).openHere .blockMappingStart cause =
      .ok (between rest m (opening.map (⟨·, m, m⟩) ++ tokens) columns' true) := by
  have hopen := openBlock_eq [] (s := between rest m tokens columns true) rfl rfl hopens
  unfold openHere
  exact congrArg Except.ok hopen

/-- A step over one character that is a token of its own. -/
theorem steps_mark {c : Char} (hc : startsToken c = true) {after : Text} {m : Mark}
    {tokens tokens' : List Token} {columns columns' : List Nat}
    (hcolumns : ∀ d ∈ columns.head?, d ≤ m.column)
    (hread : (between (c :: after) m tokens columns true).readToken =
      .ok (between after (m.step c after) tokens' columns' true))
    (hdone : (between after (m.step c after) tokens' columns' true).isDone = false) :
    Steps (between (c :: after) m tokens columns true)
      (between after (m.step c after) tokens' columns' true) := by
  obtain ⟨hgap, hcomment, hmark⟩ := startsToken_iff.1 hc
  have hstop := nextToken_stop hgap hcomment hmark after m true
  exact .head (step_eq (skipGap_eq rfl hstop) (expireKeys_of_none rfl rfl) hcolumns hread
    (expireKeys_of_none rfl rfl)) hdone (Nat.lt_succ_self _) (.refl rfl (Nat.le_refl _))

/-- **The question mark before a key.** It opens the mapping, if this is its first key. -/
theorem steps_question {after : Text} (hafter : endsWord after = true) {m : Mark}
    (tokens : List Token) {columns columns' : List Nat} {opening : List TokenKind}
    (hopens : Opens m.column columns opening columns') :
    ∃ m' tokens', m.column < m'.column ∧ kinds tokens' = .key :: (opening ++ kinds tokens) ∧
      Steps (between ('?' :: after) m tokens columns true)
        (between after m' tokens' columns' true) := by
  have hread : (between ('?' :: after) m tokens columns true).readToken =
      (between ('?' :: after) m tokens columns true).readQuestion := by
    rw [readToken, between, atMarker_of_ne (by decide) (by decide)]
    simp [inFlow, hafter]
  have hquestion : (between ('?' :: after) m tokens columns true).readQuestion =
      .ok (between after (m.step '?' after)
        (⟨.key, m, m.step '?' after⟩ :: (opening.map (⟨·, m, m⟩) ++ tokens)) columns' true) := by
    rw [readQuestion, openHere_eq tokens hopens]
    rfl
  have hkinds : kinds (⟨.key, m, m.step '?' after⟩ :: (opening.map (⟨·, m, m⟩) ++ tokens)) =
      .key :: (opening ++ kinds tokens) := by
    simp [kinds, Function.comp_def]
  refine ⟨m.step '?' after, _, ?_, hkinds, steps_mark (by decide) hopens.le_column
    (hread.trans hquestion) (isDone_between hkinds nofun)⟩
  rw [Mark.column_step (by decide)]
  exact Nat.lt_succ_self m.column

/-- **The colon before a value** whose key has a question mark. -/
theorem steps_colon {after : Text} (hafter : endsWord after = true) (m : Mark)
    (tokens : List Token) (around : List Nat) :
    ∃ m' tokens', m.column < m'.column ∧ kinds tokens' = .value :: kinds tokens ∧
      Steps (between (':' :: after) m tokens (m.column :: around) true)
        (between after m' tokens' (m.column :: around) true) := by
  have hread : (between (':' :: after) m tokens (m.column :: around) true).readToken =
      (between (':' :: after) m tokens (m.column :: around) true).readColon := by
    rw [readToken, between, atMarker_of_ne (by decide) (by decide)]
    simp [inFlow, hafter]
  have hcolon : (between (':' :: after) m tokens (m.column :: around) true).readColon =
      .ok (between after (m.step ':' after) (⟨.value, m, m.step ':' after⟩ :: tokens)
        (m.column :: around) true) := by
    have hopens : Opens m.column (m.column :: around) [] (m.column :: around) := .stays around
    change (between (':' :: after) m tokens (m.column :: around) true).openHere
      .blockMappingStart .valueNotAllowed >>= _ = _
    rw [openHere_eq tokens hopens]
    rfl
  refine ⟨m.step ':' after, ⟨.value, m, m.step ':' after⟩ :: tokens, ?_, rfl,
    steps_mark (by decide) (Opens.stays around).le_column (hread.trans hcolon) rfl⟩
  rw [Mark.column_step (by decide)]
  exact Nat.lt_succ_self m.column

/-! ## §G The end of a mapping -/

/-- The mapping is indented more than a column. -/
def isDeeper (column : Int) (c : Nat) : Bool := decide (column < (c : Int))

/-- The tokens of mappings that close at a place. -/
def blockEnds (columns : List Nat) (m : Mark) : List Token := columns.map fun _ => ⟨.blockEnd, m, m⟩

theorem closeBlocks_eq {s : Layout} (houter : s.outer = []) (column : Int) :
    s.closeBlocks column = { s with
      columns := s.columns.dropWhile (isDeeper column)
      tokens := blockEnds (s.columns.takeWhile (isDeeper column)) s.mark ++ s.tokens } := by
  have hflow : s.inFlow = false := by rw [inFlow, houter]; rfl
  rw [closeBlocks, hflow]
  rfl

theorem closeBlocks_all {s : Layout} (houter : s.outer = []) :
    s.closeBlocks (-1) =
      { s with columns := [], tokens := blockEnds s.columns s.mark ++ s.tokens } := by
  have hall : ∀ c ∈ s.columns, isDeeper (-1) c = true := fun c _ => by
    rw [isDeeper, decide_eq_true_eq]
    omega
  have htake : (s.columns ++ []).takeWhile (isDeeper (-1)) = _ := List.takeWhile_append_of_pos hall
  have hdrop : (s.columns ++ []).dropWhile (isDeeper (-1)) = _ := List.dropWhile_append_of_pos hall
  rw [List.append_nil, List.takeWhile_nil, List.append_nil] at htake
  rw [List.append_nil, List.dropWhile_nil] at hdrop
  rw [closeBlocks_eq houter, htake, hdrop]

theorem kinds_blockEnds (columns : List Nat) (m : Mark) :
    kinds (blockEnds columns m) = List.replicate columns.length .blockEnd := by
  simp [kinds, blockEnds, List.map_const']

theorem readToken_end (m : Mark) (tokens : List Token) (columns : List Nat) (keyAllowed : Bool) :
    (between [] m tokens columns keyAllowed).readToken =
      .ok (between [] (endOfText m) (⟨.streamEnd, endOfText m, endOfText m⟩ ::
        (blockEnds columns (endOfText m) ++ tokens)) [] false) := by
  have hclose := closeBlocks_all (s := between [] (endOfText m) tokens columns keyAllowed) rfl
  change readEnd _ = _
  rw [between] at hclose
  rw [readEnd, leaveBlocks, between, mark, hclose]
  rfl

/-- **The end of an inner mapping.** It closes at the next entry of the mapping around it, before
any token is read there. -/
theorem steps_close {column inner : Nat} (hinner : column < inner) {next : Text}
    (hnext : StartsEntry column next) {m : Mark} (hm : m.column = column) (tokens : List Token)
    (around : List Nat) :
    Steps (between next m tokens (inner :: column :: around) true)
      (between next m (⟨.blockEnd, m, m⟩ :: tokens) (column :: around) true) := by
  have hstart (tokens : List Token) (columns : List Nat) :
      (between next m tokens columns true).skipGap = between next m tokens columns true :=
    skipGap_eq rfl (nextToken_startsEntry hnext m true)
  have hclose : (between next m tokens (inner :: column :: around) true).closeBlocks m.column =
      between next m (⟨.blockEnd, m, m⟩ :: tokens) (column :: around) true := by
    have hdeeper : isDeeper m.column inner = true := by
      rw [isDeeper, decide_eq_true_eq]
      omega
    have hsame : isDeeper m.column column = false := by
      rw [isDeeper, decide_eq_false_iff_not]
      omega
    rw [closeBlocks_eq rfl]
    simp [between, blockEnds, mark, hdeeper, hsame]
  have hstay : (between next m (⟨.blockEnd, m, m⟩ :: tokens) (column :: around) true).closeBlocks
      m.column = between next m (⟨.blockEnd, m, m⟩ :: tokens) (column :: around) true :=
    closeBlocks_of_le (by simp [between, hm])
  refine .refl ?_ (Nat.le_refl _)
  rw [step, step, hstart, hstart, expireKeys_of_none rfl rfl, expireKeys_of_none rfl rfl]
  change ((between next m tokens (inner :: column :: around) true).closeBlocks
    m.column).readToken >>= expireKeys = ((between next m (⟨.blockEnd, m, m⟩ :: tokens)
      (column :: around) true).closeBlocks m.column).readToken >>= expireKeys
  rw [hclose, hstay]

/-- **The end of the text.** All open mappings close. -/
theorem step_end (m : Mark) (tokens : List Token) (columns : List Nat) (keyAllowed : Bool) :
    ∃ s, (between [] m tokens columns keyAllowed).step = .ok s ∧ s.isDone = true ∧
      kinds s.tokens =
        .streamEnd :: (List.replicate columns.length .blockEnd ++ kinds tokens) := by
  have hclose : (between [] m tokens columns keyAllowed).closeBlocks m.column =
      between [] m (blockEnds (columns.takeWhile (isDeeper m.column)) m ++ tokens)
        (columns.dropWhile (isDeeper m.column)) keyAllowed := closeBlocks_eq rfl _
  have hread := readToken_end m (blockEnds (columns.takeWhile (isDeeper m.column)) m ++ tokens)
    (columns.dropWhile (isDeeper m.column)) keyAllowed
  refine ⟨between [] (endOfText m) (⟨.streamEnd, endOfText m, endOfText m⟩ ::
    (blockEnds (columns.dropWhile (isDeeper m.column)) (endOfText m) ++
      (blockEnds (columns.takeWhile (isDeeper m.column)) m ++ tokens))) [] false, ?_, rfl, ?_⟩
  · change (do
      let s ← ((between [] m tokens columns keyAllowed).closeBlocks m.column).readToken
      s.expireKeys) = _
    rw [hclose, hread]
    rfl
  · have hlength : (columns.dropWhile (isDeeper m.column)).length +
        (columns.takeWhile (isDeeper m.column)).length = columns.length := by
      rw [Nat.add_comm, ← List.length_append, List.takeWhile_append_dropWhile]
    rw [between, kinds_cons, kinds_append, kinds_append, kinds_blockEnds, kinds_blockEnds,
      ← List.append_assoc, List.replicate_append_replicate, hlength]

end Layout

end RtlLiterals.Yaml
