import RtlLiterals.Proofs.Json.Grammar
import RtlLiterals.Proofs.Number.Layout

/-!
# RtlLiterals.Proofs.Json.Unambiguous -- a JSON text denotes one value

A text may be written for at most one value. The first character of a value says of which kind it
is, and from there each piece ends at the first character that cannot belong to it: a string at its
quote, a number where no character of a number follows, blanks where something else does. So two
derivations that start at one place take the same pieces and end at the same place
(`Written.determines`).
-/

namespace RtlLiterals

namespace Json

open Binary64 (isNumberChar isNumberChar_of_isDigit)

/-! ## §A Blanks -/

/-- The text does not start with a blank. -/
def StartsDark (t : Text) : Prop := ∀ c ∈ t.head?, isBlank c = false

theorem dropWhile_blanks {w t : Text} (hw : Blanks w) (ht : StartsDark t) :
    (w ++ t).dropWhile isBlank = t := by
  rw [List.dropWhile_append_of_pos hw]
  cases t with
  | nil => rfl
  | cons c t =>
    have hc := ht c rfl
    rw [List.dropWhile_cons_of_neg (by simp [hc])]

/-- Blanks are taken up to the first character that is none. -/
theorem blanks_append_inj {w w' t t' : Text} (hw : Blanks w) (hw' : Blanks w') (ht : StartsDark t)
    (ht' : StartsDark t') (h : w ++ t = w' ++ t') : t = t' := by
  rw [← dropWhile_blanks hw ht, h, dropWhile_blanks hw' ht']

/-! ## §B Numbers -/

theorem Number.isNumberChar_of_mem {t : Text} (h : Number t) {c : Char} (hc : c ∈ t) :
    isNumberChar c = true := by
  obtain ⟨hsign, ⟨⟨-, hwhole⟩, -⟩, hfraction, hexponent⟩ := h
  simp only [List.mem_append] at hc
  rcases hc with hc | hc | hc | hc
  · simp only [List.mem_cons, List.not_mem_nil, or_false] at hsign
    rcases hsign with rfl | rfl
    · cases hc
    · obtain rfl := List.mem_singleton.1 hc
      rfl
  · exact isNumberChar_of_isDigit (hwhole c hc)
  · cases hfraction with
    | none => cases hc
    | point hds =>
      rcases List.mem_cons.1 hc with rfl | hc
      · rfl
      · exact isNumberChar_of_isDigit (hds.2 c hc)
  · cases hexponent with
    | none => cases hc
    | mark he hsign hds =>
      simp only [List.mem_cons, List.not_mem_nil, or_false] at he hsign
      simp only [List.mem_cons, List.mem_append] at hc
      rcases hc with rfl | hc | hc
      · rcases he with rfl | rfl
        all_goals rfl
      · rcases hsign with rfl | rfl | rfl
        · cases hc
        all_goals
          obtain rfl := List.mem_singleton.1 hc
          rfl
      · exact isNumberChar_of_isDigit (hds.2 c hc)

/-- A number starts with a digit or a minus sign. -/
theorem Number.exists_first {t : Text} (h : Number t) :
    ∃ c u, t = c :: u ∧ (c.isDigit || c == '-') = true := by
  obtain ⟨hsign, ⟨⟨hne, hwhole⟩, -⟩, -, -⟩ := h
  simp only [List.mem_cons, List.not_mem_nil, or_false] at hsign
  rcases hsign with rfl | rfl
  · obtain ⟨c, u, rfl⟩ := List.exists_cons_of_ne_nil hne
    have hc := hwhole c (List.mem_cons_self ..)
    exact ⟨c, _, rfl, by simp [hc]⟩
  · exact ⟨'-', _, rfl, by simp⟩

/-- A number is taken up to the first character that belongs to none. -/
theorem number_append_inj {t t' r r' : Text} (ht : Number t) (ht' : Number t')
    (hr : ∀ c ∈ r.head?, isNumberChar c = false) (hr' : ∀ c ∈ r'.head?, isNumberChar c = false)
    (h : t ++ r = t' ++ r') : t = t' ∧ r = r' := by
  have htake {t r : Text} (ht : Number t) (hr : ∀ c ∈ r.head?, isNumberChar c = false) :
      (t ++ r).takeWhile isNumberChar = t := by
    rw [List.takeWhile_append_of_pos fun _ => ht.isNumberChar_of_mem]
    cases r with
    | nil => simp
    | cons c r => rw [List.takeWhile_cons_of_neg (by simp [hr c rfl]), List.append_nil]
  have heq : t = t' := by rw [← htake ht hr, h, htake ht' hr']
  subst heq
  exact ⟨rfl, List.append_cancel_left h⟩

/-! ## §C Strings -/

/-- A letter of a string does not start with the quote that ends it. -/
theorem Letter.exists_first {l : Text} {c : Char} (h : Letter l c) :
    ∃ d u, l = d :: u ∧ d ≠ '\x22' := by
  cases h with
  | plain _ hquote _ => exact ⟨c, [], rfl, hquote⟩
  | escape | code | pair => exact ⟨'\\', _, rfl, by decide⟩

theorem escapes_unique {e c c' : Char} (h : (e, c) ∈ escapes) (h' : (e, c') ∈ escapes) :
    c = c' := by
  have hall : ∀ p ∈ escapes, ∀ p' ∈ escapes, p.1 = p'.1 → p.2 = p'.2 := by decide
  exact hall _ h _ h' rfl

/-- No escape of one letter looks like a code. -/
theorem not_mem_escapes_u (c : Char) : ('u', c) ∉ escapes := by
  have hall : ∀ p ∈ escapes, p.1 ≠ 'u' := by decide
  exact fun h => hall _ h rfl

/-- The code of a character is no half of a surrogate pair. -/
theorem not_isValidChar_of_surrogate {n : Nat} (h : 0xD800 ≤ n) (h' : n < 0xDC00) :
    ¬ n.isValidChar := by
  intro hvalid
  rcases hvalid with hlt | ⟨hlt, -⟩
  all_goals omega

/-- **One letter.** It denotes one character, and it is seen where it ends. -/
theorem Letter.unique {l l' r r' : Text} {c c' : Char} (h : Letter l c) (h' : Letter l' c')
    (htext : l ++ r = l' ++ r') : c = c' ∧ r = r' := by
  -- A backslash tells the escapes from the rest, the letter behind it a code from other escapes,
  -- and the value of a code whether it is the first half of a pair.
  cases h with
  | plain _ _ hslash =>
    cases h' with
    | plain => simpa using htext
    | escape | code | pair => exact absurd (List.cons.inj htext).1 hslash
  | escape he =>
    cases h' with
    | plain _ _ hslash => exact absurd (List.cons.inj htext).1.symm hslash
    | escape he' =>
      simp only [List.cons_append, List.nil_append, List.cons.injEq, true_and] at htext
      obtain ⟨rfl, rfl⟩ := htext
      exact ⟨escapes_unique he he', rfl⟩
    | code | pair =>
      simp only [List.cons_append, List.cons.injEq, true_and] at htext
      rw [htext.1] at he
      exact absurd he (not_mem_escapes_u _)
  | code hn hvalid =>
    cases h' with
    | plain _ _ hslash => exact absurd (List.cons.inj htext).1.symm hslash
    | escape he' =>
      simp only [List.cons_append, List.cons.injEq, true_and] at htext
      rw [← htext.1] at he'
      exact absurd he' (not_mem_escapes_u _)
    | code hn' =>
      simp only [List.cons_append, List.nil_append, List.cons.injEq, true_and] at htext
      obtain ⟨rfl, rfl, rfl, rfl, rfl⟩ := htext
      rw [hn, Option.some.injEq] at hn'
      exact ⟨by rw [hn'], rfl⟩
    | pair hhigh _ hle hlt =>
      simp only [List.cons_append, List.nil_append, List.cons.injEq, true_and] at htext
      obtain ⟨rfl, rfl, rfl, rfl, -⟩ := htext
      rw [hn, Option.some.injEq] at hhigh
      rw [hhigh] at hvalid
      exact absurd hvalid (not_isValidChar_of_surrogate hle hlt)
  | pair hhigh hlow hle hlt =>
    cases h' with
    | plain _ _ hslash => exact absurd (List.cons.inj htext).1.symm hslash
    | escape he' =>
      simp only [List.cons_append, List.cons.injEq, true_and] at htext
      rw [← htext.1] at he'
      exact absurd he' (not_mem_escapes_u _)
    | code hn' hvalid =>
      simp only [List.cons_append, List.nil_append, List.cons.injEq, true_and] at htext
      obtain ⟨rfl, rfl, rfl, rfl, -⟩ := htext
      rw [hhigh, Option.some.injEq] at hn'
      rw [← hn'] at hvalid
      exact absurd hvalid (not_isValidChar_of_surrogate hle hlt)
    | pair hhigh' hlow' =>
      simp only [List.cons_append, List.nil_append, List.cons.injEq, true_and] at htext
      obtain ⟨rfl, rfl, rfl, rfl, rfl, rfl, rfl, rfl, rfl⟩ := htext
      rw [hhigh, Option.some.injEq] at hhigh'
      rw [hlow, Option.some.injEq] at hlow'
      exact ⟨by rw [hhigh', hlow'], rfl⟩

/-- **One string.** It denotes one text, and it ends at its quote. -/
theorem Letters.unique {t t' s s' r r' : Text} (h : Letters t s) (h' : Letters t' s')
    (htext : t ++ '\x22' :: r = t' ++ '\x22' :: r') : s = s' ∧ r = r' := by
  induction h generalizing t' s' with
  | nil =>
    cases h' with
    | nil => exact ⟨rfl, (List.cons.inj htext).2⟩
    | cons hl =>
      obtain ⟨d, u, rfl, hd⟩ := hl.exists_first
      exact absurd (List.cons.inj htext).1.symm hd
  | cons hl _ ih =>
    cases h' with
    | nil =>
      obtain ⟨d, u, rfl, hd⟩ := hl.exists_first
      exact absurd (List.cons.inj htext).1 hd
    | cons hl' ht' =>
      rw [List.append_assoc, List.append_assoc] at htext
      obtain ⟨rfl, hrest⟩ := hl.unique hl' htext
      obtain ⟨rfl, rfl⟩ := ih ht' hrest
      exact ⟨rfl, rfl⟩

/-! ## §D First characters -/

/-- The kinds of values. -/
inductive Kind where
  | null
  | boolean (b : Bool)
  | number
  | string
  | array
  | object
deriving DecidableEq

/-- The kind of a value. -/
def Value.kind : Value → Kind
  | .null => .null
  | .boolean b => .boolean b
  | .number _ => .number
  | .string _ => .string
  | .array _ => .array
  | .object _ => .object

/-- The kind of the values that start with a character. -/
def Kind.ofFirst? (c : Char) : Option Kind :=
  if c.isDigit || c == '-' then some .number
  else if c = 'n' then some .null
  else if c = 't' then some (.boolean true)
  else if c = 'f' then some (.boolean false)
  else if c = '\x22' then some .string
  else if c = '[' then some .array
  else if c = '\x7b' then some .object
  else none

/-- The first character of a value says of which kind it is. -/
theorem Written.exists_first {v : Value} {t : Text} (h : Written (.value v) t) :
    ∃ c u, t = c :: u ∧ Kind.ofFirst? c = some v.kind := by
  cases h with
  | number hn =>
    obtain ⟨c, u, rfl, hc⟩ := hn.exists_first
    exact ⟨c, u, rfl, if_pos hc⟩
  | nullWord | trueWord | falseWord | string | noElements | array | noMembers | object =>
    exact ⟨_, _, rfl, rfl⟩

/-- A mark that ends an element or a member. -/
def isStop (c : Char) : Bool := c == ',' || c == ']' || c == '\x7d'

/-- No value starts with a blank or with a mark that ends one. -/
theorem not_isBlank_of_ofFirst? {c : Char} {k : Kind} (h : Kind.ofFirst? c = some k) :
    isBlank c = false ∧ isStop c = false := by
  have hnone (d : Char) (hd : Kind.ofFirst? d = none) : c ≠ d := by
    rintro rfl
    rw [hd] at h
    cases h
  have hblank := hnone ' ' (by decide)
  have htab := hnone '\t' (by decide)
  have hfeed := hnone '\n' (by decide)
  have hreturn := hnone '\r' (by decide)
  have hcomma := hnone ',' (by decide)
  have hbracket := hnone ']' (by decide)
  have hbrace := hnone '\x7d' (by decide)
  simp [isBlank, isStop, hblank, htab, hfeed, hreturn, hcomma, hbracket, hbrace]

/-- A character may start an element or a member: it starts a value. -/
def Opens (c : Char) : Prop := ∃ k, Kind.ofFirst? c = some k

theorem startsDark_of_opens {c : Char} (h : Opens c) (t : Text) : StartsDark (c :: t) := by
  rintro d hd
  obtain rfl : c = d := by simpa using hd
  obtain ⟨k, hk⟩ := h
  exact (not_isBlank_of_ofFirst? hk).1

/-- Every part starts a value, behind blanks. -/
theorem Written.exists_opens {p : Part} {t : Text} (h : Written p t) :
    ∃ w c u, t = w ++ c :: u ∧ Blanks w ∧ Opens c := by
  induction h with
  | element hw ht _ =>
    obtain ⟨c, u, rfl, hc⟩ := ht.exists_first
    exact ⟨_, c, _, rfl, hw, _, hc⟩
  | member hw => exact ⟨_, '\x22', _, rfl, hw, .string, by decide⟩
  | lastElement _ ih => exact ih
  | lastMember _ ih => exact ih
  | nextElement _ _ ih =>
    obtain ⟨w, c, u, rfl, hw, hc⟩ := ih
    exact ⟨w, c, _, by rw [List.append_assoc, List.cons_append], hw, hc⟩
  | nextMember _ _ ih =>
    obtain ⟨w, c, u, rfl, hw, hc⟩ := ih
    exact ⟨w, c, _, by rw [List.append_assoc, List.cons_append], hw, hc⟩
  | number hn =>
    obtain ⟨c, u, rfl, hc⟩ := hn.exists_first
    exact ⟨[], c, u, rfl, by simp [Blanks], .number, if_pos hc⟩
  | nullWord | trueWord | falseWord | string | noElements | array | noMembers | object =>
    exact ⟨[], _, _, rfl, by simp [Blanks], _, rfl⟩

theorem isBlank_of_isStop {c : Char} (h : isStop c = true) : isBlank c = false := by
  simp only [isStop, Bool.or_eq_true, beq_iff_eq] at h
  rcases h with (rfl | rfl) | rfl
  all_goals rfl

theorem startsDark_of_isStop {c : Char} (h : isStop c = true) (t : Text) : StartsDark (c :: t) := by
  rintro d hd
  obtain rfl : c = d := by simpa using hd
  exact isBlank_of_isStop h

/-- Up to a closing bracket there are either blanks or parts, not both. -/
theorem Written.ne_blanks {p : Part} {t w r r' : Text} {stop : Char} (h : Written p t)
    (hw : Blanks w) (hstop : isStop stop = true) : t ++ r ≠ w ++ stop :: r' := by
  intro htext
  obtain ⟨w', c, u, rfl, hw', hc⟩ := h.exists_opens
  rw [List.append_assoc, List.cons_append] at htext
  have hrest := blanks_append_inj hw' hw (startsDark_of_opens hc _)
    (startsDark_of_isStop hstop r') htext
  obtain ⟨k, hk⟩ := hc
  rw [(List.cons.inj hrest).1] at hk
  rw [(not_isBlank_of_ofFirst? hk).2] at hstop
  cases hstop

/-! ## §E Where a part ends -/

/-- The text starts, if at all, with a mark that ends an element or a member. -/
def Stops (r : Text) : Prop := ∀ c ∈ r.head?, isStop c = true

/-- The text starts, if at all, with a bracket that closes an array or an object. -/
def Closes (r : Text) : Prop := ∀ c ∈ r.head?, c = ']' ∨ c = '\x7d'

theorem stops_nil : Stops [] := by simp [Stops]

theorem stops_comma (r : Text) : Stops (',' :: r) := by simp [Stops, isStop]

theorem not_closes_comma (r : Text) : ¬ Closes (',' :: r) := fun h => absurd (h ',' rfl) (by decide)

theorem closes_bracket (r : Text) : Closes (']' :: r) := by simp [Closes]

theorem closes_brace (r : Text) : Closes ('\x7d' :: r) := by simp [Closes]

theorem Closes.stops {r : Text} (h : Closes r) : Stops r := by
  intro c hc
  rcases h c hc with rfl | rfl
  all_goals rfl

theorem Stops.startsDark {r : Text} (h : Stops r) : StartsDark r :=
  fun c hc => isBlank_of_isStop (h c hc)

/-- Blanks are taken up to a closing bracket. -/
theorem blanks_closing_inj {w w' r r' : Text} {stop : Char} (hw : Blanks w) (hw' : Blanks w')
    (hstop : isStop stop = true) (h : w ++ stop :: r = w' ++ stop :: r') : r = r' := by
  have hclosing := blanks_append_inj hw hw' (startsDark_of_isStop hstop r)
    (startsDark_of_isStop hstop r') h
  exact (List.cons.inj hclosing).2

/-- **`p.EndsAt r`** -- the text `r` may follow the part `p` and nothing of `r` belongs to it. -/
def Part.EndsAt (r : Text) : Part → Prop
  | .value _ => ∀ c ∈ r.head?, isBlank c = true ∨ isStop c = true
  | .element _ | .member _ _ => Stops r
  | .elements _ | .members _ => Closes r

/-- Blanks behind a value, and then something that ends an element, end the value. -/
theorem endsAt_value {w r : Text} {v : Value} (hw : Blanks w) (hr : Stops r) :
    (Part.value v).EndsAt (w ++ r) := by
  cases w with
  | nil => exact fun c hc => .inr (hr c hc)
  | cons d w =>
    intro c hc
    obtain rfl : d = c := by simpa using hc
    exact .inl (hw d (List.mem_cons_self ..))

theorem isNumberChar_of_endsAt {r : Text} {v : Value} (h : (Part.value v).EndsAt r) :
    ∀ c ∈ r.head?, isNumberChar c = false := by
  intro c hc
  have hends := h c hc
  simp only [isBlank, isStop, Bool.or_eq_true, beq_iff_eq] at hends
  rcases hends with (((rfl | rfl) | rfl) | rfl) | ((rfl | rfl) | rfl)
  all_goals rfl

/-! ## §F What a text determines -/

/-- Two parts of one sort. -/
inductive Part.Alike : Part → Part → Prop
  | value (v v' : Value) : Alike (.value v) (.value v')
  | element (v v' : Value) : Alike (.element v) (.element v')
  | elements (vs vs' : List Value) : Alike (.elements vs) (.elements vs')
  | member (name name' : Text) (v v' : Value) : Alike (.member name v) (.member name' v')
  | members (ms ms' : List (Text × Value)) : Alike (.members ms) (.members ms')

/-- **`Determines t p`** -- wherever the text `t` stands with an end of the part `p` behind it, a
part of the sort of `p` that is written there, up to an end of its own, is `p` and ends where `t`
does. -/
def Determines (t : Text) (p : Part) : Prop :=
  ∀ {p' : Part} {t' r r' : Text}, Written p' t' → p.Alike p' → p.EndsAt r → p'.EndsAt r' →
    t ++ r = t' ++ r' → p = p' ∧ r = r'

variable {t u w w' n name : Text} {v : Value} {vs : List Value} {ms : List (Text × Value)}

/-! ### Values -/

/-- Two values that are written at one place start with one character, so they are of one kind. It
is enough to compare `t` with values of its own kind. -/
theorem determines_value (h : Written (.value v) t)
    (hsame : ∀ {v' : Value} {t' r r' : Text}, Written (.value v') t' → v'.kind = v.kind →
      (Part.value v).EndsAt r → (Part.value v').EndsAt r' → t ++ r = t' ++ r' →
      v = v' ∧ r = r') : Determines t (.value v) := by
  intro p' t' r r' h' halike hr hr' htext
  cases halike with
  | value _ v' =>
    have hkind : v'.kind = v.kind := by
      obtain ⟨c, u, rfl, hc⟩ := h.exists_first
      obtain ⟨c', u', rfl, hc'⟩ := h'.exists_first
      obtain rfl : c = c' := (List.cons.inj htext).1
      rw [hc, Option.some.injEq] at hc'
      exact hc'.symm
    obtain ⟨rfl, rfl⟩ := hsame h' hkind hr hr' htext
    exact ⟨rfl, rfl⟩

theorem determines_null : Determines ['n', 'u', 'l', 'l'] (.value .null) := by
  refine determines_value .nullWord ?_
  intro v' t' r r' h' hkind _ _ htext
  cases h' with
  | nullWord => exact ⟨rfl, List.append_cancel_left htext⟩
  | trueWord | falseWord | number | string | noElements | array | noMembers | object => cases hkind

theorem determines_true : Determines ['t', 'r', 'u', 'e'] (.value (.boolean true)) := by
  refine determines_value .trueWord ?_
  intro v' t' r r' h' hkind _ _ htext
  cases h' with
  | trueWord => exact ⟨rfl, List.append_cancel_left htext⟩
  | nullWord | falseWord | number | string | noElements | array | noMembers | object => cases hkind

theorem determines_false : Determines ['f', 'a', 'l', 's', 'e'] (.value (.boolean false)) := by
  refine determines_value .falseWord ?_
  intro v' t' r r' h' hkind _ _ htext
  cases h' with
  | falseWord => exact ⟨rfl, List.append_cancel_left htext⟩
  | nullWord | trueWord | number | string | noElements | array | noMembers | object => cases hkind

theorem determines_number (ht : Number t) : Determines t (.value (.number (numberValue t))) := by
  refine determines_value (.number ht) ?_
  intro v' t' r r' h' hkind hr hr' htext
  cases h' with
  | number ht' =>
    obtain ⟨rfl, rfl⟩ := number_append_inj ht ht' (isNumberChar_of_endsAt hr)
      (isNumberChar_of_endsAt hr') htext
    exact ⟨rfl, rfl⟩
  | nullWord | trueWord | falseWord | string | noElements | array | noMembers | object =>
    cases hkind

theorem determines_string {s : Text} (ht : Letters t s) :
    Determines ('\x22' :: (t ++ ['\x22'])) (.value (.string s)) := by
  refine determines_value (.string ht) ?_
  intro v' t' r r' h' hkind _ _ htext
  cases h' with
  | string ht' =>
    obtain ⟨rfl, rfl⟩ := ht.unique ht' (by simpa using htext)
    exact ⟨rfl, rfl⟩
  | nullWord | trueWord | falseWord | number | noElements | array | noMembers | object =>
    cases hkind

/-! ### Arrays and objects -/

theorem determines_noElements (hw : Blanks w) :
    Determines ('[' :: (w ++ [']'])) (.value (.array [])) := by
  refine determines_value (.noElements hw) ?_
  intro v' t' r r' h' hkind _ _ htext
  cases h' with
  | noElements hw' =>
    simp only [List.cons_append, List.append_assoc, List.cons.injEq, true_and] at htext
    exact ⟨rfl, blanks_closing_inj hw hw' rfl htext⟩
  | array ht' =>
    simp only [List.cons_append, List.append_assoc, List.cons.injEq, true_and] at htext
    exact absurd htext.symm (ht'.ne_blanks hw rfl)
  | nullWord | trueWord | falseWord | number | string | noMembers | object => cases hkind

theorem determines_array (ht : Written (.elements vs) t) (ih : Determines t (.elements vs)) :
    Determines ('[' :: (t ++ [']'])) (.value (.array vs)) := by
  refine determines_value (.array ht) ?_
  intro v' t' r r' h' hkind _ _ htext
  cases h' with
  | noElements hw' =>
    -- An array with elements is not written like one without: a value starts before the bracket.
    simp only [List.cons_append, List.append_assoc, List.cons.injEq, true_and] at htext
    exact absurd htext (ht.ne_blanks hw' rfl)
  | array ht' =>
    simp only [List.cons_append, List.append_assoc, List.cons.injEq, true_and] at htext
    obtain ⟨heq, hrest⟩ := ih ht' (.elements ..) (closes_bracket r) (closes_bracket r') htext
    cases heq
    exact ⟨rfl, (List.cons.inj hrest).2⟩
  | nullWord | trueWord | falseWord | number | string | noMembers | object => cases hkind

theorem determines_noMembers (hw : Blanks w) :
    Determines ('\x7b' :: (w ++ ['\x7d'])) (.value (.object [])) := by
  refine determines_value (.noMembers hw) ?_
  intro v' t' r r' h' hkind _ _ htext
  cases h' with
  | noMembers hw' =>
    simp only [List.cons_append, List.append_assoc, List.cons.injEq, true_and] at htext
    exact ⟨rfl, blanks_closing_inj hw hw' rfl htext⟩
  | object ht' =>
    simp only [List.cons_append, List.append_assoc, List.cons.injEq, true_and] at htext
    exact absurd htext.symm (ht'.ne_blanks hw rfl)
  | nullWord | trueWord | falseWord | number | string | noElements | array => cases hkind

theorem determines_object (ht : Written (.members ms) t) (ih : Determines t (.members ms)) :
    Determines ('\x7b' :: (t ++ ['\x7d'])) (.value (.object ms)) := by
  refine determines_value (.object ht) ?_
  intro v' t' r r' h' hkind _ _ htext
  cases h' with
  | noMembers hw' =>
    simp only [List.cons_append, List.append_assoc, List.cons.injEq, true_and] at htext
    exact absurd htext (ht.ne_blanks hw' rfl)
  | object ht' =>
    simp only [List.cons_append, List.append_assoc, List.cons.injEq, true_and] at htext
    obtain ⟨heq, hrest⟩ := ih ht' (.members ..) (closes_brace r) (closes_brace r') htext
    cases heq
    exact ⟨rfl, (List.cons.inj hrest).2⟩
  | nullWord | trueWord | falseWord | number | string | noElements | array => cases hkind

/-! ### Elements and members -/

theorem determines_element (hw : Blanks w) (ht : Written (.value v) t) (hw' : Blanks w')
    (ih : Determines t (.value v)) : Determines (w ++ (t ++ w')) (.element v) := by
  intro p' t' r r' h' halike hr hr' htext
  cases halike
  cases h' with
  | element hw₁ ht₁ hw₁' =>
    have hdark {v : Value} {t : Text} (h : Written (.value v) t) (r : Text) :
        StartsDark (t ++ r) := by
      obtain ⟨c, u, rfl, hc⟩ := h.exists_first
      exact startsDark_of_opens ⟨_, hc⟩ _
    simp only [List.append_assoc] at htext
    have hvalue := blanks_append_inj hw hw₁ (hdark ht _) (hdark ht₁ _) htext
    obtain ⟨heq, hrest⟩ := ih ht₁ (.value ..) (endsAt_value hw' hr) (endsAt_value hw₁' hr') hvalue
    cases heq
    exact ⟨rfl, blanks_append_inj hw' hw₁' hr.startsDark hr'.startsDark hrest⟩

theorem determines_member (hw : Blanks w) (hn : Letters n name) (hw' : Blanks w')
    (ih : Determines t (.element v)) :
    Determines (w ++ ('\x22' :: (n ++ '\x22' :: (w' ++ ':' :: t)))) (.member name v) := by
  intro p' t' r r' h' halike hr hr' htext
  cases halike
  cases h' with
  | member hw₁ hn₁ hw₁' ht₁ =>
    simp only [List.append_assoc, List.cons_append] at htext
    have hquote (t : Text) : StartsDark ('\x22' :: t) := by simp [StartsDark, isBlank]
    have hcolon (t : Text) : StartsDark (':' :: t) := by simp [StartsDark, isBlank]
    have hname := blanks_append_inj hw hw₁ (hquote _) (hquote _) htext
    obtain ⟨rfl, hrest⟩ := hn.unique hn₁ (List.cons.inj hname).2
    have hvalue := blanks_append_inj hw' hw₁' (hcolon _) (hcolon _) hrest
    obtain ⟨heq, rfl⟩ := ih ht₁ (.element ..) hr hr' (List.cons.inj hvalue).2
    cases heq
    exact ⟨rfl, rfl⟩

/-! ### Lists of them -/

theorem determines_lastElement (ih : Determines t (.element v)) :
    Determines t (.elements [v]) := by
  intro p' t' r r' h' halike hr hr' htext
  cases halike
  cases h' with
  | lastElement ht' =>
    obtain ⟨heq, rfl⟩ := ih ht' (.element ..) hr.stops hr'.stops htext
    cases heq
    exact ⟨rfl, rfl⟩
  | nextElement ht' =>
    rw [List.append_assoc] at htext
    -- The other list goes on behind the element, but this one ends there at a closing bracket.
    obtain ⟨-, rfl⟩ := ih ht' (.element ..) hr.stops (stops_comma _) htext
    exact absurd hr (not_closes_comma _)

theorem determines_nextElement (ih : Determines t (.element v))
    (ih' : Determines u (.elements vs)) :
    Determines (t ++ ',' :: u) (.elements (v :: vs)) := by
  intro p' t' r r' h' halike hr hr' htext
  cases halike
  rw [List.append_assoc] at htext
  cases h' with
  | lastElement ht' =>
    obtain ⟨-, rfl⟩ := ih ht' (.element ..) (stops_comma _) hr'.stops htext
    exact absurd hr' (not_closes_comma _)
  | nextElement ht' hu' =>
    rw [List.append_assoc] at htext
    obtain ⟨heq, hrest⟩ := ih ht' (.element ..) (stops_comma _) (stops_comma _) htext
    cases heq
    obtain ⟨heq, rfl⟩ := ih' hu' (.elements ..) hr hr' (List.cons.inj hrest).2
    cases heq
    exact ⟨rfl, rfl⟩

theorem determines_lastMember (ih : Determines t (.member name v)) :
    Determines t (.members [(name, v)]) := by
  intro p' t' r r' h' halike hr hr' htext
  cases halike
  cases h' with
  | lastMember ht' =>
    obtain ⟨heq, rfl⟩ := ih ht' (.member ..) hr.stops hr'.stops htext
    cases heq
    exact ⟨rfl, rfl⟩
  | nextMember ht' =>
    rw [List.append_assoc] at htext
    -- As for elements: a comma would stand where a bracket does.
    obtain ⟨-, rfl⟩ := ih ht' (.member ..) hr.stops (stops_comma _) htext
    exact absurd hr (not_closes_comma _)

theorem determines_nextMember (ih : Determines t (.member name v))
    (ih' : Determines u (.members ms)) :
    Determines (t ++ ',' :: u) (.members ((name, v) :: ms)) := by
  intro p' t' r r' h' halike hr hr' htext
  cases halike
  rw [List.append_assoc] at htext
  cases h' with
  | lastMember ht' =>
    obtain ⟨-, rfl⟩ := ih ht' (.member ..) (stops_comma _) hr'.stops htext
    exact absurd hr' (not_closes_comma _)
  | nextMember ht' hu' =>
    rw [List.append_assoc] at htext
    obtain ⟨heq, hrest⟩ := ih ht' (.member ..) (stops_comma _) (stops_comma _) htext
    cases heq
    obtain ⟨heq, rfl⟩ := ih' hu' (.members ..) hr hr' (List.cons.inj hrest).2
    cases heq
    exact ⟨rfl, rfl⟩

/-! ## §G One derivation -/

/-- **One text, one part.** What is written for a part determines it. By induction on how it is
written: each rule of the grammar takes what its pieces determine to what the whole does. -/
theorem Written.determines {p : Part} (h : Written p t) : Determines t p := by
  induction h with
  | nullWord => exact determines_null
  | trueWord => exact determines_true
  | falseWord => exact determines_false
  | number ht => exact determines_number ht
  | string ht => exact determines_string ht
  | noElements hw => exact determines_noElements hw
  | array ht ih => exact determines_array ht ih
  | noMembers hw => exact determines_noMembers hw
  | object ht ih => exact determines_object ht ih
  | element hw ht hw' ih => exact determines_element hw ht hw' ih
  | lastElement _ ih => exact determines_lastElement ih
  | nextElement _ _ ih ih' => exact determines_nextElement ih ih'
  | member hw hn hw' _ ih => exact determines_member hw hn hw' ih
  | lastMember _ ih => exact determines_lastMember ih
  | nextMember _ _ ih ih' => exact determines_nextMember ih ih'

/-- **A JSON text denotes one value.** -/
theorem Denotes.unique {v' : Value} (h : Denotes t v) (h' : Denotes t v') : v = v' := by
  obtain ⟨heq, -⟩ := h.determines h' (.element ..) stops_nil stops_nil rfl
  exact Part.element.inj heq

end Json

end RtlLiterals
