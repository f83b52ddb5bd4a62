import RtlLiterals.Proofs.Literal.Placement

/-!
# RtlLiterals.Proofs.Literal.Delimiters -- the text between a delimiter and its last occurrence

A quoted text may have marks before its first delimiter, as in `br"…"`, and marks behind its last
one, as in `r#"…"#`. Its body may hold delimiters of all three kinds, the one it stands between
included. The body is still determined by the whole text: the first delimiter of any kind opens it,
and the last occurrence of that delimiter closes it.

## §A Statements

* `Delimited.unique`: a text has one decomposition into marks, delimiter, body and marks.
* `unquoteBytes?_eq_unquote`: looking for the two delimiters by bytes and cutting out the bytes
  between them gives the same body, however wide the other characters are.
* `unquote_delimited`: the body is found exactly if there is such a decomposition, and is not found
  exactly if the text has no delimiter or its first one does not occur again.
-/

namespace RtlLiterals

/-- **`Delimited t p q c s`** -- the text is the body `c` between two delimiters `q`, with marks `p`
before them that hold no delimiter and marks `s` behind them that do not hold `q`. -/
structure Delimited (t p : Text) (q : Char) (c s : Text) : Prop where
  text_eq : t = p ++ q :: c ++ q :: s
  quote : isQuote q = true
  before : ∀ x ∈ p, isQuote x = false
  behind : q ∉ s

theorem unquote_eq_some_iff_delimited {t c : Text} :
    unquote t = some c ↔ ∃ p q s, Delimited t p q c s := by
  rw [unquote_eq_some_iff]
  constructor
  · rintro ⟨p, q, s, ht, hq, hp, hs⟩
    exact ⟨p, q, s, ht, hq, hp, hs⟩
  · rintro ⟨p, q, s, ht, hq, hp, hs⟩
    exact ⟨p, q, s, ht, hq, hp, hs⟩

/-! ## §B The first delimiter -/

/-- The first delimiter of a text parts it in one way only. -/
theorem opening_unique {p p' r r' : Text} {q q' : Char} (hp : ∀ x ∈ p, isQuote x = false)
    (hp' : ∀ x ∈ p', isQuote x = false) (hq : isQuote q = true) (hq' : isQuote q' = true)
    (h : p ++ q :: r = p' ++ q' :: r') : p = p' ∧ q = q' ∧ r = r' := by
  induction p generalizing p' with
  | nil =>
    cases p' with
    | nil =>
      obtain ⟨hquote, hrest⟩ := List.cons.inj h
      exact ⟨rfl, hquote, hrest⟩
    | cons x p' =>
      -- The delimiter would be one of the other marks.
      obtain ⟨rfl, -⟩ := List.cons.inj h
      rw [hp' q List.mem_cons_self] at hq
      cases hq
  | cons x p ih =>
    cases p' with
    | nil =>
      obtain ⟨rfl, -⟩ := List.cons.inj h
      rw [hp x List.mem_cons_self] at hq'
      cases hq'
    | cons x' p' =>
      obtain ⟨rfl, htail⟩ := List.cons.inj h
      obtain ⟨rfl, hrest⟩ := ih (fun y hy => hp y (List.mem_cons_of_mem x hy))
        (fun y hy => hp' y (List.mem_cons_of_mem x hy)) htail
      exact ⟨rfl, hrest⟩

/-- **One decomposition.** The marks, the delimiter and the body are determined by the text. -/
theorem Delimited.unique {t p c s p' c' s' : Text} {q q' : Char} (h : Delimited t p q c s)
    (h' : Delimited t p' q' c' s') : p = p' ∧ q = q' ∧ c = c' ∧ s = s' := by
  have ht : p ++ q :: (c ++ q :: s) = p' ++ q' :: (c' ++ q' :: s') := by
    simpa using h.text_eq.symm.trans h'.text_eq
  obtain ⟨rfl, rfl, hrest⟩ := opening_unique h.before h'.before h.quote h'.quote ht
  -- Both bodies end before the last `q`.
  have hlast : beforeLast q (c ++ q :: s) = some c :=
    beforeLast_eq_some_iff.2 ⟨s, rfl, h.behind⟩
  have hlast' : beforeLast q (c ++ q :: s) = some c' :=
    beforeLast_eq_some_iff.2 ⟨s', hrest, h'.behind⟩
  obtain rfl : c = c' := Option.some.inj (hlast.symm.trans hlast')
  exact ⟨rfl, rfl, rfl, (List.cons.inj (List.append_cancel_left hrest)).2⟩

/-- A text has no delimiter, or a first one. -/
theorem noQuote_or_opening (t : Text) :
    (∀ x ∈ t, isQuote x = false) ∨
      ∃ p q r, t = p ++ q :: r ∧ isQuote q = true ∧ ∀ x ∈ p, isQuote x = false := by
  cases h : t.find? isQuote with
  | none => exact .inl fun x hx => by simpa using List.find?_eq_none.1 h x hx
  | some q =>
    obtain ⟨hq, p, r, ht, hp⟩ := List.find?_eq_some_iff_append.1 h
    exact .inr ⟨p, q, r, ht, hq, fun x hx => by simpa using hp x hx⟩

theorem unquote_of_noQuote {t : Text} (h : ∀ x ∈ t, isQuote x = false) : unquote t = none := by
  induction t with
  | nil => rfl
  | cons x t ih =>
    rw [unquote, if_neg (by simp [h x List.mem_cons_self])]
    exact ih fun y hy => h y (List.mem_cons_of_mem x hy)

/-- Marks before the first delimiter are passed. -/
theorem unquote_append {p r : Text} {q : Char} (hp : ∀ x ∈ p, isQuote x = false)
    (hq : isQuote q = true) : unquote (p ++ q :: r) = beforeLast q r := by
  induction p with
  | nil => rw [List.nil_append, unquote, if_pos hq]
  | cons x p ih =>
    rw [List.cons_append, unquote, if_neg (by simp [hp x List.mem_cons_self])]
    exact ih fun y hy => hp y (List.mem_cons_of_mem x hy)

/-- A body is missing exactly where no delimiter stands or the first one stands alone. -/
theorem unquote_eq_none_iff {t : Text} :
    unquote t = none ↔
      t.find? isQuote = none ∨ ∃ q, t.find? isQuote = some q ∧ t.count q = 1 := by
  rcases noQuote_or_opening t with hnone | ⟨p, q, r, rfl, hq, hp⟩
  · have hfind : t.find? isQuote = none := List.find?_eq_none.2 fun x hx => by simp [hnone x hx]
    simp [unquote_of_noQuote hnone, hfind]
  · have hfind : (p ++ q :: r).find? isQuote = some q :=
      List.find?_eq_some_iff_append.2 ⟨hq, p, r, rfl, fun x hx => by simp [hp x hx]⟩
    have hfront : p.count q = 0 := List.count_eq_zero.2 fun hmem => by simp [hp q hmem] at hq
    rw [unquote_append hp hq, beforeLast_eq_none_iff, hfind, ← List.count_eq_zero]
    simp [List.count_append, hfront]

/-! ## §C Delimiters found by bytes -/

/-- The first delimiter of a text, with the byte it stands at. -/
def openingByte? : Text → Option (Nat × Char)
  | [] => none
  | c :: t =>
    if isQuote c then some (0, c) else (openingByte? t).map fun (b, q) => (c.utf8Size + b, q)

/-- The byte at which the last `q` of a text stands. -/
def lastByte? (q : Char) : Text → Option Nat
  | [] => none
  | c :: t =>
    match lastByte? q t with
    | some b => some (c.utf8Size + b)
    | none => if c = q then some 0 else none

/-- The bytes between the first delimiter, which takes one byte, and its last occurrence. -/
def unquoteBytes? (t : Text) : Option Text :=
  (openingByte? t).bind fun (opening, q) => (lastByte? q t).bind fun closing =>
    if closing ≤ opening then none else t.sliceBytes? (opening + 1) closing

theorem utf8Size_of_isQuote {q : Char} (h : isQuote q = true) : q.utf8Size = 1 := by
  have hall : quoteChars.all (·.utf8Size == 1) = true := by decide
  exact eq_of_beq (List.all_eq_true.1 hall q (isQuote_iff.1 h))

theorem openingByte?_of_noQuote {t : Text} (h : ∀ x ∈ t, isQuote x = false) :
    openingByte? t = none := by
  induction t with
  | nil => rfl
  | cons x t ih =>
    rw [openingByte?, if_neg (by simp [h x List.mem_cons_self]),
      ih fun y hy => h y (List.mem_cons_of_mem x hy), Option.map_none]

theorem openingByte?_append {p r : Text} {q : Char} (hp : ∀ x ∈ p, isQuote x = false)
    (hq : isQuote q = true) : openingByte? (p ++ q :: r) = some (p.byteLength, q) := by
  induction p with
  | nil => rw [List.nil_append, openingByte?, if_pos hq, Text.byteLength_nil]
  | cons x p ih =>
    rw [List.cons_append, openingByte?, if_neg (by simp [hp x List.mem_cons_self]),
      ih fun y hy => hp y (List.mem_cons_of_mem x hy), Option.map_some, Text.byteLength_cons]

/-- Behind marks, the last occurrence of the first delimiter is looked for. -/
theorem unquoteBytes?_append {p r : Text} {q : Char} (hp : ∀ x ∈ p, isQuote x = false)
    (hq : isQuote q = true) :
    unquoteBytes? (p ++ q :: r) = (lastByte? q (p ++ q :: r)).bind fun closing =>
      if closing ≤ p.byteLength then none
      else (p ++ q :: r).sliceBytes? (p.byteLength + 1) closing := by
  rw [unquoteBytes?, openingByte?_append hp hq]
  rfl

theorem lastByte?_eq (q : Char) (t : Text) :
    lastByte? q t = (beforeLast q t).map Text.byteLength := by
  induction t with
  | nil => rfl
  | cons c t ih =>
    rw [lastByte?, beforeLast, ih]
    cases beforeLast q t with
    | none =>
      by_cases hc : c = q
      · simp [hc]
      · simp [hc]
    | some b => simp

/-- The slice of bytes that a text takes between two others. -/
theorem Text.sliceBytes?_append (a b c : Text) :
    sliceBytes? (a ++ (b ++ c)) (byteLength a) (byteLength (a ++ b)) = some b := by
  have hstart := byteOffset_append_length a (b ++ c)
  have hstop := byteOffset_append_length (a ++ b) c
  rw [List.append_assoc, List.length_append] at hstop
  rw [← hstart, ← hstop, sliceBytes?_byteOffset _ (Nat.le_add_right a.length b.length),
    slice_append]

/-- **Delimiters by bytes.** Every delimiter takes one byte and no byte of another character looks
like one, so nothing is split and the bytes between them are the body. -/
theorem unquoteBytes?_eq_unquote (t : Text) : unquoteBytes? t = unquote t := by
  rcases noQuote_or_opening t with hnone | ⟨p, q, r, rfl, hq, hp⟩
  · rw [unquoteBytes?, openingByte?_of_noQuote hnone, unquote_of_noQuote hnone, Option.bind_none]
  · rw [unquoteBytes?_append hp hq, unquote_append hp hq, lastByte?_eq]
    cases h : beforeLast q r with
    | none =>
      -- The first delimiter is also the last one: it would close where it opens.
      have hlast : beforeLast q (p ++ q :: r) = some p :=
        beforeLast_eq_some_iff.2 ⟨r, rfl, beforeLast_eq_none_iff.1 h⟩
      rw [hlast, Option.map_some, Option.bind_some, if_pos (Nat.le_refl _)]
    | some c =>
      obtain ⟨s, rfl, hs⟩ := beforeLast_eq_some_iff.1 h
      have hlast : beforeLast q (p ++ q :: (c ++ q :: s)) = some (p ++ q :: c) :=
        beforeLast_eq_some_iff.2 ⟨s, by simp, hs⟩
      have hopen : Text.byteLength (p ++ [q]) = Text.byteLength p + 1 := by
        rw [Text.byteLength_append, Text.byteLength_singleton, utf8Size_of_isQuote hq]
      have hslice := Text.sliceBytes?_append (p ++ [q]) c (q :: s)
      rw [hopen] at hslice
      have hclose : ¬ Text.byteLength (p ++ q :: c) ≤ Text.byteLength p := by
        rw [Text.byteLength_append, Text.byteLength_cons, utf8Size_of_isQuote hq]
        omega
      rw [hlast, Option.map_some, Option.bind_some, if_neg hclose]
      simpa using hslice

/-! ## §D The body of a quoted text -/

/-- **The body of a quoted text.** It is found exactly if the text is a body between two equal
delimiters, with marks before them that hold no delimiter and marks behind them that do not hold
theirs. Such a decomposition is the only one of the text, so the body is recovered whatever it
holds. No body is found exactly if no delimiter occurs or the first one occurs only once. Finding
and cutting by bytes gives the same. -/
theorem unquote_delimited (t : Text) :
    (∀ c, unquote t = some c ↔ ∃ p q s, Delimited t p q c s) ∧
      (∀ p q c s, Delimited t p q c s → unquote t = some c ∧
        ∀ p' q' c' s', Delimited t p' q' c' s' → p' = p ∧ q' = q ∧ c' = c ∧ s' = s) ∧
      (unquote t = none ↔
        t.find? isQuote = none ∨ ∃ q, t.find? isQuote = some q ∧ t.count q = 1) ∧
      unquoteBytes? t = unquote t := by
  refine ⟨fun c => unquote_eq_some_iff_delimited, ?_, unquote_eq_none_iff,
    unquoteBytes?_eq_unquote t⟩
  intro p q c s h
  exact ⟨unquote_eq_some_iff_delimited.2 ⟨p, q, s, h⟩, fun p' q' c' s' h' => h'.unique h⟩

/-- A body with a wide character and all three delimiters in it; a text whose first delimiter does
not occur again. -/
example :
    unquote (Text.ofString "br#\"\u0628'\"`\"#") = some (Text.ofString "\u0628'\"`") ∧
      unquote (Text.ofString "br#\"\u0628'`#") = none := by decide

end RtlLiterals
