import RtlLiterals.Proofs.Yaml.Values

/-!
# RtlLiterals.Proofs.Yaml.Entries -- the tokens of entries

An entry of a mapping is read in three steps, for its key, its colon and its value, and gives four
tokens; a key that is too long to be told by its colon has a question mark before it, which is one
step more and gives the same tokens. The items of a document are such entries, and keys with a
mapping of their own, in any order.

## §A How it goes

`Layout.Advances` says what the reader does over one text that starts where a key may stand. It
holds of an entry (`Entry.Stands.advances`), of one text after the other (`Advances.all`), and so of
a mapping with its entries (`Layout.advances_mapping`) and of all items, which gives the tokens of
the document (`tokens_items`).
-/

namespace RtlLiterals.Yaml

/-! ## §B Entries -/

/-- An entry of a mapping with a scalar as its value. -/
structure Entry where
  key : Text
  /-- The value as it is written, to the end of its line. -/
  value : Text
  style : ScalarStyle
  content : Text

/-- The most bytes of a key that is written without a question mark. -/
def shortKeyBytes : Nat := 128

/-- A key of a mapping with its value. A longer key has a question mark before it, and its value
stands on the next line. -/
def writeKeyed (indent : Nat) (key value : Text) : Text :=
  if Text.byteLength key ≤ shortKeyBytes then writeEntry indent key value
  else spaces indent ++ ['?', ' '] ++ key ++ ['\n'] ++ spaces indent ++ [':', ' '] ++ value

/-- The entries of a mapping as they are written. -/
def writeEntries (indent : Nat) (es : List Entry) : Text :=
  es.flatMap fun e => writeKeyed indent e.key e.value

namespace Entry

/-- The entry can be read in a mapping indented by `indent`. -/
structure Stands (indent : Nat) (e : Entry) : Prop where
  isKey : Layout.isKey e.key = true
  accepted : ∀ c ∈ e.value, isAccepted c = true
  reads : Reads indent e.value e.style e.content

/-- What the tokens of an entry say. -/
def kinds (e : Entry) : List TokenKind :=
  [.key, .scalar .plain e.key, .value, .scalar e.style e.content]

/-- The text of an entry behind its indentation, which `rest` follows. -/
def line (indent : Nat) (e : Entry) (rest : Text) : Text :=
  if Text.byteLength e.key ≤ shortKeyBytes then e.key ++ ':' :: ' ' :: (e.value ++ rest)
  else '?' :: ' ' :: (e.key ++ '\n' :: (spaces indent ++ ':' :: ' ' :: (e.value ++ rest)))

end Entry

theorem writeKeyed_append (indent : Nat) (e : Entry) (rest : Text) :
    writeKeyed indent e.key e.value ++ rest = spaces indent ++ e.line indent rest := by
  by_cases hshort : Text.byteLength e.key ≤ shortKeyBytes
  · simp [writeKeyed, writeEntry, Entry.line, hshort]
  · simp [writeKeyed, Entry.line, hshort]

theorem writeEntries_append (indent : Nat) (es : List Entry) (rest : Text) :
    writeEntries indent es ++ rest =
      es.foldr (fun e rest => spaces indent ++ e.line indent rest) rest := by
  induction es with
  | nil => rfl
  | cons e es ih =>
    rw [List.foldr_cons, ← ih, ← writeKeyed_append, ← List.append_assoc]
    rfl

/-! ## §C Items -/

/-- What the mapping of a document holds: an entry, or a key with a mapping of its own. -/
inductive Item where
  | entry (e : Entry)
  | mapping (key : Text) (es : List Entry)

namespace Item

/-- The item as it is written. The entries of a mapping are indented by `inner`. -/
def write (inner : Nat) : Item → Text
  | .entry e => writeKeyed 0 e.key e.value
  | .mapping key es => key ++ ':' :: '\n' :: writeEntries inner es

/-- The item can be read. A mapping has some entries. -/
inductive Stands (inner : Nat) : Item → Prop
  | entry {e : Entry} : e.Stands 0 → Stands inner (.entry e)
  | mapping {key : Text} {es : List Entry} : Layout.isKey key = true →
      Text.byteLength key ≤ shortKeyBytes → es ≠ [] → (∀ e ∈ es, e.Stands inner) →
      Stands inner (.mapping key es)

/-- What the tokens of an item say. -/
def kinds : Item → List TokenKind
  | .entry e => e.kinds
  | .mapping key es => .key :: .scalar .plain key :: .value :: .blockMappingStart ::
      (es.flatMap Entry.kinds ++ [.blockEnd])

end Item

/-- The items of a document as they are written. -/
def writeItems (inner : Nat) (is : List Item) : Text := is.flatMap (Item.write inner)

/-! ## §D Steps -/

namespace Layout

/-- **`Advances indent line ks`** -- the reader goes over the text that `line` puts before the next
entry, which starts in the column `indent` with a key, and its tokens say `ks`. -/
structure Advances (indent : Nat) (line : Text → Text) (ks : List TokenKind) : Prop where
  /-- A token starts the text. -/
  starts : ∀ rest, ∃ c t, line rest = c :: t ∧ startsToken c = true
  /-- Steps lead over the text, and open a mapping if none is open there. -/
  steps : ∀ ⦃columns columns' : List Nat⦄ ⦃opening : List TokenKind⦄,
    Opens indent columns opening columns' → ∀ ⦃column : Nat⦄ ⦃next : Text⦄,
      StartsEntry column next → column ≤ indent → ∀ ⦃m : Mark⦄, m.column = indent →
        ∀ tokens : List Token, ∃ m' tokens', m'.column = column ∧
          kinds tokens' = ks.reverse ++ (opening ++ kinds tokens) ∧
          Steps (between (line (spaces column ++ next)) m tokens columns true)
            (between next m' tokens' columns' true)

namespace Advances

variable {indent : Nat}

/-- One text after the other. -/
theorem append {line line' : Text → Text} {ks ks' : List TokenKind} (h : Advances indent line ks)
    (h' : Advances indent line' ks') :
    Advances indent (fun rest => line (spaces indent ++ line' rest)) (ks ++ ks') := by
  refine ⟨fun rest => h.starts _, ?_⟩
  intro columns columns' opening hopens column next hnext hcolumn m hm tokens
  have hline : StartsEntry indent (line' (spaces column ++ next)) := .inr (h'.starts _)
  obtain ⟨m₁, tokens₁, hm₁, htokens₁, hsteps⟩ := h.steps hopens hline (Nat.le_refl indent) hm tokens
  -- The first text has opened the mapping, so it is open for the second one.
  obtain ⟨around, rfl⟩ := hopens.columns_eq
  obtain ⟨m', tokens', hm', htokens', hsteps'⟩ :=
    h'.steps (.stays around) hnext hcolumn hm₁ tokens₁
  refine ⟨m', tokens', hm', ?_, hsteps.trans hsteps'⟩
  rw [htokens', htokens₁]
  simp

/-- **All texts**, one after the other. -/
theorem all {α : Type} {line : α → Text → Text} {ks : α → List TokenKind} {a : α} {as : List α}
    (h : ∀ b ∈ a :: as, Advances indent (line b) (ks b)) :
    Advances indent
      (fun rest => line a (as.foldr (fun b rest => spaces indent ++ line b rest) rest))
      ((a :: as).flatMap ks) := by
  induction as generalizing a with
  | nil =>
    rw [List.flatMap_cons, List.flatMap_nil, List.append_nil]
    exact h a (List.mem_cons_self ..)
  | cons b as ih =>
    rw [List.flatMap_cons]
    exact (h a (List.mem_cons_self ..)).append (ih fun c hc => h c (List.mem_cons_of_mem a hc))

end Advances

section

variable {e : Entry} {indent : Nat} (he : e.Stands indent) {columns columns' : List Nat}
  {opening : List TokenKind} (hopens : Opens indent columns opening columns') {column : Nat}
  {next : Text} (hnext : StartsEntry column next) (hcolumn : column ≤ indent) {m : Mark}
  (hm : m.column = indent) (tokens : List Token)
include he hopens hnext hcolumn hm

/-- An entry whose key is told by its colon. -/
theorem steps_shortEntry (hshort : Text.byteLength e.key ≤ shortKeyBytes) :
    ∃ m' tokens', m'.column = column ∧
      kinds tokens' = e.kinds.reverse ++ (opening ++ kinds tokens) ∧
      Steps (between (e.key ++ ':' :: ' ' :: (e.value ++ (spaces column ++ next))) m tokens columns
          true)
        (between next m' tokens' columns' true) := by
  have hlength : Text.byteLength e.key ≤ keyBytesLimit := Nat.le_trans hshort (by decide)
  obtain ⟨m₁, tokens₁, hm₁, htokens₁, hkey⟩ := steps_key he.isKey hlength
    (show endsWord (' ' :: (e.value ++ (spaces column ++ next))) = true from rfl) tokens
    (by rwa [hm])
  obtain ⟨around, rfl⟩ := hopens.columns_eq
  obtain ⟨m', t, hm', ht, hvalue⟩ :=
    he.reads hnext hcolumn (m := m₁) (by omega) tokens₁ around false
  refine ⟨m', t :: tokens₁, hm', ?_, hkey.trans hvalue⟩
  rw [kinds_cons, ht, htokens₁]
  rfl

/-- An entry whose key has a question mark. -/
theorem steps_longEntry :
    ∃ m' tokens', m'.column = column ∧
      kinds tokens' = e.kinds.reverse ++ (opening ++ kinds tokens) ∧
      Steps (between ('?' :: ' ' :: (e.key ++ '\n' :: (spaces indent ++
          ':' :: ' ' :: (e.value ++ (spaces column ++ next))))) m tokens columns true)
        (between next m' tokens' columns' true) := by
  obtain ⟨c, u, hkey, -, hplain⟩ := isKey_cases he.isKey
  obtain ⟨around, rfl⟩ := hopens.columns_eq
  obtain ⟨m₁, tokens₁, hm₁, htokens₁, hquestion⟩ := steps_question
    (show endsWord (' ' :: (e.key ++ '\n' :: (spaces indent ++
      ':' :: ' ' :: (e.value ++ (spaces column ++ next))))) = true from rfl) tokens (by rwa [hm])
  -- The key is read as the value of an entry would be, up to the line of the colon.
  obtain ⟨m₂, t₂, hm₂, ht₂, hscalar⟩ := reads_plain (t := e.key) (by rwa [hkey]) (by simp [hkey])
    indent (show StartsEntry indent (':' :: ' ' :: (e.value ++ (spaces column ++ next))) from
      .inr ⟨':', _, rfl, by decide⟩) (Nat.le_refl indent) (m := m₁) (by omega) tokens₁ around true
  obtain ⟨m₃, tokens₃, hm₃, htokens₃, hcolon⟩ := steps_colon
    (show endsWord (' ' :: (e.value ++ (spaces column ++ next))) = true from rfl) m₂
    (t₂ :: tokens₁) around
  rw [hm₂] at hcolon
  obtain ⟨m', t, hm', ht, hvalue⟩ :=
    he.reads hnext hcolumn (m := m₃) (by omega) tokens₃ around true
  rw [List.append_assoc, List.singleton_append] at hscalar
  refine ⟨m', t :: tokens₃, hm', ?_, ((hquestion.trans hscalar).trans hcolon).trans hvalue⟩
  rw [kinds_cons, ht, htokens₃, kinds_cons, ht₂, htokens₁]
  rfl

end

end Layout

/-- **An entry.** -/
theorem Entry.Stands.advances {e : Entry} {indent : Nat} (he : e.Stands indent) :
    Layout.Advances indent (e.line indent) e.kinds := by
  unfold Entry.line
  by_cases hshort : Text.byteLength e.key ≤ shortKeyBytes
  · simp only [if_pos hshort]
    refine ⟨fun rest => ?_, ?_⟩
    · obtain ⟨c, u, hkey, hc, -⟩ := Layout.isKey_cases he.isKey
      rw [hkey]
      exact ⟨c, _, rfl, hc⟩
    · intro columns columns' opening hopens column next hnext hcolumn m hm tokens
      exact Layout.steps_shortEntry he hopens hnext hcolumn hm tokens hshort
  · simp only [if_neg hshort]
    refine ⟨fun rest => ⟨'?', _, rfl, by decide⟩, ?_⟩
    intro columns columns' opening hopens column next hnext hcolumn m hm tokens
    exact Layout.steps_longEntry he hopens hnext hcolumn hm tokens

namespace Layout

/-- **A mapping within the mapping.** Its entries follow the key that it belongs to, and it closes
at the next item. -/
theorem advances_mapping {key : Text} (hkey : isKey key = true)
    (hshort : Text.byteLength key ≤ shortKeyBytes) {es : List Entry} (hne : es ≠ []) {inner : Nat}
    (hinner : 0 < inner) (hes : ∀ e ∈ es, e.Stands inner) :
    Advances 0 (fun rest => key ++ ':' :: '\n' :: (writeEntries inner es ++ rest))
      (Item.mapping key es).kinds := by
  refine ⟨fun rest => ?_, ?_⟩
  · obtain ⟨c, u, rfl, hc, -⟩ := isKey_cases hkey
    exact ⟨c, _, rfl, hc⟩
  intro columns columns' opening hopens column next hnext hcolumn m hm tokens
  obtain ⟨e, es, rfl⟩ := List.exists_cons_of_ne_nil hne
  obtain rfl := Nat.le_zero.1 hcolumn
  have hlength : Text.byteLength key ≤ keyBytesLimit := Nat.le_trans hshort (by decide)
  have hentries := Advances.all fun d hd => (hes d hd).advances
  rw [writeEntries_append]
  obtain ⟨m₁, tokens₁, hm₁, htokens₁, hsteps₁⟩ := steps_key hkey hlength
    (show endsWord ('\n' :: (e :: es).foldr (fun d rest => spaces inner ++ d.line inner rest)
      (spaces 0 ++ next)) = true from rfl) tokens (by rwa [hm])
  obtain ⟨around, rfl⟩ := hopens.columns_eq
  obtain ⟨m₂, hm₂, hsteps₂⟩ := steps_nextEntry (m := m₁) (.inr (hentries.starts (spaces 0 ++ next)))
    tokens₁ (0 :: around) (show ∀ p ∈ (none : Option PendingKey), _ from nofun)
  obtain ⟨m', tokens', hm', htokens', hsteps₃⟩ := hentries.steps
    (show Opens inner (0 :: around) [.blockMappingStart] (inner :: 0 :: around) from
      .opens (by simpa using hinner)) hnext (Nat.zero_le inner) hm₂ tokens₁
  have hclose := steps_close hinner hnext hm' tokens' around
  refine ⟨m', ⟨.blockEnd, m', m'⟩ :: tokens', hm', ?_,
    ((hsteps₁.trans hsteps₂).trans hsteps₃).trans hclose⟩
  rw [kinds_cons, htokens', htokens₁]
  simp [Item.kinds]

end Layout

/-- **An item.** -/
theorem Item.Stands.advances {i : Item} {inner : Nat} (hinner : 0 < inner) (hi : i.Stands inner) :
    Layout.Advances 0 (i.write inner ++ ·) i.kinds := by
  cases hi with
  | entry he =>
    simp only [write, writeKeyed_append]
    exact he.advances
  | mapping hkey hshort hne hes =>
    simp only [write, List.append_assoc, List.cons_append]
    exact Layout.advances_mapping hkey hshort hne hinner hes

/-! ## §E Documents -/

theorem writeItems_append (inner : Nat) (is : List Item) (rest : Text) :
    writeItems inner is ++ rest =
      is.foldr (fun i rest => spaces 0 ++ (i.write inner ++ rest)) rest := by
  induction is with
  | nil => rfl
  | cons i is ih =>
    rw [List.foldr_cons, ← ih, writeItems, List.flatMap_cons, List.append_assoc]
    rfl

/-- **The tokens of a document.** Its mapping opens and closes around those of its items. -/
theorem tokens_items {is : List Item} (hne : is ≠ []) {inner : Nat} (hinner : 0 < inner)
    (his : ∀ i ∈ is, i.Stands inner) :
    ∃ ts, Tokens.ofText (writeItems inner is) = ⟨ts, none⟩ ∧
      Layout.kinds ts =
        .blockMappingStart :: (is.flatMap Item.kinds ++ [.blockEnd, .streamEnd]) := by
  obtain ⟨i, is, rfl⟩ := List.exists_cons_of_ne_nil hne
  have hitems := Layout.Advances.all fun j hj => (his j hj).advances hinner
  obtain ⟨m, tokens, -, htokens, hsteps⟩ := hitems.steps
    (show Layout.Opens 0 [] [.blockMappingStart] [0] from .opens nofun)
    (show StartsEntry 0 [] from .inl ⟨rfl, rfl⟩) (Nat.le_refl 0) (m := .origin) rfl []
  obtain ⟨s, hend, hdone, hkinds⟩ := Layout.step_end m tokens [0] true
  have hrun : (Layout.ofText (writeItems inner (i :: is))).run
      ((writeItems inner (i :: is)).length + 1) = (s, none) := by
    refine Layout.Steps.run_eq ?_ hend hdone (Nat.lt_add_one _)
    rw [← List.append_nil (writeItems inner (i :: is)), writeItems_append]
    exact hsteps
  refine ⟨s.tokens.reverse, ?_, ?_⟩
  · rw [Tokens.ofText, hrun]
  · rw [Layout.kinds, List.map_reverse, ← Layout.kinds, hkinds, htokens]
    simp [Layout.kinds]

end RtlLiterals.Yaml
