import RtlLiterals.Proofs.Yaml.Entries

/-!
# RtlLiterals.Proofs.Yaml.Mapping -- the document that items spell

The tokens of items give the keys and values of a mapping, in order. `Reading.built` is the document
that the reader of events builds from a state on; each token of an item moves both of them one step,
whatever the places of the tokens are. What one entry or one item adds to an open mapping is stated
by `Reading.Builds`, and what all of them add follows by one induction (`Reading.builds_all`).
-/

namespace RtlLiterals.Yaml

/-! ## §A Building while reading -/

/-- **`r.built problem n b`** -- the document that is built from `b` on by at most `n` events of
`r`. -/
def Reading.built (problem : Option Problem) (n : Nat) (r : Reading) (b : Building) : Document :=
  Document.build ((r.run n).2.orElse fun _ => problem) (r.run n).1 b

theorem Document.ofEvents_eq_built (tokens : Tokens) :
    Document.ofEvents (.ofTokens tokens) =
      Reading.built tokens.problem (4 * tokens.list.length + 4) ⟨tokens.list, [.document true], []⟩
        .empty := rfl

namespace Reading

variable {problem : Option Problem} {n : Nat} {r r' : Reading} (m : Mark)

theorem run_succ {e : Event} (h : r.step = .ok (e, r')) :
    r.run (n + 1) = (e :: (r'.run n).1, (r'.run n).2) := by
  rw [run, h]

theorem built_scalar (style : ScalarStyle) (content : Text)
    (h : r.step = .ok (⟨.scalar .none style content, m⟩, r')) (b : Building) :
    built problem (n + 1) r b =
      built problem n r' (b.push (.scalar m none none style content)) := by
  rw [built, run_succ h]
  rfl

theorem built_opening (kind : Collection) (h : r.step = .ok (⟨.opening .none kind, m⟩, r'))
    (b : Building) :
    built problem (n + 1) r b =
      built problem n r' { b with stack := ⟨m, none, none, kind, []⟩ :: b.stack } := by
  rw [built, run_succ h]
  rfl

theorem built_closing (h : r.step = .ok (⟨.closing, m⟩, r')) (b : Building) :
    built problem (n + 1) r b = built problem n r' (b.close false) := by
  rw [built, run_succ h]
  rfl

theorem built_documentStart (h : r.step = .ok (⟨.documentStart, m⟩, r')) (b : Building) :
    built problem (n + 1) r b = built problem n r' b := by
  rw [built, run_succ h]
  rfl

theorem built_documentEnd (m' : Mark) {r'' : Reading} (h : r.step = .ok (⟨.documentEnd, m⟩, r'))
    (h' : r'.step = .ok (⟨.streamEnd, m'⟩, r'')) (b : Building) :
    built problem (n + 2) r b = ⟨b.finish, none, false⟩ := by
  rw [built, run_succ h, run_succ h']
  rfl

end Reading

/-! ## §B What is spelled -/

/-- **`Spells key Value as nodes`** -- the nodes are the keys and values of what is in the list. -/
inductive Spells {α : Type} (key : α → Text) (Value : α → Node → Prop) : List α → List Node → Prop
  | nil : Spells key Value [] []
  | cons {a : α} {as : List α} {n : Node} {nodes : List Node} (m : Mark) : Value a n →
      Spells key Value as nodes →
      Spells key Value (a :: as) (.scalar m none none .plain (key a) :: n :: nodes)

/-- The events of all that is in the list. -/
def eventsOf {α : Type} (events : α → Nat) (as : List α) : Nat :=
  as.foldr (fun a n => n + events a) 0

theorem eventsOf_cons {α : Type} (events : α → Nat) (a : α) (as : List α) :
    eventsOf events (a :: as) = eventsOf events as + events a := rfl

/-- The node is the value of an entry. -/
def Entry.Value (e : Entry) (n : Node) : Prop := ∃ m, n = .scalar m none none e.style e.content

namespace Item

/-- The key of an item. -/
def key : Item → Text
  | .entry e => e.key
  | .mapping key _ => key

/-- The node is the value of an item. -/
inductive Value : Item → Node → Prop
  | entry {e : Entry} {n : Node} : e.Value n → Value (.entry e) n
  | mapping {key : Text} {es : List Entry} {children : List Node} (m : Mark) :
      Spells Entry.key Entry.Value es children →
      Value (.mapping key es) (.collection m none none .mapping children false)

/-- The number of events of an item. -/
def events : Item → Nat
  | .entry _ => 2
  | .mapping _ es => eventsOf (fun _ => 2) es + 3

end Item

theorem eventsOf_le {α : Type} {events : α → Nat} {ks : α → List TokenKind}
    (h : ∀ a, events a ≤ (ks a).length) (as : List α) :
    eventsOf events as ≤ (as.flatMap ks).length := by
  induction as with
  | nil => exact Nat.le_refl 0
  | cons a as ih =>
    rw [eventsOf_cons, List.flatMap_cons, List.length_append, Nat.add_comm]
    exact Nat.add_le_add (h a) ih

/-- No item has more events than tokens. -/
theorem Item.events_le (i : Item) : i.events ≤ i.kinds.length := by
  cases i with
  | entry e => exact Nat.le_add_right 2 2
  | mapping key es =>
    have hentries : eventsOf (fun _ => 2) es ≤ (es.flatMap Entry.kinds).length :=
      eventsOf_le (fun _ => Nat.le_add_right 2 2) es
    simp only [events, kinds, List.length_cons, List.length_append, List.length_nil]
    omega

theorem kinds_eq_cons {tokens : List Token} {kind : TokenKind} {more : List TokenKind}
    (h : Layout.kinds tokens = kind :: more) :
    ∃ m m' rest, tokens = ⟨kind, m, m'⟩ :: rest ∧ Layout.kinds rest = more := by
  cases tokens with
  | nil => cases h
  | cons t rest =>
    obtain ⟨rfl, hrest⟩ := List.cons.inj h
    exact ⟨t.start, t.stop, rest, rfl, hrest⟩

/-! ## §C Keys and values -/

namespace Reading

variable (problem : Option Problem) (start : Mark) (goals : List Goal)
  (handles : List (Text × TagText))

/-- **`Builds ks events key Value`** -- from tokens that say `ks`, in a mapping, so many events give
it the key and a node that is the value. -/
def Builds (ks : List TokenKind) (events : Nat) (key : Text) (Value : Node → Prop) : Prop :=
  ∀ ⦃tokens : List Token⦄ ⦃more : List TokenKind⦄, Layout.kinds tokens = ks ++ more →
    ∀ (n : Nat) (o : OpenNode) (os : List OpenNode) (root : Option Node)
      (names : List (Text × Nat)), ∃ m v rest, Value v ∧ Layout.kinds rest = more ∧
        built problem (n + events) ⟨tokens, .blockKeys start :: goals, handles⟩
            ⟨o :: os, root, names⟩ =
          built problem n ⟨rest, .blockKeys start :: goals, handles⟩
            ⟨(o.push (.scalar m none none .plain key)).push v :: os, root, names⟩

/-- **All keys and values.** They are given to the mapping, and the tokens after them are left. -/
theorem builds_all {α : Type} {ks : α → List TokenKind} {events : α → Nat} {key : α → Text}
    {Value : α → Node → Prop}
    (h : ∀ a, Builds problem start goals handles (ks a) (events a) (key a) (Value a))
    (as : List α) {tokens : List Token} {more : List TokenKind}
    (htokens : Layout.kinds tokens = as.flatMap ks ++ more) (n : Nat) (o : OpenNode)
    (os : List OpenNode) (root : Option Node) (names : List (Text × Nat)) :
    ∃ nodes rest, Spells key Value as nodes ∧ Layout.kinds rest = more ∧
      built problem (n + eventsOf events as) ⟨tokens, .blockKeys start :: goals, handles⟩
          ⟨o :: os, root, names⟩ =
        built problem n ⟨rest, .blockKeys start :: goals, handles⟩
          ⟨{ o with children := nodes.reverse ++ o.children } :: os, root, names⟩ := by
  induction as generalizing tokens o with
  | nil => exact ⟨[], tokens, .nil, htokens, rfl⟩
  | cons a as ih =>
    rw [List.flatMap_cons, List.append_assoc] at htokens
    obtain ⟨m, v, rest₁, hv, hrest₁, hone⟩ :=
      h a htokens (n + eventsOf events as) o os root names
    obtain ⟨nodes, rest, hnodes, hrest, hbuilt⟩ :=
      ih hrest₁ ((o.push (.scalar m none none .plain (key a))).push v)
    refine ⟨_, rest, .cons m hv hnodes, hrest, ?_⟩
    rw [eventsOf_cons, ← Nat.add_assoc, hone, hbuilt]
    simp [OpenNode.push]

/-- The two events of an entry. -/
theorem builds_entry (e : Entry) : Builds problem start goals handles e.kinds 2 e.key e.Value := by
  intro tokens more htokens n o os root names
  obtain ⟨m₁, n₁, rest₁, rfl, h₁⟩ := kinds_eq_cons htokens
  obtain ⟨m₂, n₂, rest₂, rfl, h₂⟩ := kinds_eq_cons h₁
  obtain ⟨m₃, n₃, rest₃, rfl, h₃⟩ := kinds_eq_cons h₂
  obtain ⟨m₄, n₄, rest₄, rfl, h₄⟩ := kinds_eq_cons h₃
  refine ⟨m₂, .scalar m₄ none none e.style e.content, rest₄, ⟨m₄, rfl⟩, h₄, ?_⟩
  rw [built_scalar m₂ .plain e.key rfl, built_scalar m₄ e.style e.content rfl]
  rfl

/-- The events of a mapping within the mapping: its key, those of its entries, and its two ends. -/
theorem builds_mapping (key : Text) (es : List Entry) :
    Builds problem start goals handles (Item.mapping key es).kinds (Item.mapping key es).events key
      (Item.Value (.mapping key es)) := by
  intro tokens more htokens n o os root names
  have hfuel : n + (Item.mapping key es).events = n + 1 + eventsOf (fun _ => 2) es + 1 + 1 := by
    rw [Item.events]
    omega
  simp only [Item.kinds, List.cons_append, List.append_assoc] at htokens
  obtain ⟨m₁, n₁, rest₁, rfl, h₁⟩ := kinds_eq_cons htokens
  obtain ⟨m₂, n₂, rest₂, rfl, h₂⟩ := kinds_eq_cons h₁
  obtain ⟨m₃, n₃, rest₃, rfl, h₃⟩ := kinds_eq_cons h₂
  obtain ⟨m₄, n₄, rest₄, rfl, h₄⟩ := kinds_eq_cons h₃
  obtain ⟨children, rest₅, hchildren, h₅, hbuilt⟩ := builds_all problem m₄
    (.blockKeys start :: goals) handles
    (builds_entry problem m₄ (.blockKeys start :: goals) handles) es h₄ (n + 1)
    ⟨m₄, none, none, .mapping, []⟩ (o.push (.scalar m₂ none none .plain key) :: os) root names
  obtain ⟨m₆, n₆, rest₆, rfl, h₆⟩ := kinds_eq_cons h₅
  refine ⟨m₂, .collection m₄ none none .mapping children false, rest₆, .mapping m₄ hchildren, h₆,
    ?_⟩
  rw [hfuel, built_scalar m₂ .plain key rfl, built_opening m₄ .mapping rfl]
  refine hbuilt.trans ?_
  rw [built_closing m₆ rfl]
  simp [Building.close, Building.push, OpenNode.push, OpenNode.close]

theorem builds_item (i : Item) :
    Builds problem start goals handles i.kinds i.events i.key i.Value := by
  cases i with
  | entry e =>
    intro tokens more htokens n o os root names
    obtain ⟨m, v, rest, hv, hentry⟩ :=
      builds_entry problem start goals handles e htokens n o os root names
    exact ⟨m, v, rest, .entry hv, hentry⟩
  | mapping key es => exact builds_mapping problem start goals handles key es

end Reading

/-! ## §D Documents -/

/-- **`IsDocument is d`** -- the document is a mapping with the items; nothing is wrong with it, and
nothing follows it. -/
def IsDocument (is : List Item) (d : Document) : Prop :=
  ∃ m nodes, Spells Item.key Item.Value is nodes ∧
    d = ⟨some (.collection m none none .mapping nodes false), none, false⟩

/-- The document that the tokens spell. -/
theorem isDocument_of_kinds {is : List Item} {tokens : List Token}
    (h : Layout.kinds tokens =
      .blockMappingStart :: (is.flatMap Item.kinds ++ [.blockEnd, .streamEnd]))
    (problem : Option Problem) :
    IsDocument is (Document.ofEvents (.ofTokens ⟨tokens, problem⟩)) := by
  have hlength : (is.flatMap Item.kinds).length + 3 = tokens.length := by
    have hlength := congrArg List.length h
    simp only [Layout.kinds, List.length_map, List.length_cons, List.length_append,
      List.length_nil] at hlength
    omega
  have hevents := eventsOf_le Item.events_le is
  obtain ⟨n, hfuel⟩ : ∃ n, 4 * tokens.length + 4 = n + 2 + 1 + eventsOf Item.events is + 1 + 1 :=
    ⟨4 * tokens.length + 4 - (5 + eventsOf Item.events is), by omega⟩
  rw [Document.ofEvents_eq_built]
  simp only [hfuel]
  obtain ⟨m, n₁, rest₁, rfl, h₁⟩ := kinds_eq_cons h
  obtain ⟨nodes, rest₂, hnodes, h₂, hbuilt⟩ := Reading.builds_all problem m [.documentEnd]
    Reading.defaultHandles (Reading.builds_item problem m [.documentEnd] Reading.defaultHandles)
    is h₁ (n + 2 + 1) ⟨m, none, none, .mapping, []⟩ [] none []
  obtain ⟨m₃, n₃, rest₃, rfl, h₃⟩ := kinds_eq_cons h₂
  obtain ⟨m₄, n₄, rest₄, rfl, -⟩ := kinds_eq_cons h₃
  refine ⟨m, nodes, hnodes, ?_⟩
  rw [Reading.built_documentStart m rfl, Reading.built_opening m .mapping rfl]
  refine hbuilt.trans ?_
  rw [Reading.built_closing m₃ rfl, Reading.built_documentEnd m₄ m₄ rfl rfl]
  simp [Building.close, Building.push, Building.finish, OpenNode.close]

/-! ## §E Texts -/

theorem badCharacter?_eq_none {t : Text} (h : ∀ c ∈ t, isAccepted c = true) (i : Nat) :
    Document.badCharacter? t i = none := by
  induction t generalizing i with
  | nil => rfl
  | cons c t ih =>
    rw [Document.badCharacter?, if_pos (h c (List.mem_cons_self ..)),
      ih fun d hd => h d (List.mem_cons_of_mem _ hd)]

theorem Document.ofText_eq {c : Char} {t : Text} (hmark : c ≠ byteOrderMark)
    (h : ∀ d ∈ c :: t, isAccepted d = true) :
    ofText (c :: t) = ofEvents (.ofTokens (.ofText (c :: t))) := by
  rw [ofText]
  simp only [if_neg hmark, badCharacter?_eq_none h]

theorem isAccepted_of_mem_key {key : Text} (hkey : Layout.isKey key = true) {c : Char}
    (hc : c ∈ key) : isAccepted c = true := by
  simp only [Layout.isKey, plainAllowed, allPrintable, Bool.and_eq_true, List.all_eq_true] at hkey
  exact isAccepted_of_isPrintable (hkey.1.1.1.1.1.1 c hc)

theorem isAccepted_of_mem_writeKeyed {indent : Nat} {e : Entry} (he : e.Stands indent) {c : Char}
    (hc : c ∈ writeKeyed indent e.key e.value) : isAccepted c = true := by
  unfold writeKeyed at hc
  split at hc
  · simp only [writeEntry, List.mem_append, List.mem_cons, List.not_mem_nil, or_false] at hc
    rcases hc with ((hc | hc) | rfl | rfl) | hc
    · obtain rfl := List.eq_of_mem_replicate hc
      rfl
    · exact isAccepted_of_mem_key he.isKey hc
    · rfl
    · rfl
    · exact he.accepted c hc
  · simp only [List.mem_append, List.mem_cons, List.not_mem_nil, or_false] at hc
    rcases hc with (((((hc | rfl | rfl) | hc) | rfl) | hc) | rfl | rfl) | hc
    · obtain rfl := List.eq_of_mem_replicate hc
      rfl
    · rfl
    · rfl
    · exact isAccepted_of_mem_key he.isKey hc
    · rfl
    · obtain rfl := List.eq_of_mem_replicate hc
      rfl
    · rfl
    · rfl
    · exact he.accepted c hc

theorem isAccepted_of_mem_write {inner : Nat} {i : Item} (hi : i.Stands inner) {c : Char}
    (hc : c ∈ i.write inner) : isAccepted c = true := by
  cases hi with
  | entry he => exact isAccepted_of_mem_writeKeyed he hc
  | mapping hkey _ _ hes =>
    simp only [Item.write, writeEntries, List.mem_append, List.mem_cons] at hc
    rcases hc with hc | rfl | rfl | hc
    · exact isAccepted_of_mem_key hkey hc
    · rfl
    · rfl
    · obtain ⟨e, he, hc⟩ := List.mem_flatMap.1 hc
      exact isAccepted_of_mem_writeKeyed (hes e he) hc

/-- **A document of items.** Items that can be read are read as what they are. -/
theorem isDocument_ofText {is : List Item} (hne : is ≠ []) {inner : Nat} (hinner : 0 < inner)
    (his : ∀ i ∈ is, i.Stands inner) : IsDocument is (.ofText (writeItems inner is)) := by
  obtain ⟨ts, htokens, hkinds⟩ := tokens_items hne hinner his
  have haccepted : ∀ c ∈ writeItems inner is, isAccepted c = true := by
    intro c hc
    obtain ⟨i, hi, hc⟩ := List.mem_flatMap.1 hc
    exact isAccepted_of_mem_write (his i hi) hc
  obtain ⟨c, t, htext, hc⟩ : ∃ c t, writeItems inner is = c :: t ∧ startsToken c = true := by
    obtain ⟨i, is, rfl⟩ := List.exists_cons_of_ne_nil hne
    exact ((his i (List.mem_cons_self ..)).advances hinner).starts _
  rw [htext] at htokens haccepted ⊢
  rw [Document.ofText_eq (startsToken_iff.1 hc).2.2 haccepted, htokens]
  exact isDocument_of_kinds hkinds none

end RtlLiterals.Yaml
