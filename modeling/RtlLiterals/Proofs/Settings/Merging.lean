import RtlLiterals.Proofs.Yaml.Mapping
import RtlLiterals.Proofs.Yaml.Numbers
import RtlLiterals.Settings.Reading
import RtlLiterals.Settings.Writing

/-!
# RtlLiterals.Proofs.Settings.Merging -- files that hold some of the settings

A settings file need not hold all settings, nor only settings, and their order is free. What is
known of the settings while such a file is read depends on the keys that were read, and on nothing
else: `PartialSettings.known` and `PartialDecoration.known` are this state. One more entry is one
more key (`PartialSettings.read_known`), so the whole mapping gives the state of all its keys
(`readEntries_known`), and a setting whose key is not among them has its default.

## §A What is stated

* `Settings.ofText_merges`: every file with some of the settings is read, and gives these settings
  and the defaults of the others.
-/

namespace RtlLiterals

open RtlLiterals.Yaml

/-! ## §B Values -/

/-- A scalar that a settings file may hold. -/
inductive Scalar where
  | null
  | boolean (b : Bool)
  | integer (n : Int)
  | number (x : Binary64)
  | text (t : Text)
deriving DecidableEq, Repr

namespace Scalar

/-- What is read for the scalar. -/
def content : Scalar → Text
  | null => Text.ofString "null"
  | boolean b => Text.ofString (if b then "true" else "false")
  | integer n => Binary64.signedText n
  | number x => x.scientific
  | text t => t

/-- How the scalar is written. Only texts need more than the plain style. -/
def style : Scalar → ScalarStyle
  | text t => styleOf t
  | _ => .plain

/-- The scalar as a value in a mapping indented by `indent`, to the end of its line. -/
def write (indent : Nat) : Scalar → Text
  | null => Text.ofString "null\n"
  | boolean b => writeBoolean b
  | integer n => Binary64.signedText n ++ ['\n']
  | number x => writeNumber x
  | text t => writeText (indent + indentStep) t

/-- The entry of a scalar in a mapping indented by `indent`. -/
def entry (indent : Nat) (key : Text) (v : Scalar) : Entry :=
  ⟨key, v.write indent, v.style, v.content⟩

/-- A scalar that is no text is written plainly. -/
theorem plain_or_text (v : Scalar) :
    (v.content ≠ [] ∧ plainAllowed v.content = true ∧ v.style = .plain ∧
      ∀ indent, v.write indent = v.content ++ ['\n']) ∨ ∃ t, v = .text t := by
  cases v with
  | null => exact .inl ⟨by decide, by decide, rfl, fun _ => rfl⟩
  | boolean b =>
    refine .inl ⟨?_, ?_, rfl, fun _ => rfl⟩
    · cases b <;> decide
    · cases b <;> decide
  | integer n =>
    obtain ⟨hne, hplain⟩ := plainAllowed_signedText n
    exact .inl ⟨hne, hplain, rfl, fun _ => rfl⟩
  | number x =>
    obtain ⟨hne, hplain⟩ := plainAllowed_scientific x
    exact .inl ⟨hne, hplain, rfl, fun _ => rfl⟩
  | text t => exact .inr ⟨t, rfl⟩

/-- Every scalar is read back. -/
theorem entry_stands (indent : Nat) {key : Text} (hkey : Layout.isKey key = true) (v : Scalar) :
    (v.entry indent key).Stands indent := by
  rcases v.plain_or_text with ⟨hne, hplain, hstyle, hwrite⟩ | ⟨t, rfl⟩
  · refine ⟨hkey, ?_, ?_⟩
    · intro c hc
      change c ∈ v.write indent at hc
      rw [hwrite] at hc
      simp only [plainAllowed, allPrintable, Bool.and_eq_true, List.all_eq_true] at hplain
      rcases List.mem_append.1 hc with hc | hc
      · exact isAccepted_of_isPrintable (hplain.1.1.1.1.1 c hc)
      · obtain rfl := List.mem_singleton.1 hc
        rfl
    · change Reads indent (v.write indent) v.style v.content
      rw [hwrite, hstyle]
      exact reads_plain hplain hne indent
  · exact ⟨hkey, fun _ => isAccepted_of_mem_writeText, reads_writeText indent t⟩

end Scalar

/-! ## §C Settings and other entries -/

/-- A setting of the decoration. -/
inductive DecorationSetting where
  | enableBackground
  | backgroundColor
  | backgroundOpacity
  | textColor
deriving DecidableEq, Repr

/-- The key of a setting of the decoration. -/
def DecorationSetting.name : DecorationSetting → Text
  | enableBackground => Text.ofString "enable_background"
  | backgroundColor => Text.ofString "background_color"
  | backgroundOpacity => Text.ofString "background_opacity"
  | textColor => Text.ofString "text_color"

/-- The value of a setting of the decoration. -/
def DecorationSettings.value (s : DecorationSettings) : DecorationSetting → Scalar
  | .enableBackground => .boolean s.enableBackground
  | .backgroundColor => .text s.backgroundColor
  | .backgroundOpacity => .number s.backgroundOpacity
  | .textColor => .text s.textColor

/-- What a settings file may hold at its root: two settings, and the mapping of the decoration. -/
inductive RootSetting where
  | enabled
  | strategy
  | decoration
deriving DecidableEq, Repr

/-- The key at the root. -/
def RootSetting.name : RootSetting → Text
  | enabled => Text.ofString "enabled"
  | strategy => Text.ofString "strategy"
  | decoration => Text.ofString "decoration"

/-- One of the settings. -/
inductive Setting where
  | enabled
  | strategy
  | decoration (k : DecorationSetting)
deriving DecidableEq, Repr

/-- The value of a setting. -/
def Settings.value (s : Settings) : Setting → Scalar
  | .enabled => .boolean s.enabled
  | .strategy => .text s.strategy.name
  | .decoration k => s.decoration.value k

/-- Settings with the same values are the same. -/
theorem Settings.eq_of_value_eq {s s' : Settings} (h : ∀ k, s.value k = s'.value k) : s = s' := by
  obtain ⟨enabled, strategy, decoration⟩ := s
  obtain ⟨enabled', strategy', decoration'⟩ := s'
  have hvalues (k : DecorationSetting) : decoration.value k = decoration'.value k :=
    h (.decoration k)
  have hdecoration : decoration = decoration' := by
    obtain ⟨background, color, opacity, text⟩ := decoration
    obtain rfl := Scalar.boolean.inj (hvalues .enableBackground)
    obtain rfl := Scalar.text.inj (hvalues .backgroundColor)
    obtain rfl := Scalar.number.inj (hvalues .backgroundOpacity)
    obtain rfl := Scalar.text.inj (hvalues .textColor)
    rfl
  obtain rfl := Scalar.boolean.inj (h .enabled)
  have hname : strategy.name = strategy'.name := Scalar.text.inj (h .strategy)
  have hstrategy : strategy = strategy' := by
    cases strategy <;> cases strategy' <;> first | rfl | cases hname
  rw [hdecoration, hstrategy]

theorem DecorationSetting.name_inj {k l : DecorationSetting} : k.name = l.name ↔ k = l := by
  cases k <;> cases l <;> decide

theorem RootSetting.name_inj {k l : RootSetting} : k.name = l.name ↔ k = l := by
  cases k <;> cases l <;> decide

/-- **`Given name`** -- an entry of a mapping whose settings have these names: one of the settings,
or a scalar under a plain key that is the name of none. -/
inductive Given {κ : Type} (name : κ → Text) where
  | setting (k : κ)
  | other (key : Text) (value : Scalar) (isKey : Layout.isKey key = true)
      (noName : ∀ k, key ≠ name k)

namespace Given

variable {κ : Type} {name : κ → Text}

/-- The key of the entry. -/
def key : Given name → Text
  | setting k => name k
  | other key .. => key

/-- The entry in a mapping indented by `indent`, when the settings have these values. -/
def entry (indent : Nat) (value : κ → Scalar) : Given name → Entry
  | setting k => (value k).entry indent (name k)
  | other key v .. => v.entry indent key

theorem key_entry (indent : Nat) (value : κ → Scalar) (g : Given name) :
    (g.entry indent value).key = g.key := by
  cases g <;> rfl

theorem entry_stands (hname : ∀ k, Layout.isKey (name k) = true) (indent : Nat)
    (value : κ → Scalar) (g : Given name) : (g.entry indent value).Stands indent := by
  cases g with
  | setting k => exact (value k).entry_stands indent (hname k)
  | other key v hkey => exact v.entry_stands indent hkey

/-- A setting is in the mapping if its name is among the keys. -/
theorem setting_mem_iff (hinj : ∀ k l, name k = name l → k = l) {gs : List (Given name)} {k : κ} :
    setting k ∈ gs ↔ name k ∈ gs.map key := by
  constructor
  · intro h
    exact List.mem_map.2 ⟨setting k, h, rfl⟩
  · intro h
    obtain ⟨g, hg, hkey⟩ := List.mem_map.1 h
    cases g with
    | setting l =>
      obtain rfl := hinj l k hkey
      exact hg
    | other key v hkey' hno => exact absurd hkey (hno k)

end Given

/-- **A settings file** with some of the settings and any other entries, in any order. No key is
there twice, and the mapping of the decoration is only there for one of its settings. -/
structure SettingsFile where
  root : List (Given RootSetting.name)
  /-- What is in the mapping of the decoration, if that is at the root. -/
  decoration : List (Given DecorationSetting.name)
  root_nodup : (root.map Given.key).Nodup
  decoration_nodup : (decoration.map Given.key).Nodup
  /-- The mapping of the decoration holds one of its settings. -/
  decoration_gives : .setting .decoration ∈ root → ∃ k, .setting k ∈ decoration

namespace SettingsFile

/-- The item of an entry at the root, when the settings are `s`. -/
def item (f : SettingsFile) (s : Settings) : Given RootSetting.name → Item
  | .setting .enabled => .entry ((s.value .enabled).entry 0 RootSetting.enabled.name)
  | .setting .strategy => .entry ((s.value .strategy).entry 0 RootSetting.strategy.name)
  | .setting .decoration => .mapping RootSetting.decoration.name
      (f.decoration.map (Given.entry indentStep s.decoration.value))
  | .other key v .. => .entry (v.entry 0 key)

/-- The text of the file for the settings `s`. A mapping without entries is a pair of braces. -/
def write (f : SettingsFile) (s : Settings) : Text :=
  if f.root.isEmpty then Text.ofString "\x7b\x7d\n"
  else writeItems indentStep (f.root.map (f.item s))

/-- The file gives a setting. -/
def Gives (f : SettingsFile) : Setting → Prop
  | .enabled => .setting .enabled ∈ f.root
  | .strategy => .setting .strategy ∈ f.root
  | .decoration k => .setting .decoration ∈ f.root ∧ .setting k ∈ f.decoration

end SettingsFile

/-! ## §D What is read -/

namespace Settings

variable {d : Document} {path : KeyPath} {m : Mark}

theorem readBoolean_word (b : Bool) :
    readBoolean d path
      (.scalar m none none .plain (Text.ofString (if b then "true" else "false"))) = .ok b := by
  cases b <;> rfl

theorem readText_scalar (style : ScalarStyle) (t : Text) (expected : Expected) :
    readText d path expected (.scalar m none none style t) = .ok t := rfl

theorem readStrategy_name (style : ScalarStyle) (kind : StrategyKind) :
    readStrategy d path (.scalar m none none style kind.name) = .ok kind := by
  cases kind <;> rfl

theorem readNumber_float {t : Text} {x : Binary64} (h : float? t = some x) :
    readNumber d path (.scalar m none none .plain t) = .ok x := by
  simp [readNumber, follow, maySpell, h]

theorem readEntries_cons {σ : Type} {cut : Bool} {read : ReadSetting σ} {s s' : σ} {name : Text}
    {style : ScalarStyle} {value : Node} {rest : List Node}
    (h : read s name (path ++ [some name]) (some value) = .ok s') :
    readEntries d path cut read (.scalar m none none style name :: value :: rest) s =
      readEntries d path cut read rest s' := by
  simp only [readEntries, readText_scalar, bind, Except.bind, keyStep, h]

theorem readMapping_collection {σ : Type} {expected : Expected} {read : ReadSetting σ} {start s : σ}
    {children : List Node} (h : readEntries d path false read children start = .ok s) :
    readMapping d path expected read start (.collection m none none .mapping children false) =
      .ok s := by
  have hfollow : follow d (.collection m none none .mapping children false) =
      .collection m none none .mapping children false := rfl
  rw [readMapping, hfollow]
  simp only [h]
  rfl

theorem once_of_none {α : Type} {name : Text} {n : Node} {read : Node → Except Problem α} {a : α}
    (h : read n = .ok a) : once d name none (some n) read = .ok (some a) := by
  rw [once, h]
  rfl

/-- **All entries of a mapping.** If what is known depends on the keys that were read, and one more
entry is one more key, then all of them are all keys. -/
theorem readEntries_known {σ α : Type} {key : α → Text} {Value : α → Node → Prop}
    {read : ReadSetting σ} {known : List Text → σ} {as : List α}
    (hread : ∀ a ∈ as, ∀ keys, key a ∉ keys → ∀ v, Value a v → ∀ path,
      read (known keys) (key a) path (some v) = .ok (known (key a :: keys)))
    {nodes : List Node} (hnodes : Spells key Value as nodes) (hnodup : (as.map key).Nodup)
    {keys : List Text} (hfresh : ∀ a ∈ as, key a ∉ keys) :
    readEntries d path false read nodes (known keys) =
      .ok (known ((as.map key).reverse ++ keys)) := by
  induction hnodes generalizing keys with
  | nil => rfl
  | @cons a as v nodes m hv _ ih =>
    obtain ⟨hnot, hnodup⟩ := List.nodup_cons.1 hnodup
    have hfirst := hread a (List.mem_cons_self ..) keys (hfresh a (List.mem_cons_self ..)) v hv
    rw [readEntries_cons (hfirst _), ih (fun b hb => hread b (List.mem_cons_of_mem a hb)) hnodup,
      List.map_cons, List.reverse_cons, List.append_assoc]
    · rfl
    · intro b hb hmem
      rcases List.mem_cons.1 hmem with heq | hmem
      · exact hnot (heq ▸ List.mem_map_of_mem hb)
      · exact hfresh b (List.mem_cons_of_mem a hb) hmem

namespace PartialDecoration

/-- What is known of the decoration when the keys were read. -/
def known (s : DecorationSettings) (keys : List Text) : PartialDecoration where
  enableBackground :=
    if DecorationSetting.enableBackground.name ∈ keys then some s.enableBackground else none
  backgroundColor :=
    if DecorationSetting.backgroundColor.name ∈ keys then some s.backgroundColor else none
  backgroundOpacity :=
    if DecorationSetting.backgroundOpacity.name ∈ keys then some s.backgroundOpacity else none
  textColor := if DecorationSetting.textColor.name ∈ keys then some s.textColor else none

variable {s : DecorationSettings} {keys : List Text} {v : Node}

/-- One more setting of the decoration. -/
theorem read_setting (hopacity : float? s.backgroundOpacity.scientific = some s.backgroundOpacity)
    (k : DecorationSetting) (hfresh : k.name ∉ keys)
    (hv : ((s.value k).entry indentStep k.name).Value v) :
    read d (known s keys) k.name path (some v) = .ok (known s (k.name :: keys)) := by
  obtain ⟨m, rfl⟩ := hv
  cases k with
  | enableBackground =>
    have hnone : (known s keys).enableBackground = none := if_neg hfresh
    change read d (known s keys) (Text.ofString "enable_background") path
      (some (.scalar m none none .plain
        (Text.ofString (if s.enableBackground then "true" else "false")))) = _
    rw [read, if_pos rfl, hnone, once_of_none (readBoolean_word s.enableBackground)]
    simp [known, DecorationSetting.name_inj, bind, Except.bind]
  | backgroundColor =>
    have hnone : (known s keys).backgroundColor = none := if_neg hfresh
    change read d (known s keys) (Text.ofString "background_color") path
      (some (.scalar m none none (styleOf s.backgroundColor) s.backgroundColor)) = _
    rw [read, if_neg (by decide), if_pos rfl, hnone, once_of_none (readText_scalar _ _ .text)]
    simp [known, DecorationSetting.name_inj, bind, Except.bind]
  | backgroundOpacity =>
    have hnone : (known s keys).backgroundOpacity = none := if_neg hfresh
    change read d (known s keys) (Text.ofString "background_opacity") path
      (some (.scalar m none none .plain s.backgroundOpacity.scientific)) = _
    rw [read, if_neg (by decide), if_neg (by decide), if_pos rfl, hnone,
      once_of_none (readNumber_float hopacity)]
    simp [known, DecorationSetting.name_inj, bind, Except.bind]
  | textColor =>
    have hnone : (known s keys).textColor = none := if_neg hfresh
    change read d (known s keys) (Text.ofString "text_color") path
      (some (.scalar m none none (styleOf s.textColor) s.textColor)) = _
    rw [read, if_neg (by decide), if_neg (by decide), if_neg (by decide), if_pos rfl, hnone,
      once_of_none (readText_scalar _ _ .text)]
    simp [known, DecorationSetting.name_inj, bind, Except.bind]

/-- **One more entry** of the decoration is one more key. -/
theorem read_known (hopacity : float? s.backgroundOpacity.scientific = some s.backgroundOpacity)
    (g : Given DecorationSetting.name) (hfresh : g.key ∉ keys)
    (hv : (g.entry indentStep s.value).Value v) :
    read d (known s keys) g.key path (some v) = .ok (known s (g.key :: keys)) := by
  cases g with
  | setting k => exact read_setting hopacity k hfresh hv
  | other key w hkey hno =>
    have hsame : known s (key :: keys) = known s keys := by
      simp [known, (hno _).symm]
    have hnames : key ≠ Text.ofString "enable_background" ∧ key ≠ Text.ofString "background_color" ∧
        key ≠ Text.ofString "background_opacity" ∧ key ≠ Text.ofString "text_color" :=
      ⟨hno .enableBackground, hno .backgroundColor, hno .backgroundOpacity, hno .textColor⟩
    change read d (known s keys) key path (some v) = .ok (known s (key :: keys))
    simp only [hsame, read, hnames, if_false]

/-- Settings of the decoration whose keys were not read have their defaults. -/
theorem value_complete_known (s : DecorationSettings) (keys : List Text) (k : DecorationSetting) :
    (known s keys).complete.value k =
      if k.name ∈ keys then s.value k else DecorationSettings.default.value k := by
  cases k
  all_goals
    simp only [known, complete, DecorationSettings.value]
    split <;> rfl

end PartialDecoration

namespace PartialSettings

/-- What is known when the keys were read and the mapping of the decoration gives `inner`. -/
def known (s : Settings) (inner : DecorationSettings) (keys : List Text) : PartialSettings where
  enabled := if RootSetting.enabled.name ∈ keys then some s.enabled else none
  strategy := if RootSetting.strategy.name ∈ keys then some s.strategy else none
  decoration := if RootSetting.decoration.name ∈ keys then some inner else none

/-- Settings whose keys were not read have their defaults. -/
theorem value_complete_known (s : Settings) (inner : DecorationSettings) (keys : List Text)
    (k : Setting) :
    (known s inner keys).complete.value k = match k with
      | .enabled => if RootSetting.enabled.name ∈ keys then s.value k else default.value k
      | .strategy => if RootSetting.strategy.name ∈ keys then s.value k else default.value k
      | .decoration l =>
        if RootSetting.decoration.name ∈ keys then inner.value l else default.value k := by
  cases k
  all_goals
    simp only [known, complete, Settings.value]
    split <;> rfl

variable {s : Settings} {f : SettingsFile} {keys : List Text} {v : Node}
  (hopacity : float? s.decoration.backgroundOpacity.scientific =
    some s.decoration.backgroundOpacity)
include hopacity

/-- The mapping of the decoration. -/
theorem readMapping_decoration {nodes : List Node}
    (hnodes : Spells Entry.key Entry.Value
      (f.decoration.map (Given.entry indentStep s.decoration.value)) nodes) :
    readMapping d path .decoration (PartialDecoration.read d) .empty
        (.collection m none none .mapping nodes false) =
      .ok (.known s.decoration (f.decoration.map Given.key).reverse) := by
  have hkeys : (f.decoration.map (Given.entry indentStep s.decoration.value)).map Entry.key =
      f.decoration.map Given.key := by
    rw [List.map_map]
    exact List.map_congr_left fun g _ => g.key_entry indentStep s.decoration.value
  have hread : readEntries d path false (PartialDecoration.read d) nodes
      (.known s.decoration []) = .ok (.known s.decoration (((f.decoration.map
        (Given.entry indentStep s.decoration.value)).map Entry.key).reverse ++ [])) := by
    refine readEntries_known ?_ hnodes (hkeys ▸ f.decoration_nodup) (by simp)
    intro e he keys hfresh v hv path
    obtain ⟨g, -, rfl⟩ := List.mem_map.1 he
    rw [g.key_entry] at hfresh ⊢
    exact PartialDecoration.read_known hopacity g hfresh hv
  rw [hkeys, List.append_nil] at hread
  exact readMapping_collection hread

/-- **One more entry** at the root is one more key. -/
theorem read_known {inner : DecorationSettings}
    (hinner : inner =
      (PartialDecoration.known s.decoration (f.decoration.map Given.key).reverse).complete)
    (g : Given RootSetting.name) (hfresh : g.key ∉ keys) (hv : (f.item s g).Value v) :
    read d (known s inner keys) g.key path (some v) = .ok (known s inner (g.key :: keys)) := by
  cases g with
  | setting k =>
    cases k with
    | enabled =>
      obtain ⟨⟨m, rfl⟩⟩ := hv
      have hnone : (known s inner keys).enabled = none := if_neg hfresh
      change read d (known s inner keys) (Text.ofString "enabled") path
        (some (.scalar m none none .plain
          (Text.ofString (if s.enabled then "true" else "false")))) = _
      rw [read, if_pos rfl, hnone, once_of_none (readBoolean_word s.enabled)]
      simp [known, Given.key, RootSetting.name_inj, bind, Except.bind]
    | strategy =>
      obtain ⟨⟨m, rfl⟩⟩ := hv
      have hnone : (known s inner keys).strategy = none := if_neg hfresh
      change read d (known s inner keys) (Text.ofString "strategy") path
        (some (.scalar m none none (styleOf s.strategy.name) s.strategy.name)) = _
      rw [read, if_neg (by decide), if_pos rfl, hnone, once_of_none (readStrategy_name _ _)]
      simp [known, Given.key, RootSetting.name_inj, bind, Except.bind]
    | decoration =>
      have hnone : (known s inner keys).decoration = none := if_neg hfresh
      cases hv with
      | mapping m hchildren =>
        change read d (known s inner keys) (Text.ofString "decoration") path
          (some (.collection m none none .mapping _ false)) = _
        rw [read, if_neg (by decide), if_neg (by decide), if_pos rfl, hnone,
          once_of_none (a := inner)
            (by rw [readMapping_decoration hopacity hchildren, hinner]; rfl)]
        simp [known, Given.key, RootSetting.name_inj, bind, Except.bind]
  | other key w hkey hno =>
    have hsame : known s inner (key :: keys) = known s inner keys := by
      simp [known, (hno _).symm]
    have hnames : key ≠ Text.ofString "enabled" ∧ key ≠ Text.ofString "strategy" ∧
        key ≠ Text.ofString "decoration" := ⟨hno .enabled, hno .strategy, hno .decoration⟩
    change read d (known s inner keys) key path (some v) = .ok (known s inner (key :: keys))
    simp only [hsame, read, hnames, if_false]

/-- The mapping at the root. -/
theorem readMapping_root {nodes : List Node}
    (hnodes : Spells Item.key Item.Value (f.root.map (f.item s)) nodes) :
    readMapping d path .settings (PartialSettings.read d) .empty
        (.collection m none none .mapping nodes false) =
      .ok (known s (PartialDecoration.known s.decoration
        (f.decoration.map Given.key).reverse).complete (f.root.map Given.key).reverse) := by
  have hkey (g : Given RootSetting.name) : (f.item s g).key = g.key := by
    cases g with
    | setting k => cases k <;> rfl
    | other => rfl
  have hkeys : (f.root.map (f.item s)).map Item.key = f.root.map Given.key := by
    rw [List.map_map]
    exact List.map_congr_left fun g _ => hkey g
  generalize hinner : (PartialDecoration.known s.decoration
    (f.decoration.map Given.key).reverse).complete = inner
  have hread : readEntries d path false (PartialSettings.read d) nodes (known s inner []) =
      .ok (known s inner (((f.root.map (f.item s)).map Item.key).reverse ++ [])) := by
    refine readEntries_known ?_ hnodes (hkeys ▸ f.root_nodup) (by simp)
    intro i hi keys hfresh v hv path
    obtain ⟨g, -, rfl⟩ := List.mem_map.1 hi
    rw [hkey] at hfresh ⊢
    exact read_known hopacity hinner.symm g hfresh hv
  rw [hkeys, List.append_nil] at hread
  exact readMapping_collection hread

end PartialSettings

end Settings

/-! ## §E Files -/

namespace SettingsFile

theorem isKey_name_decoration (k : DecorationSetting) : Layout.isKey k.name = true := by
  cases k <;> decide

/-- Every item of a file can be read. -/
theorem item_stands (f : SettingsFile) (s : Settings) {g : Given RootSetting.name}
    (hg : g ∈ f.root) : (f.item s g).Stands indentStep := by
  cases g with
  | setting k =>
    cases k with
    | enabled => exact .entry ((s.value .enabled).entry_stands 0 (by decide))
    | strategy => exact .entry ((s.value .strategy).entry_stands 0 (by decide))
    | decoration =>
      obtain ⟨k, hk⟩ := f.decoration_gives hg
      refine .mapping (by decide) (by decide) ?_ ?_
      · simpa using List.ne_nil_of_mem hk
      · intro e he
        obtain ⟨g, -, rfl⟩ := List.mem_map.1 he
        exact g.entry_stands isKey_name_decoration indentStep s.decoration.value
  | other key v hkey => exact .entry (v.entry_stands 0 hkey)

/-- An item is not blank, since a colon is in it. -/
theorem colon_mem_write (inner : Nat) (i : Item) : ':' ∈ i.write inner := by
  cases i with
  | entry e =>
    rw [Item.write, writeKeyed]
    split <;> simp [writeEntry]
  | mapping key es => simp [Item.write]

/-- The file without entries holds an empty mapping. -/
theorem ofText_braces : Settings.ofText (Text.ofString "\x7b\x7d\n") = .ok Settings.default := by
  have htokens : Tokens.ofText (Text.ofString "\x7b\x7d\n") =
      ⟨[⟨.flowMappingStart, .origin, ⟨1, 0, 1⟩⟩, ⟨.flowMappingEnd, ⟨1, 0, 1⟩, ⟨2, 0, 2⟩⟩,
        ⟨.streamEnd, ⟨3, 1, 0⟩, ⟨3, 1, 0⟩⟩], none⟩ := by decide +kernel
  have haccepted : (Text.ofString "\x7b\x7d\n").all isAccepted = true := by decide
  have hdocument : Document.ofText (Text.ofString "\x7b\x7d\n") =
      .ofEvents (.ofTokens (.ofText (Text.ofString "\x7b\x7d\n"))) :=
    Document.ofText_eq (by decide) (List.all_eq_true.1 haccepted)
  rw [Settings.ofText, if_neg (by decide), hdocument, htokens]
  rfl

theorem isBlank_writeItems {is : List Item} (hne : is ≠ []) (inner : Nat) :
    Text.isBlank (writeItems inner is) = false := by
  obtain ⟨i, is, rfl⟩ := List.exists_cons_of_ne_nil hne
  have hcolon : ':' ∈ writeItems inner (i :: is) :=
    List.mem_flatMap.2 ⟨i, List.mem_cons_self .., colon_mem_write inner i⟩
  rw [Text.isBlank, List.all_eq_false]
  exact ⟨':', hcolon, by decide⟩

/-- **Files are read.** What they give is as in the settings, and the rest is as by default. -/
theorem ofText_write {s : Settings} (hopacity : float? s.decoration.backgroundOpacity.scientific =
    some s.decoration.backgroundOpacity) (f : SettingsFile) :
    ∃ merged, Settings.ofText (f.write s) = .ok merged ∧ ∀ k,
      (f.Gives k → merged.value k = s.value k) ∧
        (¬ f.Gives k → merged.value k = Settings.default.value k) := by
  by_cases hempty : f.root = []
  · refine ⟨Settings.default, ?_, fun k => ⟨fun hgives => ?_, fun _ => rfl⟩⟩
    · rw [write, hempty]
      exact ofText_braces
    · cases k <;> simp [Gives, hempty] at hgives
  · have hne : f.root.map (f.item s) ≠ [] := by simpa using hempty
    have hwrite : f.write s = writeItems indentStep (f.root.map (f.item s)) := by
      rw [write, if_neg (by simpa using hempty)]
    obtain ⟨m, nodes, hnodes, hdocument⟩ := isDocument_ofText hne (show 0 < indentStep by decide)
      (by
        intro i hi
        obtain ⟨g, hg, rfl⟩ := List.mem_map.1 hi
        exact f.item_stands s hg)
    have hroot (k : RootSetting) :
        k.name ∈ (f.root.map Given.key).reverse ↔ .setting k ∈ f.root := by
      rw [List.mem_reverse, Given.setting_mem_iff fun _ _ => RootSetting.name_inj.1]
    have hdecoration (k : DecorationSetting) :
        k.name ∈ (f.decoration.map Given.key).reverse ↔ .setting k ∈ f.decoration := by
      rw [List.mem_reverse, Given.setting_mem_iff fun _ _ => DecorationSetting.name_inj.1]
    refine ⟨(Settings.PartialSettings.known s (Settings.PartialDecoration.known s.decoration
      (f.decoration.map Given.key).reverse).complete (f.root.map Given.key).reverse).complete,
      ?_, fun k => ?_⟩
    · rw [Settings.ofText, if_neg (by rw [hwrite, isBlank_writeItems hne]; simp), hwrite, hdocument]
      simp only [Settings.ofDocument, Settings.PartialSettings.readMapping_root hopacity hnodes,
        bind, Except.bind]
      rfl
    · rw [Settings.PartialSettings.value_complete_known]
      cases k with
      | enabled => exact ⟨fun h => if_pos ((hroot _).2 h), fun h => if_neg (mt (hroot _).1 h)⟩
      | strategy => exact ⟨fun h => if_pos ((hroot _).2 h), fun h => if_neg (mt (hroot _).1 h)⟩
      | decoration k =>
        simp only [Settings.PartialDecoration.value_complete_known]
        refine ⟨fun h => ?_, fun h => ?_⟩
        · rw [if_pos ((hroot _).2 h.1), if_pos ((hdecoration k).2 h.2)]
          rfl
        · by_cases hmapping : .setting .decoration ∈ f.root
          · rw [if_pos ((hroot _).2 hmapping),
              if_neg (mt (hdecoration k).1 fun hk => h ⟨hmapping, hk⟩)]
            rfl
          · rw [if_neg (mt (hroot _).1 hmapping)]

end SettingsFile

/-- The negative number next to zero. -/
def Binary64.greatestNegative : Binary64 :=
  .finite true ⟨1, minExponent, by decide, le_refl _, .inr rfl⟩ (by decide)

/-- A file with two settings of the decoration before the strategy, and with other entries: one has
a key that takes a question mark, and one the name of a setting that has its place elsewhere. -/
def SettingsFile.mixed : SettingsFile where
  root := [.other (List.replicate 129 'k') (.text (Text.ofString "1\n")) (by decide +kernel)
      (by intro k; cases k <;> decide +kernel),
    .setting .decoration, .setting .strategy]
  decoration := [.setting .textColor,
    .other (Text.ofString "enabled") .null (by decide) (by intro k; cases k <;> decide),
    .setting .backgroundOpacity]
  root_nodup := by decide +kernel
  decoration_nodup := by decide
  decoration_gives _ := ⟨.textColor, .head _⟩

end RtlLiterals
