import Mathlib.Data.List.TakeWhile
import RtlLiterals.Language
import RtlLiterals.Proofs.Path.Components

/-!
# RtlLiterals.Proofs.Language.Detection -- which paths have a language

The language of a path is that of the extension of its last component. Here this is said of the text
of the path alone: separators and parts `.` at its end are dropped, the last component is what
follows the last separator then, and it has to be a stem, a dot and an extension without a dot
(`Path.extension?_eq_some_iff`). Extensions are compared without regard to the case of ASCII
letters. The two characters outside ASCII whose lower case holds ASCII letters are no exception,
since neither letter stands in an extension.
-/

namespace RtlLiterals

namespace Path

/-! ## §A Components -/

theorem steps_append_slash (p q : Path) : steps (p ++ '/' :: q) = steps p ++ steps q := by
  rw [steps, split_append_slash, List.filter_append]
  rfl

theorem steps_of_notMem {p : Path} (h : '/' ∉ p) :
    steps p = if p = [] ∨ p = ['.'] then [] else [p] := by
  rw [steps, split_of_notMem h]
  by_cases hempty : p = []
  · simp [hempty]
  · by_cases hdot : p = ['.'] <;> simp [hempty, hdot]

/-! ## §B The last component -/

/-- A path that is written backwards, without the separators and the parts `.` at its end. -/
def dropTrailer : Text → Text
  | '/' :: t => dropTrailer t
  | '.' :: '/' :: t => dropTrailer t
  | t => t

/-- **`lastName p`** -- what follows the last separator of a path, when `/` and `/.` are dropped
from its end as often as they stand there. -/
def lastName (p : Path) : Text := ((dropTrailer p.reverse).takeWhile (· != '/')).reverse

/-- The first part of a text, up to a character, does not hold it; that part is all of the text, or
the character follows it. -/
theorem takeWhile_ne_cases (d : Char) (t : Text) :
    d ∉ t.takeWhile (· != d) ∧
      (t.takeWhile (· != d) = t ∨ ∃ rest, t = t.takeWhile (· != d) ++ d :: rest) := by
  constructor
  · intro hmem
    simpa using List.mem_takeWhile_imp hmem
  · have hparts := List.takeWhile_append_dropWhile (p := (· != d)) (l := t)
    cases hdrop : t.dropWhile (· != d) with
    | nil =>
      rw [hdrop, List.append_nil] at hparts
      exact .inl hparts
    | cons c rest =>
      have hc : c = d := by
        have hhead := List.head?_dropWhile_not (· != d) t
        rw [hdrop] at hhead
        simpa using hhead
      rw [hdrop, hc] at hparts
      exact .inr ⟨rest, hparts.symm⟩

theorem getLast?_steps_reverse (t : Text) :
    (steps t.reverse).getLast? =
      let name := ((dropTrailer t).takeWhile (· != '/')).reverse
      if name = [] ∨ name = ['.'] then none else some name := by
  fun_induction dropTrailer t with
  | case1 t ih =>
    rw [List.reverse_cons, steps_append_slash, ← ih]
    simp [steps_of_notMem]
  | case2 t ih =>
    rw [List.reverse_cons, List.reverse_cons, List.append_assoc, List.singleton_append,
      steps_append_slash, ← ih]
    simp [steps_of_notMem]
  | case3 t hslash hdot =>
    obtain ⟨hnotMem, hall | ⟨rest, hrest⟩⟩ := takeWhile_ne_cases '/' t
    · rw [hall] at hnotMem ⊢
      rw [steps_of_notMem (by simpa using hnotMem)]
      split <;> simp_all
    · -- Behind the last separator there is a name, since neither `/` nor `/.` stands at the end.
      generalize t.takeWhile (· != '/') = name at hnotMem hrest ⊢
      have hempty : name.reverse ≠ [] := by
        intro hname
        rw [List.reverse_eq_nil_iff.1 hname] at hrest
        exact hslash rest hrest
      have hone : name.reverse ≠ ['.'] := by
        intro hname
        rw [List.reverse_eq_iff.1 hname] at hrest
        exact hdot rest hrest
      rw [hrest, List.reverse_append, List.reverse_cons, List.append_assoc, List.singleton_append,
        steps_append_slash, steps_of_notMem (p := name.reverse) (by simpa using hnotMem)]
      simp [hempty, hone]

theorem fileName?_eq (p : Path) :
    fileName? p = if lastName p = [] ∨ lastName p = ['.'] ∨ lastName p = ['.', '.'] then none
      else some (lastName p) := by
  have hlast := getLast?_steps_reverse p.reverse
  rw [List.reverse_reverse] at hlast
  change (steps p).getLast? =
    if lastName p = [] ∨ lastName p = ['.'] then none else some (lastName p) at hlast
  rw [fileName?, hlast]
  by_cases hnone : lastName p = [] ∨ lastName p = ['.']
  · rw [if_pos hnone, if_pos (hnone.imp_right .inl)]
  · rw [if_neg hnone]
    obtain ⟨hempty, hdot⟩ := not_or.1 hnone
    simp [hempty, hdot]

/-! ## §C The extension -/

/-- **`HasExtension name ext`** -- the name is a stem, which is not empty, a dot and the extension,
which holds no dot. -/
def HasExtension (name ext : Text) : Prop :=
  ∃ stem, stem ≠ [] ∧ name = stem ++ '.' :: ext ∧ '.' ∉ ext

theorem takeWhile_dot {stem ext : Text} (h : '.' ∉ ext) :
    ((stem ++ '.' :: ext).reverse.takeWhile (· != '.')).reverse = ext := by
  have hall : ∀ c ∈ ext.reverse, (c != '.') = true := by
    intro c hc
    rw [bne_iff_ne]
    rintro rfl
    exact h (List.mem_reverse.1 hc)
  rw [List.reverse_append, List.reverse_cons, List.append_assoc,
    List.takeWhile_append_of_pos hall]
  simp

theorem extensionOfName_eq_some_iff {name ext : Text} :
    extensionOfName name = some ext ↔ HasExtension name ext := by
  rw [extensionOfName]
  constructor
  · intro h
    obtain ⟨hlength, hext⟩ := Option.ite_none_right_eq_some.1 h
    obtain rfl := Option.some.inj hext
    obtain ⟨hnotMem, hall | ⟨before, hbefore⟩⟩ := takeWhile_ne_cases '.' name.reverse
    · rw [hall, List.reverse_reverse] at hlength
      omega
    · -- What is longer than the extension and its dot has a stem.
      generalize name.reverse.takeWhile (· != '.') = ext at hlength hnotMem hbefore ⊢
      obtain rfl := List.reverse_eq_iff.1 hbefore
      refine ⟨before.reverse, ?_, by simp, by simpa using hnotMem⟩
      intro hempty
      rw [List.reverse_eq_nil_iff.1 hempty] at hlength
      simp at hlength
  · rintro ⟨stem, hstem, rfl, hext⟩
    rw [takeWhile_dot hext]
    have hlength : 0 < stem.length := List.length_pos_iff.2 hstem
    rw [if_pos]
    simp only [List.length_append, List.length_cons]
    omega

/-- **The extension of a path** is that of its last component. -/
theorem extension?_eq_some_iff {p : Path} {ext : Text} :
    extension? p = some ext ↔ lastName p ≠ ['.', '.'] ∧ HasExtension (lastName p) ext := by
  rw [extension?, fileName?_eq]
  constructor
  · intro h
    split at h
    · cases h
    case isFalse hname =>
      simp only [not_or] at hname
      exact ⟨hname.2.2, extensionOfName_eq_some_iff.1 h⟩
  · rintro ⟨hup, hname⟩
    rw [if_neg]
    · exact extensionOfName_eq_some_iff.2 hname
    · rintro (h | h | h)
      · obtain ⟨stem, -, heq, -⟩ := hname
        rw [h] at heq
        cases stem <;> cases heq
      · obtain ⟨stem, hstem, heq, -⟩ := hname
        rw [h] at heq
        cases stem with
        | nil => exact hstem rfl
        | cons c stem => cases stem <;> cases heq
      · exact hup h

end Path

/-! ## §D Case -/

namespace Text

/-- **`SameButCase a b`** -- the texts differ at most in the case of ASCII letters. -/
def SameButCase (a b : Text) : Prop := a.map Char.toLower = b.map Char.toLower

instance (a b : Text) : Decidable (SameButCase a b) :=
  inferInstanceAs (Decidable (a.map Char.toLower = b.map Char.toLower))

/-- The two characters whose lower case is more than that of an ASCII letter, and what it holds. -/
def caseExceptions : List Char := ['\u212A', '\u0130', 'k', 'i']

theorem lowerChar_of_notMem {c : Char} (h : c ∉ caseExceptions) : lowerChar c = [c.toLower] := by
  simp only [caseExceptions, List.mem_cons, not_or] at h
  rw [lowerChar, if_neg h.1, if_neg h.2.1]

/-- Among texts without the exceptions, the lower case is that of the ASCII letters. -/
theorem lower_eq_iff {e : Text} (he : ∀ c ∈ e, c ∉ caseExceptions) (t : Text) :
    lower t = e ↔ t.map Char.toLower = e := by
  induction t generalizing e with
  | nil => exact Iff.rfl
  | cons c t ih =>
    rw [lower, List.flatMap_cons, ← lower, List.map_cons]
    -- An exception as the first character would be one in `e`, either way.
    have hno {d : Char} (hd : d ∈ caseExceptions) (u : Text) : d :: u ≠ e := by
      rintro rfl
      exact he d List.mem_cons_self hd
    by_cases hc : c ∈ caseExceptions
    · simp only [caseExceptions, List.mem_cons, List.not_mem_nil, or_false] at hc
      rcases hc with rfl | rfl | rfl | rfl
      · exact iff_of_false (hno (d := 'k') (by decide) _) (hno (d := '\u212A') (by decide) _)
      · exact iff_of_false (hno (d := 'i') (by decide) _) (hno (d := '\u0130') (by decide) _)
      · exact iff_of_false (hno (d := 'k') (by decide) _) (hno (d := 'k') (by decide) _)
      · exact iff_of_false (hno (d := 'i') (by decide) _) (hno (d := 'i') (by decide) _)
    · rw [lowerChar_of_notMem hc, List.singleton_append]
      cases e with
      | nil => simp
      | cons d e =>
        rw [List.cons_eq_cons, List.cons_eq_cons, ih fun x hx => he x (List.mem_cons_of_mem d hx)]

end Text

namespace Language

/-- The extensions that are recognised. -/
def extensionTable : List (Language × Text) :=
  [(.javaScript, Text.ofString "js"), (.javaScript, Text.ofString "mjs"),
    (.javaScript, Text.ofString "cjs"), (.javaScript, Text.ofString "jsx"),
    (.typeScript, Text.ofString "ts"), (.typeScript, Text.ofString "mts"),
    (.typeScript, Text.ofString "cts"), (.tsx, Text.ofString "tsx"), (.rust, Text.ofString "rs")]

theorem mem_extensions_iff {l : Language} {e : Text} :
    e ∈ l.extensions ↔ (l, e) ∈ extensionTable := by
  cases l <;> simp [extensions, extensionTable]

/-- No extension is written with an exception to the case of ASCII letters, or with a capital. -/
theorem lower_of_mem_extensionTable {l : Language} {e : Text} (h : (l, e) ∈ extensionTable) :
    (∀ c ∈ e, c ∉ Text.caseExceptions) ∧ e.map Char.toLower = e := by
  have hall : ∀ entry ∈ extensionTable, entry.2.all (· ∉ Text.caseExceptions) = true ∧
      entry.2.map Char.toLower = entry.2 := by decide
  obtain ⟨hexceptions, hlower⟩ := hall (l, e) h
  refine ⟨fun c hc => ?_, hlower⟩
  exact of_decide_eq_true (List.all_eq_true.1 hexceptions c hc)

/-- Each extension has one language. -/
theorem find?_of_mem_extensionTable {l : Language} {e : Text} (h : (l, e) ∈ extensionTable) :
    all.find? (fun l => l.extensions.contains e) = some l := by
  have hall : ∀ entry ∈ extensionTable,
      all.find? (fun l => l.extensions.contains entry.2) = some entry.1 := by decide
  exact hall (l, e) h

theorem ofExtension_eq_iff {l : Language} {ext : Text} :
    ofExtension ext = l ∧ l ≠ .plainText ↔
      ∃ e, (l, e) ∈ extensionTable ∧ Text.SameButCase ext e := by
  constructor
  · rintro ⟨hext, hl⟩
    have hfind : all.find? (fun l => l.extensions.contains (Text.lower ext)) = some l := by
      rw [ofExtension] at hext
      cases hfound : all.find? (fun l => l.extensions.contains (Text.lower ext)) with
      | none =>
        rw [hfound] at hext
        exact absurd hext.symm hl
      | some found =>
        rw [hfound] at hext
        rw [show found = l from hext]
    have hmem : (l, Text.lower ext) ∈ extensionTable :=
      mem_extensions_iff.1 (by simpa using List.find?_some hfind)
    obtain ⟨hplain, hlower⟩ := lower_of_mem_extensionTable hmem
    refine ⟨Text.lower ext, hmem, ?_⟩
    rw [Text.SameButCase, hlower]
    exact (Text.lower_eq_iff hplain ext).1 rfl
  · rintro ⟨e, hmem, hcase⟩
    obtain ⟨hplain, hlower⟩ := lower_of_mem_extensionTable hmem
    rw [Text.SameButCase, hlower] at hcase
    rw [ofExtension, (Text.lower_eq_iff hplain ext).2 hcase, find?_of_mem_extensionTable hmem]
    refine ⟨rfl, ?_⟩
    rintro rfl
    exact absurd (mem_extensions_iff.2 hmem) List.not_mem_nil

/-- A path without an extension has no language. -/
theorem ofPath_eq_and_ne_iff {p : Path} {l : Language} :
    ofPath p = l ∧ l ≠ .plainText ↔ Path.lastName p ≠ ['.', '.'] ∧
      ∃ ext, Path.HasExtension (Path.lastName p) ext ∧
        ∃ e, (l, e) ∈ extensionTable ∧ Text.SameButCase ext e := by
  rw [ofPath]
  cases hext : Path.extension? p with
  | some ext =>
    obtain ⟨hup, hname⟩ := Path.extension?_eq_some_iff.1 hext
    simp only [ofExtension_eq_iff]
    constructor
    · intro h
      exact ⟨hup, ext, hname, h⟩
    · rintro ⟨-, ext', hname', h⟩
      have hsame := Path.extension?_eq_some_iff.2 ⟨hup, hname'⟩
      rw [hext] at hsame
      rwa [Option.some.inj hsame]
  | none =>
    refine iff_of_false ?_ ?_
    · rintro ⟨rfl, hl⟩
      exact hl rfl
    · rintro ⟨hup, ext, hname, -⟩
      rw [Path.extension?_eq_some_iff.2 ⟨hup, hname⟩] at hext
      cases hext

/-- Characters outside ASCII stand in no extension, whatever their case. -/
theorem lt_of_sameButCase {l : Language} {ext e : Text} (h : (l, e) ∈ extensionTable)
    (hcase : Text.SameButCase ext e) : ∀ c ∈ ext, c.toNat < 128 := by
  intro c hc
  have hall : ∀ entry ∈ extensionTable, entry.2.all (·.toNat < 128) = true := by decide
  by_contra hlarge
  have hlower : c.toLower = c := by
    refine dif_neg ?_
    rintro ⟨-, hle⟩
    have hle : c.toNat ≤ 'Z'.toNat := hle
    have hz : 'Z'.toNat = 90 := rfl
    omega
  rw [Text.SameButCase, (lower_of_mem_extensionTable h).2] at hcase
  refine hlarge (of_decide_eq_true (List.all_eq_true.1 (hall (l, e) h) c ?_))
  rw [← hcase, ← hlower]
  exact List.mem_map_of_mem hc

/-- **Languages of paths.** A path has a language that is not plain text exactly if its last
component, behind which only `/` and `/.` may stand, is not `..` and has a stem and an extension of
this language, in any case of its ASCII letters. A file name whose only dot comes first, one without
a dot, the end `..` and an extension with a character outside ASCII give plain text. -/
theorem ofPath_detects (p : Path) (l : Language) :
    (ofPath p = l ∧ l ≠ .plainText ↔
      Path.lastName p ≠ ['.', '.'] ∧
        ∃ stem ext, Path.lastName p = stem ++ '.' :: ext ∧ stem ≠ [] ∧ '.' ∉ ext ∧
          ∃ e, (l, e) ∈ extensionTable ∧ Text.SameButCase ext e) ∧
      ((∃ name, Path.lastName p = '.' :: name ∧ '.' ∉ name) ∨ '.' ∉ Path.lastName p ∨
        Path.lastName p = ['.', '.'] ∨
        (∃ front ext, Path.lastName p = front ++ '.' :: ext ∧ '.' ∉ ext ∧
          ∃ c ∈ ext, 128 ≤ c.toNat) → ofPath p = .plainText) := by
  constructor
  · rw [ofPath_eq_and_ne_iff]
    refine and_congr_right fun _ => ?_
    constructor
    · rintro ⟨ext, ⟨stem, hstem, hname, hext⟩, hlisted⟩
      exact ⟨stem, ext, hname, hstem, hext, hlisted⟩
    · rintro ⟨stem, ext, hname, hstem, hext, hlisted⟩
      exact ⟨ext, ⟨stem, hstem, hname, hext⟩, hlisted⟩
  · intro hodd
    by_contra hl
    obtain ⟨hup, ext, hname, e, hmem, hcase⟩ := ofPath_eq_and_ne_iff.1 ⟨rfl, hl⟩
    obtain ⟨stem, hstem, heq, hext⟩ := hname
    rcases hodd with ⟨name, hdot, hnotMem⟩ | hnone | hdots |
      ⟨front, ext', heq', hext', c, hc, hlarge⟩
    · rw [hdot] at heq
      obtain ⟨d, stem, rfl⟩ := List.exists_cons_of_ne_nil hstem
      obtain ⟨-, rfl⟩ := List.cons_eq_cons.1 heq
      exact hnotMem (by simp)
    · exact hnone (by simp [heq])
    · exact hup hdots
    · have hsame : ext' = ext := by
        have htaken : ((front ++ '.' :: ext').reverse.takeWhile (· != '.')).reverse = ext' :=
          Path.takeWhile_dot hext'
        rwa [← heq', heq, Path.takeWhile_dot hext, eq_comm] at htaken
      rw [hsame] at hc
      have hsmall := lt_of_sameButCase hmem hcase c hc
      omega

/-- A capital, a directory with a dot and parts `.` behind the name; the Kelvin sign in place of a
letter; a name whose only dot comes first. -/
example :
    ofPath (Text.ofString "/a.rs/b.c.TSx/.//./") = .tsx ∧
      ofPath (Text.ofString "a.m\u212As") = .plainText ∧
      ofPath (Text.ofString "a.ts/.ts") = .plainText := by decide +kernel

end Language

end RtlLiterals
