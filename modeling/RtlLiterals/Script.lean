import RtlLiterals.Text.Basic

/-!
# RtlLiterals.Script -- which characters are Arabic script

A character is Arabic when its code point lies in one of five blocks of the Basic Multilingual
Plane, and a text is Arabic when it holds at least one such character. Nothing is normalised or
trimmed first, so the empty text is not Arabic.

## §A What is recorded

`arabicRanges` is the whole table; `isArabicChar` and `hasArabic` are defined from it, and
`isArabicChar_iff` and `hasArabic_iff` say what they decide.
-/

namespace RtlLiterals

/-- A block of code points, both ends included. -/
structure CodeRange where
  first : Nat
  /-- The greatest code point of the block. -/
  last : Nat
deriving DecidableEq, Repr

/-- A code point lies between the two ends. -/
def CodeRange.contains (r : CodeRange) (code : Nat) : Bool := r.first ≤ code && code ≤ r.last

/-- The blocks treated as Arabic script: Arabic, Arabic Supplement, Arabic Extended-A and the two
blocks of presentation forms. -/
def arabicRanges : List CodeRange :=
  [⟨0x0600, 0x06FF⟩, ⟨0x0750, 0x077F⟩, ⟨0x08A0, 0x08FF⟩, ⟨0xFB50, 0xFDFF⟩, ⟨0xFE70, 0xFEFF⟩]

/-- The character lies in one of the Arabic blocks. -/
def isArabicChar (c : Char) : Bool := arabicRanges.any (·.contains c.toNat)

/-- The text holds an Arabic character. -/
def hasArabic (t : Text) : Bool := t.any isArabicChar

/-! ### What the two tests decide -/

theorem isArabicChar_iff {c : Char} :
    isArabicChar c = true ↔ ∃ r ∈ arabicRanges, r.first ≤ c.toNat ∧ c.toNat ≤ r.last := by
  simp [isArabicChar, CodeRange.contains]

theorem hasArabic_iff {t : Text} : hasArabic t = true ↔ ∃ c ∈ t, isArabicChar c = true := by
  simp [hasArabic]

/-! ### Runs of Arabic code points -/

/-- The code points from `first` to `last` that are characters: surrogates are not. -/
def scalarsBetween (first last : Nat) : List Nat :=
  (List.range' first (last + 1 - first)).filter fun code => code.isValidChar

/-- Adds a code point to the runs found so far, the newest run first: it extends the newest run
when it follows it directly, and opens a run otherwise. -/
def extendRuns (runs : List CodeRange) (code : Nat) : List CodeRange :=
  match runs with
  | [] => [⟨code, code⟩]
  | r :: rest => if r.last + 1 = code then ⟨r.first, code⟩ :: rest else ⟨code, code⟩ :: r :: rest

/-- The maximal runs of Arabic code points between `first` and `last`, in ascending order. -/
def arabicRuns (first last : Nat) : List CodeRange :=
  (((scalarsBetween first last).filter fun code => isArabicChar (Char.ofNat code)).foldl
    extendRuns []).reverse

end RtlLiterals
