import RtlLiterals.Proofs.Json.Unambiguous
import RtlLiterals.Report

/-!
# RtlLiterals.Proofs.Report.Objects -- what a report written as JSON denotes

A report written as JSON gives each match an object, over several lines and indented. Whatever the
texts of the matches hold and however large their numbers are, the report is a JSON text with a line
feed behind it, and it denotes the array of the matches and nothing else (`render_json_denotes`).
Each piece of the writer is one rule of the grammar: a character, a number, a member, an object, the
elements of the array.
-/

namespace RtlLiterals

open Json

/-- The value that stands for a match: an object of four members, the line counted from zero. -/
def Match.toJson (m : Match) : Json.Value :=
  .object [(Text.ofString "text", .string m.text), (Text.ofString "line", .number m.line),
    (Text.ofString "start_offset", .number m.start), (Text.ofString "end_offset", .number m.stop)]

namespace Report

/-! ## §A Strings -/

/-- A character below 256 has a code of two digits. -/
theorem unit?_hexDigit {n : Nat} (h : n < 256) :
    unit? '0' '0' (Text.hexDigit false (n / 16)) (Text.hexDigit false (n % 16)) = some n := by
  have hzero : Text.hexValue? '0' = some 0 := by decide
  have hhigh := Text.hexValue?_hexDigit false (n := n / 16) (by omega)
  have hlow := Text.hexValue?_hexDigit false (n := n % 16) (by omega)
  have hvalue : ((0 * 16 + 0) * 16 + n / 16) * 16 + n % 16 = n := by omega
  simp only [unit?, hzero, hhigh, hlow, Option.bind_eq_bind, Option.bind_some, Option.pure_def,
    hvalue]

/-- **One character.** What is written for it denotes it, whichever escape it takes. -/
theorem letter_jsonChar (c : Char) : Letter (jsonChar c) c := by
  have hescape {e d : Char} (h : (e, d) ∈ escapes) (hc : c = d) : Letter ['\\', e] c :=
    .escape (hc ▸ h)
  unfold jsonChar
  split_ifs with hquote hslash hbackspace hformFeed hlineFeed hreturn htab hcontrol
  · exact hescape (by decide) hquote
  · exact hescape (by decide) hslash
  · exact hescape (by decide) hbackspace
  · exact hescape (by decide) hformFeed
  · exact hescape (by decide) hlineFeed
  · exact hescape (by decide) hreturn
  · exact hescape (by decide) htab
  · -- The other control characters are written as codes.
    have hcode := unit?_hexDigit (n := c.toNat) (by omega)
    have hletter := Letter.code hcode c.valid
    rwa [Char.ofNat_toNat] at hletter
  · exact .plain (by omega) hquote hslash

/-- What is written for a text denotes it. -/
theorem letters_flatMap_jsonChar (t : Text) : Letters (t.flatMap jsonChar) t := by
  induction t with
  | nil => exact .nil
  | cons c t ih =>
    rw [List.flatMap_cons]
    exact .cons (letter_jsonChar c) ih

theorem written_jsonString (t : Text) : Written (.value (.string t)) (jsonString t) :=
  .string (letters_flatMap_jsonChar t)

/-! ## §B Numbers -/

/-- No digits of a number are fewer than those that are written for it. -/
theorem length_ofNat_ofDigitChars_le {ds : Text} (hne : ds ≠ [])
    (hds : ∀ c ∈ ds, c.isDigit = true) : (Text.ofNat (Nat.ofDigitChars 10 ds 0)).length ≤ ds.length :=
  (Nat.length_toDigits_le_iff (by decide) (List.length_pos_iff.2 hne)).2 (Text.ofDigitChars_lt hds)

/-- The digits of a number do not start with a zero, unless that is all of them. -/
theorem whole_ofNat (n : Nat) : Whole (Text.ofNat n) := by
  refine ⟨⟨Text.ofNat_ne_nil n, fun c hc => Text.isDigit_of_mem_ofNat hc⟩, ?_⟩
  obtain ⟨c, ds, hds⟩ := List.exists_cons_of_ne_nil (Text.ofNat_ne_nil n)
  rw [hds]
  by_cases hne : ds = []
  · by_cases hc : c = '0'
    · exact .inl (by rw [hc, hne])
    · exact .inr (by simpa using hc)
  · right
    intro hzero
    obtain rfl : c = '0' := by simpa using hzero
    -- The digits behind the zero have the value of all, and they are fewer.
    have hdigits : ∀ d ∈ ds, d.isDigit = true := by
      intro d hd
      apply Text.isDigit_of_mem_ofNat (n := n)
      rw [hds]
      exact List.mem_cons_of_mem _ hd
    have hvalue : Nat.ofDigitChars 10 ds 0 = n := by
      rw [← Text.ofDigitChars_ofNat n, hds]
      rfl
    have hlength := length_ofNat_ofDigitChars_le hne hdigits
    rw [hvalue, hds, List.length_cons] at hlength
    omega

theorem number_ofNat (n : Nat) : Number (Text.ofNat n) := by
  have h := Number.mk (List.mem_cons_self (a := []) (l := [['-']])) (whole_ofNat n) .none .none
  simpa using h

theorem numberValue_ofNat (n : Nat) : numberValue (Text.ofNat n) = n := by
  obtain ⟨c, ds, hds⟩ := List.exists_cons_of_ne_nil (Text.ofNat_ne_nil n)
  have hc : c.isDigit = true := by
    apply Text.isDigit_of_mem_ofNat (n := n)
    rw [hds]
    exact List.mem_cons_self ..
  have hsign : Binary64.readSign (Text.ofNat n) = (false, Text.ofNat n) := by
    rw [hds]
    exact Binary64.readSign_of_isDigit hc ds
  obtain ⟨htake, hdrop⟩ := Binary64.takeWhile_digits (t := Text.ofNat n) (u := [])
    (fun _ => Text.isDigit_of_mem_ofNat) (by simp [Binary64.EndsDigits])
  rw [List.append_nil] at htake hdrop
  simp [numberValue, hsign, htake, hdrop, Binary64.readFraction, Binary64.readExponent,
    Text.ofDigitChars_ofNat]

theorem written_ofNat (n : Nat) : Written (.value (.number n)) (Text.ofNat n) := by
  have h := Written.number (number_ofNat n)
  rwa [numberValue_ofNat] at h

/-! ## §C Objects -/

/-- A member of an object, on a line of its own, with the blanks that are left behind its value. -/
theorem written_jsonMember (name : String) {value w : Text} {v : Value}
    (h : Written (.value v) value) (hw : Blanks w) :
    Written (.member (Text.ofString name) v) (jsonMember name value ++ w) := by
  have hindent : Blanks (Text.ofString "\n    ") := by decide
  have hnone : Blanks [] := by decide
  have hvalue : Written (.element v) ([' '] ++ (value ++ w)) := .element (by decide) h hw
  have hname := letters_flatMap_jsonChar (Text.ofString name)
  have hmember := Written.member hindent hname hnone hvalue
  have hcolon : Text.ofString ": " = [':', ' '] := rfl
  simpa [jsonMember, jsonString, hcolon] using hmember

/-- A member with nothing behind its value. -/
theorem written_jsonMember_nil (name : String) {value : Text} {v : Value}
    (h : Written (.value v) value) :
    Written (.member (Text.ofString name) v) (jsonMember name value) := by
  have hmember := written_jsonMember name h (w := []) (by decide)
  rwa [List.append_nil] at hmember

/-- The object of a match, with the blanks that are left behind it. -/
theorem written_jsonMatch (m : Match) {w : Text} (hw : Blanks w) :
    Written (.element m.toJson) (jsonMatch m ++ w) := by
  have hindent : Blanks (Text.ofString "\n  ") := by decide
  -- The members from the last to the first: the last one has the line feed before the brace.
  have hstop : Written (.members [(Text.ofString "end_offset", .number m.stop)])
      (jsonMember "end_offset" (Text.ofNat m.stop) ++ Text.ofString "\n  ") :=
    .lastMember (written_jsonMember _ (written_ofNat m.stop) hindent)
  have hstart := Written.nextMember
    (written_jsonMember_nil "start_offset" (written_ofNat m.start)) hstop
  have hline := Written.nextMember (written_jsonMember_nil "line" (written_ofNat m.line)) hstart
  have htext := Written.nextMember (written_jsonMember_nil "text" (written_jsonString m.text)) hline
  have hobject := Written.element hindent (.object htext) hw
  have hopen : Text.ofString "\n  \x7b" = Text.ofString "\n  " ++ ['\x7b'] := rfl
  have hclose : Text.ofString "\n  \x7d" = Text.ofString "\n  " ++ ['\x7d'] := rfl
  simpa [jsonMatch, Match.toJson, hopen, hclose] using hobject

/-! ## §D The array -/

/-- The elements of the array. Only the last one has a blank behind it, the line feed before the
bracket. -/
theorem written_jsonItems (m : Match) (ms : List Match) :
    Written (.elements ((m :: ms).map Match.toJson)) (jsonItems (m :: ms) ++ ['\n']) := by
  induction ms generalizing m with
  | nil => exact .lastElement (written_jsonMatch m (by decide))
  | cons m' ms ih =>
    have hfirst := written_jsonMatch m (w := []) (by decide)
    rw [List.append_nil] at hfirst
    have hitems : jsonItems (m :: m' :: ms) = jsonMatch m ++ ',' :: jsonItems (m' :: ms) := rfl
    rw [hitems, List.append_assoc, List.cons_append]
    exact .nextElement hfirst (ih m')

/-- The array of matches, with the line feed behind it apart. -/
theorem exists_render_json (ms : List Match) :
    ∃ document, render .json ms = document ++ ['\n'] ∧
      Written (.value (.array (ms.map Match.toJson))) document := by
  cases ms with
  | nil => exact ⟨['[', ']'], rfl, .noElements (w := []) (by decide)⟩
  | cons m ms =>
    refine ⟨'[' :: ((jsonItems (m :: ms) ++ ['\n']) ++ [']']), ?_, .array (written_jsonItems m ms)⟩
    have hclose : Text.ofString "\n]\n" = ['\n', ']', '\n'] := rfl
    simp [render, json, hclose]

/-- **A report written as JSON denotes its matches.** For any list of matches the report is a JSON
text with a line feed behind it. The text denotes the array of the matches, in their order, each as
an object of its text, line, start and end; and it denotes nothing else. -/
theorem render_json_denotes (ms : List Match) :
    ∃ document, render .json ms = document ++ ['\n'] ∧
      ∀ v, Denotes document v ↔ v = .array (ms.map Match.toJson) := by
  obtain ⟨document, hrender, harray⟩ := exists_render_json ms
  have hdocument : Denotes document (.array (ms.map Match.toJson)) := by
    have hnone : Blanks [] := by decide
    have helement := Written.element hnone harray hnone
    rwa [List.nil_append, List.append_nil] at helement
  refine ⟨document, hrender, fun v => ⟨fun h => h.unique hdocument, ?_⟩⟩
  rintro rfl
  exact hdocument

end Report

end RtlLiterals
