import RtlLiterals.Match
import RtlLiterals.Text.Digit

/-!
# RtlLiterals.Report -- matches written out

A report lists matches either as text, one record for each match with its line counted from one,
or as a JSON array of objects with the line counted from zero, indented by two blanks.
-/

namespace RtlLiterals

namespace Report

/-! ### Text -/

/-- The record of one match: line, offsets and text. -/
def textRecord (m : Match) : Text :=
  Text.ofNat (m.line + 1) ++ ':' :: Text.ofNat m.start ++ '-' :: Text.ofNat m.stop ++
    '\t' :: m.text ++ ['\n']

/-- The report as text. -/
def text (ms : List Match) : Text := ms.flatMap textRecord

/-! ### JSON -/

/-- A character inside a JSON string: quotes, backslashes and control characters are escaped. -/
def jsonChar (c : Char) : Text :=
  if c = '\x22' then ['\\', '\x22']
  else if c = '\\' then ['\\', '\\']
  else if c = '\x08' then ['\\', 'b']
  else if c = '\x0c' then ['\\', 'f']
  else if c = '\n' then ['\\', 'n']
  else if c = '\r' then ['\\', 'r']
  else if c = '\t' then ['\\', 't']
  else if c.toNat < 32 then
    ['\\', 'u', '0', '0', Text.hexDigit false (c.toNat / 16), Text.hexDigit false (c.toNat % 16)]
  else [c]

/-- A JSON string. -/
def jsonString (t : Text) : Text := '\x22' :: t.flatMap jsonChar ++ ['\x22']

/-- A member of an object, on a line of its own. -/
def jsonMember (name : String) (value : Text) : Text :=
  Text.ofString "\n    " ++ jsonString (Text.ofString name) ++ Text.ofString ": " ++ value

/-- The object of one match. -/
def jsonMatch (m : Match) : Text :=
  Text.ofString "\n  \x7b" ++ jsonMember "text" (jsonString m.text) ++ ',' ::
    jsonMember "line" (Text.ofNat m.line) ++ ',' ::
    jsonMember "start_offset" (Text.ofNat m.start) ++ ',' ::
    jsonMember "end_offset" (Text.ofNat m.stop) ++ Text.ofString "\n  \x7d"

/-- The objects of a list of matches, separated by commas. -/
def jsonItems : List Match → Text
  | [] => []
  | [m] => jsonMatch m
  | m :: ms => jsonMatch m ++ ',' :: jsonItems ms

/-- The report as a JSON array. -/
def json (ms : List Match) : Text :=
  match ms with
  | [] => Text.ofString "[]\n"
  | ms => '[' :: jsonItems ms ++ Text.ofString "\n]\n"

/-! ### Choice of format -/

/-- The form of a report. -/
inductive Format where
  | text
  | json
deriving DecidableEq, Repr

/-- The report in a format. -/
def render (format : Format) (ms : List Match) : Text :=
  match format with
  | .text => Report.text ms
  | .json => Report.json ms

end Report

end RtlLiterals
