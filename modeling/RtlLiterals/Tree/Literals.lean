import RtlLiterals.Language
import RtlLiterals.Literal.Quote
import RtlLiterals.Literal.Span
import RtlLiterals.Text.Utf8
import RtlLiterals.Tree.Cursor

/-!
# RtlLiterals.Tree.Literals -- the literals in a syntax tree

A literal is a node of one of the language's kinds for strings that could be read without an
error. A template with a substitution in it is none, but the literals inside the substitution are.
The content of a literal is its text between the first quote and the last quote of the same kind,
so that marks before and after the quotes are left out.
-/

namespace RtlLiterals

/-- The kinds of nodes that hold a string. -/
def Language.literalKinds : Language → List String
  | .plainText => []
  | .javaScript | .typeScript | .tsx => ["string", "template_string"]
  | .rust => ["string_literal", "raw_string_literal"]

/-- The kind of a child that makes a template depend on what runs. -/
def Language.substitutionKind? : Language → Option String
  | .javaScript | .typeScript | .tsx => some "template_substitution"
  | .plainText | .rust => none

namespace Tree

/-- The node is a literal of the language. -/
def Node.isLiteral (language : Language) (n : Node) : Bool :=
  language.literalKinds.contains n.kind && !n.broken && !n.missing &&
    match language.substitutionKind? with
    | some k => n.children.all fun child => child.kind != k
    | none => true

/-- The state of collecting literals. -/
structure Collector where
  /-- Where the last literal ended. -/
  offsets : OffsetCursor
  /-- The literals found, the last one first. -/
  found : List Span

/-- Takes the node in if it is a literal. -/
def Collector.visit (language : Language) (source : Text) (c : Collector) (n : Node) : Collector :=
  if n.isLiteral language then
    match (Text.sliceBytes? source n.start n.stop).bind unquote with
    | some content =>
      let opening := c.offsets.advance n.start
      let closing := opening.advance n.stop
      ⟨closing, ⟨content, opening.chars, closing.chars⟩ :: c.found⟩
    | none => c
  else c

/-- The literals of a tree, in source order. -/
def literals (language : Language) (source : Text) (root : Node) : List Span :=
  ((Cursor.root root).walk (Collector.visit language source) ⟨.start source, []⟩).found.reverse

end Tree

end RtlLiterals
