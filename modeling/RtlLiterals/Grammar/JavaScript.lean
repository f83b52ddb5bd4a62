import RtlLiterals.Grammar.Rule

/-!
# RtlLiterals.Grammar.JavaScript -- the grammar of JavaScript

Scripts and modules with markup expressions. Strings and templates are the nodes `string` and
`template_string`; the text of markup is no string, but the values of its attributes are.

## §A Tokens read by hand

The end of a statement without a semicolon, the text of a template, the question mark of a
conditional, markup comments, and the text between tags depend on more than their own characters.
-/

namespace RtlLiterals.Grammar.JavaScript

open Rule

/-! ### Tokens -/

/-- White space between tokens. -/
def blanks : CharSet :=
  CharSet.blanks.union (CharSet.spaces.union
    ⟨false, [(0xFEFF, 0xFEFF), (0x2028, 0x2029), (0x2060, 0x2060), (0x200B, 0x200B)]⟩)

/-- Characters that no identifier holds. -/
def punctuation : CharSet :=
  (⟨true, [(0, 0x1F)]⟩ : CharSet).union
    (blanks.union (CharSet.ofString ":;\x60\x22\x27@#.,|^&<=>+-*/\\%?!~()[]\x7b\x7d"))

/-- An escaped code point in an identifier. -/
def escapedPoints : List Pattern :=
  [.seq [.exactly "\\u", .times 4 (.one .hexDigits)],
    .seq [.exactly "\\u\x7b", .plus (.one .hexDigits), .exactly "\x7d"]]

/-- The first character of an identifier. -/
def identifierStart : Pattern :=
  .alt (.one (punctuation.union .digits) :: escapedPoints)

/-- Any other character of an identifier. -/
def identifierPart : Pattern := .alt (.one punctuation :: escapedPoints)

/-- A name. -/
def identifier : Pattern := .seq [identifierStart, .star identifierPart]

/-- Digits with single underscores between them. -/
def grouped (digits : CharSet) : Pattern :=
  .seq [.one digits, .star (.seq [.opt (.exactly "_"), .one digits])]

/-- A number. -/
def number : Pattern :=
  let decimals := grouped .digits
  let hex : Pattern := .seq [.alt [.exactly "0x", .exactly "0X"], grouped .hexDigits]
  let binary : Pattern := .seq [.alt [.exactly "0b", .exactly "0B"], grouped (.range '0' '1')]
  let octal : Pattern := .seq [.alt [.exactly "0o", .exactly "0O"], grouped (.range '0' '7')]
  let exponent : Pattern := .seq [.oneOf "eE", .seq [.opt (.oneOf "-+"), decimals]]
  let whole : Pattern := .alt [.exactly "0",
    .seq [.opt (.exactly "0"), .one (.range '1' '9'), .opt (.seq [.opt (.exactly "_"), decimals])]]
  let decimal : Pattern := .alt [
    .seq [whole, .exactly ".", .opt decimals, .opt exponent],
    .seq [.exactly ".", decimals, .opt exponent],
    .seq [whole, exponent],
    decimals]
  .alt [hex, decimal, binary, octal, .seq [.alt [hex, binary, octal, decimals], .exactly "n"]]

/-- A comment to the end of the line, or between its two marks. -/
def comment : Pattern :=
  .alt [
    .seq [.exactly "//", .star (.noneOf "\r\n\u2028\u2029")],
    .seq [.exactly "/*", .star (.noneOf "*"), .plus (.exactly "*"),
      .star (.seq [.noneOf "/*", .star (.noneOf "*"), .plus (.exactly "*")]), .exactly "/"]]

/-- An escape in a string or template. -/
def escape : Pattern :=
  .seq [.exactly "\\", .alt [
    .one ⟨true, [(0x78, 0x78), (0x75, 0x75), (0x30, 0x37)]⟩,
    .upTo 3 (.one (.range '0' '7')),
    .seq [.exactly "x", .times 2 (.one .hexDigits)],
    .seq [.exactly "u", .times 4 (.one .hexDigits)],
    .seq [.exactly "u\x7b", .plus (.one .hexDigits), .exactly "\x7d"],
    .seq [.oneOf "\r?", .oneOf "\n\u2028\u2029"]]]

/-- The pattern of a regular expression. -/
def regex : Pattern :=
  let escaped : Pattern := .seq [.exactly "\\", .anyInLine]
  .plus (.alt [
    .seq [.exactly "[", .star (.alt [escaped, .noneOf "]\n\\"]), .exactly "]"],
    escaped,
    .noneOf "/\\[\n"])

/-- A character of markup, by its name or number. -/
def characterReference : Pattern :=
  let letters : CharSet := (CharSet.range 'A' 'Z').union (.range 'a' 'z')
  .seq [.exactly "&", .alt [
    .seq [.exactly "#", .alt [
      .seq [.oneOf "xX", .upTo 6 (.one .hexDigits)],
      .upTo 5 (.one .digits)]],
    .upTo 30 (.one letters)], .exactly ";"]

/-- Text in an attribute of markup up to the closing quote, or to a character reference. -/
def attributeText (quote : String) : Pattern :=
  .plus (.alt [.noneOf (quote ++ "&"),
    .seq [.exactly "&", .one ⟨true, [(0x23, 0x23), (0x41, 0x5A), (0x61, 0x7A)]⟩]])

/-- A name in markup that has a dash. -/
def dashedName : Pattern :=
  let letters : CharSet := (CharSet.range 'A' 'Z').union (.range 'a' 'z')
  let start : CharSet := letters.union (.ofString "_$")
  let part : CharSet := start.union .digits
  .seq [.one start, .star (.one part), .exactly "-", .star (.one (part.union (.ofString "-")))]

/-! ### Parts of rules -/

/-- A string in quotes, by its text and what else it may hold. -/
def quoted (quote fragment : String) (other : Rule) : Rule :=
  .seq [text quote, many (.choice [named fragment "string_fragment", other]), text quote]

/-- An operator between two expressions that groups to the left. -/
def binary (level operator : String) : Rule :=
  precLeft level (.seq ["expression", text operator, "expression"])

/-- Decorators. -/
def decorators : Rule := many "decorator"

/-- A name that may also be a word with another meaning. -/
def anyName : Rule := .choice ["identifier", "_reserved_identifier"]

/-- Parameters and body of a function. -/
def functionTail : List Rule := ["_call_signature", "statement_block"]

/-! ### Rules -/

/-- The document and its modules. -/
def moduleRules : List (String × Rule) := [
  ("program", .seq [opt "hash_bang_line", many "statement"]),
  ("hash_bang_line", shape (.seq [.exactly "#!", .star .anyInLine])),
  ("export_statement", .choice [
    .seq [text "export", .choice [
      .seq [text "*", "_from_clause"],
      .seq ["namespace_export", "_from_clause"],
      .seq ["export_clause", "_from_clause"],
      "export_clause"], "_semicolon"],
    .seq [decorators, text "export", .choice [
      "declaration",
      .seq [text "default", .choice ["declaration", .seq ["expression", "_semicolon"]]]]]]),
  ("namespace_export", .seq [text "*", text "as", "_module_export_name"]),
  ("export_clause", braced [commas "export_specifier", opt (text ",")]),
  ("export_specifier", .seq ["_module_export_name", opt (.seq [text "as", "_module_export_name"])]),
  ("_module_export_name", .choice ["identifier", "string"]),
  ("declaration", .choice ["function_declaration", "generator_function_declaration",
    "class_declaration", "lexical_declaration", "variable_declaration"]),
  ("import", text "import"),
  ("import_statement", .seq [text "import",
    .choice [.seq ["import_clause", "_from_clause"], "string"],
    opt "import_attribute", "_semicolon"]),
  ("import_clause", .choice ["namespace_import", "named_imports",
    .seq ["identifier", opt (.seq [text ",", .choice ["namespace_import", "named_imports"]])]]),
  ("_from_clause", .seq [text "from", "string"]),
  ("namespace_import", .seq [text "*", text "as", "identifier"]),
  ("named_imports", braced [commas "import_specifier", opt (text ",")]),
  ("import_specifier", .choice ["identifier",
    .seq [.choice ["_module_export_name", named (text "default") "identifier"], text "as",
      "identifier"]]),
  ("import_attribute", .seq [text "with", "object"])]

/-- Statements. -/
def statementRules : List (String × Rule) := [
  ("statement", .choice ["export_statement", "import_statement", "debugger_statement",
    "expression_statement", "declaration", "statement_block", "if_statement", "switch_statement",
    "for_statement", "for_in_statement", "while_statement", "do_statement", "try_statement",
    "with_statement", "break_statement", "continue_statement", "return_statement",
    "throw_statement", "empty_statement", "labeled_statement"]),
  ("expression_statement", .seq ["_expressions", "_semicolon"]),
  ("variable_declaration", .seq [text "var", commas1 "variable_declarator", "_semicolon"]),
  ("lexical_declaration",
    .seq [texts ["let", "const"], commas1 "variable_declarator", "_semicolon"]),
  ("variable_declarator",
    .seq [.choice ["identifier", "_destructuring_pattern"], opt "_initializer"]),
  ("statement_block",
    groupRight (.seq [braced [many "statement"], opt "_automatic_semicolon"])),
  ("else_clause", .seq [text "else", "statement"]),
  ("if_statement", groupRight (.seq [text "if", "parenthesized_expression", "statement",
    opt "else_clause"])),
  ("switch_statement", .seq [text "switch", "parenthesized_expression", "switch_body"]),
  ("for_statement", .seq [text "for", text "(",
    .choice [.choice ["lexical_declaration", "variable_declaration"],
      .seq ["_expressions", text ";"], "empty_statement"],
    .choice [.seq ["_expressions", text ";"], "empty_statement"],
    opt "_expressions", text ")", "statement"]),
  ("for_in_statement", .seq [text "for", opt (text "await"), "_for_header", "statement"]),
  ("_for_header", .seq [text "(",
    .choice [
      .choice ["_lhs_expression", "parenthesized_expression"],
      .seq [text "var", .choice ["identifier", "_destructuring_pattern"], opt "_initializer"],
      .seq [texts ["let", "const"], .choice ["identifier", "_destructuring_pattern"],
        opt "_automatic_semicolon"]],
    texts ["in", "of"], "_expressions", text ")"]),
  ("while_statement", .seq [text "while", "parenthesized_expression", "statement"]),
  ("do_statement", groupRight (.seq [text "do", "statement", text "while",
    "parenthesized_expression", opt "_semicolon"])),
  ("try_statement", .seq [text "try", "statement_block", opt "catch_clause",
    opt "finally_clause"]),
  ("with_statement", .seq [text "with", "parenthesized_expression", "statement"]),
  ("break_statement",
    .seq [text "break", opt (named "identifier" "statement_identifier"), "_semicolon"]),
  ("continue_statement",
    .seq [text "continue", opt (named "identifier" "statement_identifier"), "_semicolon"]),
  ("debugger_statement", .seq [text "debugger", "_semicolon"]),
  ("return_statement", .seq [text "return", opt "_expressions", "_semicolon"]),
  ("throw_statement", .seq [text "throw", "_expressions", "_semicolon"]),
  ("empty_statement", text ";"),
  ("labeled_statement",
    .dynamic (-1) (.seq [named anyName "statement_identifier", text ":", "statement"])),
  ("switch_body", braced [many (.choice ["switch_case", "switch_default"])]),
  ("switch_case", .seq [text "case", "_expressions", text ":", many "statement"]),
  ("switch_default", .seq [text "default", text ":", many "statement"]),
  ("catch_clause", .seq [text "catch",
    opt (parenthesized [.choice ["identifier", "_destructuring_pattern"]]), "statement_block"]),
  ("finally_clause", .seq [text "finally", "statement_block"])]

/-- Expressions, and the patterns that take values apart. -/
def expressionRules : List (String × Rule) := [
  ("parenthesized_expression", parenthesized ["_expressions"]),
  ("_expressions", .choice ["expression", "sequence_expression"]),
  ("expression", .choice ["primary_expression", "_jsx_element", "assignment_expression",
    "augmented_assignment_expression", "await_expression", "unary_expression",
    "binary_expression", "ternary_expression", "update_expression", "new_expression",
    "yield_expression"]),
  ("primary_expression", .choice ["subscript_expression", "member_expression",
    "parenthesized_expression", "_identifier", named "_reserved_identifier" "identifier", "this",
    "super", "number", "string", "template_string", "regex", "true", "false", "null", "object",
    "array", "function_expression", "arrow_function", "generator_function", "class",
    "meta_property", "call_expression"]),
  ("yield_expression",
    groupRight (.seq [text "yield", .choice [.seq [text "*", "expression"], opt "expression"]])),
  ("object", prec "object" (braced [commas (opt (.choice ["pair", "spread_element",
    "method_definition", named anyName "shorthand_property_identifier"]))])),
  ("object_pattern", prec "object" (braced [commas (opt (.choice ["pair_pattern", "rest_pattern",
    "object_assignment_pattern", named anyName "shorthand_property_identifier_pattern"]))])),
  ("assignment_pattern", .seq ["pattern", text "=", "expression"]),
  ("object_assignment_pattern", .seq [
    .choice [named (.choice ["_reserved_identifier", "identifier"])
      "shorthand_property_identifier_pattern", "_destructuring_pattern"],
    text "=", "expression"]),
  ("array", bracketed [commas (opt (.choice ["expression", "spread_element"]))]),
  ("array_pattern", bracketed [commas (opt (.choice ["pattern", "assignment_pattern"]))])]

/-- Markup. -/
def markupRules : List (String × Rule) := [
  ("_jsx_element", .choice ["jsx_element", "jsx_self_closing_element"]),
  ("jsx_element", .seq ["jsx_opening_element", many "_jsx_child", "jsx_closing_element"]),
  ("html_character_reference", shape characterReference),
  ("_jsx_child", .choice ["jsx_text", "html_character_reference", "_jsx_element",
    "jsx_expression"]),
  ("jsx_opening_element", .dynamic (-1) (.seq [text "<",
    opt (.seq ["_jsx_element_name", many "_jsx_attribute"]), text ">"])),
  ("jsx_identifier", shape dashedName),
  ("_jsx_identifier", .choice [named "jsx_identifier" "identifier", "identifier"]),
  ("nested_identifier", prec "member" (.seq [
    .choice ["identifier", named "nested_identifier" "member_expression"],
    text ".", named "identifier" "property_identifier"])),
  ("jsx_namespace_name", .seq ["_jsx_identifier", text ":", "_jsx_identifier"]),
  ("_jsx_element_name", .choice ["_jsx_identifier", named "nested_identifier" "member_expression",
    "jsx_namespace_name"]),
  ("jsx_closing_element", .seq [text "</", opt "_jsx_element_name", text ">"]),
  ("jsx_self_closing_element", .seq [text "<", "_jsx_element_name", many "_jsx_attribute",
    text "/>"]),
  ("_jsx_attribute", .choice ["jsx_attribute", "jsx_expression"]),
  ("_jsx_attribute_name",
    .choice [named "_jsx_identifier" "property_identifier", "jsx_namespace_name"]),
  ("jsx_attribute", .seq ["_jsx_attribute_name", opt (.seq [text "=", "_jsx_attribute_value"])]),
  ("_jsx_string", .choice [
    quoted "\x22" "unescaped_double_jsx_string_fragment" "html_character_reference",
    quoted "\x27" "unescaped_single_jsx_string_fragment" "html_character_reference"]),
  ("unescaped_double_jsx_string_fragment", immediate (attributeText "\x22") 1),
  ("unescaped_single_jsx_string_fragment", immediate (attributeText "\x27") 1),
  ("_jsx_attribute_value",
    .choice [named "_jsx_string" "string", "jsx_expression", "_jsx_element"]),
  ("jsx_expression",
    braced [opt (.choice ["expression", "sequence_expression", "spread_element"])])]

/-- Classes and functions, calls and operators. -/
def operatorRules : List (String × Rule) := [
  ("class", prec "literal" (.seq [decorators, text "class", opt "identifier",
    opt "class_heritage", "class_body"])),
  ("class_declaration", prec "declare" (.seq [decorators, text "class", "identifier",
    opt "class_heritage", "class_body", opt "_automatic_semicolon"])),
  ("class_heritage", .seq [text "extends", "expression"]),
  ("function_expression", prec "literal" (.seq ([opt (text "async"), text "function",
    opt "identifier"] ++ functionTail))),
  ("function_declaration", precRight "declare" (.seq ([opt (text "async"), text "function",
    "identifier"] ++ functionTail ++ [opt "_automatic_semicolon"]))),
  ("generator_function", prec "literal" (.seq ([opt (text "async"), text "function", text "*",
    opt "identifier"] ++ functionTail))),
  ("generator_function_declaration", precRight "declare" (.seq ([opt (text "async"),
    text "function", text "*", "identifier"] ++ functionTail ++ [opt "_automatic_semicolon"]))),
  ("arrow_function", .seq [opt (text "async"),
    .choice [.choice [named "_reserved_identifier" "identifier", "identifier"], "_call_signature"],
    text "=>", .choice ["expression", "statement_block"]]),
  ("_call_signature", "formal_parameters"),
  ("_formal_parameter", .choice ["pattern", "assignment_pattern"]),
  ("optional_chain", text "?."),
  ("call_expression", .choice [
    prec "call" (.seq [.choice ["expression", "import"], "arguments"]),
    prec "template_call" (.seq [.choice ["primary_expression", "new_expression"],
      "template_string"]),
    prec "member" (.seq ["primary_expression", "optional_chain", "arguments"])]),
  ("new_expression", precRight "new" (.seq [text "new",
    .choice ["primary_expression", "new_expression"], opt (.dynamic 1 "arguments")])),
  ("await_expression", prec "unary_void" (.seq [text "await", "expression"])),
  ("member_expression", prec "member" (.seq [
    .choice ["expression", "primary_expression", "import"],
    .choice [text ".", "optional_chain"],
    .choice ["private_property_identifier", named "identifier" "property_identifier"]])),
  ("subscript_expression", precRight "member" (.seq [
    .choice ["expression", "primary_expression"], opt "optional_chain",
    bracketed ["_expressions"]])),
  ("_lhs_expression", .choice ["member_expression", "subscript_expression", "_identifier",
    named "_reserved_identifier" "identifier", "_destructuring_pattern"]),
  ("assignment_expression", precRight "assign" (.seq [opt (text "using"),
    .choice ["parenthesized_expression", "_lhs_expression"], text "=", "expression"])),
  ("_augmented_assignment_lhs", .choice ["member_expression", "subscript_expression",
    named "_reserved_identifier" "identifier", "identifier", "parenthesized_expression"]),
  ("augmented_assignment_expression", precRight "assign" (.seq ["_augmented_assignment_lhs",
    texts ["+=", "-=", "*=", "/=", "%=", "^=", "&=", "|=", ">>=", ">>>=", "<<=", "**=", "&&=",
      "||=", "??="], "expression"])),
  ("_initializer", .seq [text "=", "expression"]),
  ("_destructuring_pattern", .choice ["object_pattern", "array_pattern"]),
  ("spread_element", .seq [text "...", "expression"]),
  ("ternary_expression", precRight "ternary" (.seq ["expression", asText "_ternary_qmark" "?",
    "expression", text ":", "expression"])),
  ("binary_expression", .choice [
    binary "logical_and" "&&",
    binary "logical_or" "||",
    binary "binary_shift" ">>",
    binary "binary_shift" ">>>",
    binary "binary_shift" "<<",
    binary "bitwise_and" "&",
    binary "bitwise_xor" "^",
    binary "bitwise_or" "|",
    binary "binary_plus" "+",
    binary "binary_plus" "-",
    binary "binary_times" "*",
    binary "binary_times" "/",
    binary "binary_times" "%",
    precRight "binary_exp" (.seq ["expression", text "**", "expression"]),
    binary "binary_relation" "<",
    binary "binary_relation" "<=",
    binary "binary_equality" "==",
    binary "binary_equality" "===",
    binary "binary_equality" "!=",
    binary "binary_equality" "!==",
    binary "binary_relation" ">=",
    binary "binary_relation" ">",
    binary "ternary" "??",
    binary "binary_relation" "instanceof",
    precLeft "binary_relation" (.seq [.choice ["expression", "private_property_identifier"],
      text "in", "expression"])]),
  ("unary_expression", precLeft "unary_void" (.seq [
    texts ["!", "~", "-", "+", "typeof", "void", "delete"], "expression"])),
  ("update_expression", groupLeft (.choice [
    .seq ["expression", texts ["++", "--"]],
    .seq [texts ["++", "--"], "expression"]])),
  ("sequence_expression", groupRight (commas1 "expression"))]

/-- Strings, templates, regular expressions, numbers and names. -/
def literalRules : List (String × Rule) := [
  ("string", .choice [
    quoted "\x22" "unescaped_double_string_fragment" "escape_sequence",
    quoted "\x27" "unescaped_single_string_fragment" "escape_sequence"]),
  ("unescaped_double_string_fragment", immediate (.plus (.noneOf "\x22\\\r\n")) 1),
  ("unescaped_single_string_fragment", immediate (.plus (.noneOf "\x27\\\r\n")) 1),
  ("escape_sequence", immediate escape 0),
  ("comment", shape comment),
  ("template_string", .seq [text "\x60",
    many (.choice [named "_template_chars" "string_fragment", "escape_sequence",
      "template_substitution"]), text "\x60"]),
  ("template_substitution", .seq [text "$\x7b", "_expressions", text "\x7d"]),
  ("regex", .seq [text "/", "regex_pattern", immediateText "/" 1, opt "regex_flags"]),
  ("regex_pattern", immediate regex (-1)),
  ("regex_flags", immediate (.plus (.one (.range 'a' 'z'))) 0),
  ("number", shape number),
  ("_identifier", .choice ["undefined", "identifier"]),
  ("identifier", shape identifier),
  ("private_property_identifier", shape (.seq [.exactly "#", identifier])),
  ("meta_property", .choice [
    .seq [text "new", text ".", text "target"],
    .seq [text "import", text ".", text "meta"]]),
  ("this", text "this"),
  ("super", text "super"),
  ("true", text "true"),
  ("false", text "false"),
  ("null", text "null"),
  ("undefined", text "undefined")]

/-- The parts of calls, classes and objects. -/
def memberRules : List (String × Rule) := [
  ("arguments", parenthesized [commas (opt (.choice ["expression", "spread_element"]))]),
  ("decorator", .seq [text "@", .choice ["identifier",
    named "decorator_member_expression" "member_expression",
    named "decorator_call_expression" "call_expression"]]),
  ("decorator_member_expression", prec "member" (.seq [
    .choice ["identifier", named "decorator_member_expression" "member_expression"],
    text ".", named "identifier" "property_identifier"])),
  ("decorator_call_expression", prec "call" (.seq [
    .choice ["identifier", named "decorator_member_expression" "member_expression"],
    "arguments"])),
  ("class_body", braced [many (.choice [
    .seq ["method_definition", opt (text ";")],
    .seq ["field_definition", "_semicolon"],
    "class_static_block",
    text ";"])]),
  ("field_definition", .seq [decorators, opt (text "static"), "_property_name",
    opt "_initializer"]),
  ("formal_parameters", parenthesized [
    opt (.seq [commas1 "_formal_parameter", opt (text ",")])]),
  ("class_static_block", .seq [text "static", opt "_automatic_semicolon", "statement_block"]),
  ("pattern", .dynamic (-1) (.choice ["_lhs_expression", "rest_pattern"])),
  ("rest_pattern", groupRight (.seq [text "...", "_lhs_expression"])),
  ("method_definition", .seq [decorators,
    opt (.choice [text "static", asText (shape (.seq [.exactly "static", .plus (.one .blanks),
      .exactly "get", .star (.one .blanks), .exactly "\n"])) "static get"]),
    opt (text "async"), opt (texts ["get", "set", "*"]), "_property_name", "formal_parameters",
    "statement_block"]),
  ("pair", .seq ["_property_name", text ":", "expression"]),
  ("pair_pattern", .seq ["_property_name", text ":", .choice ["pattern", "assignment_pattern"]]),
  ("_property_name", .choice [named anyName "property_identifier", "private_property_identifier",
    "string", "number", "computed_property_name"]),
  ("computed_property_name", bracketed ["expression"]),
  ("_reserved_identifier", texts ["get", "set", "async", "static", "export", "let"]),
  ("_semicolon", .choice ["_automatic_semicolon", text ";"])]

/-- All rules. -/
def rules : List (String × Rule) :=
  moduleRules ++ statementRules ++ expressionRules ++ markupRules ++ operatorRules ++
    literalRules ++ memberRules

/-! ### The grammar -/

/-- The tokens read by hand. -/
def handTokens : List HandToken := [.own "_automatic_semicolon", .own "_template_chars",
  .own "_ternary_qmark", .own "html_comment", .text "||", .rule "escape_sequence",
  .rule "regex_pattern", .own "jsx_text"]

/-- Rules that are replaced by their right sides. -/
def inlined : List String := ["_call_signature", "_formal_parameter", "_expressions",
  "_semicolon", "_identifier", "_reserved_identifier", "_jsx_attribute", "_jsx_element_name",
  "_jsx_child", "_jsx_element", "_jsx_attribute_name", "_jsx_attribute_value", "_jsx_identifier",
  "_lhs_expression"]

/-- Rules that stand for a category. -/
def categories : List String :=
  ["statement", "declaration", "expression", "primary_expression", "pattern"]

/-- The orders of precedences. -/
def orders : List (List OrderEntry) := [
  [.named "member", .named "template_call", .named "call", .rule "update_expression",
    .named "unary_void", .named "binary_exp", .named "binary_times", .named "binary_plus",
    .named "binary_shift", .named "binary_compare", .named "binary_relation",
    .named "binary_equality", .named "bitwise_and", .named "bitwise_xor", .named "bitwise_or",
    .named "logical_and", .named "logical_or", .named "ternary", .rule "sequence_expression",
    .rule "arrow_function"],
  [.named "assign", .rule "primary_expression"],
  [.named "member", .named "template_call", .named "new", .named "call", .rule "expression"],
  [.named "declare", .named "literal"],
  [.rule "primary_expression", .rule "statement_block", .named "object"],
  [.rule "meta_property", .rule "import"],
  [.rule "import_statement", .rule "import"],
  [.rule "export_statement", .rule "primary_expression"],
  [.rule "lexical_declaration", .rule "primary_expression"]]

/-- What may stand between tokens. -/
def extras : List Extra := [.rule "comment", .rule "html_comment", .blanks blanks]

/-- Tokens that would hide others if recovery looked for them. -/
def notInRecovery : List Rule := ["html_character_reference", "jsx_identifier", text "/>",
  "unescaped_double_jsx_string_fragment", "unescaped_single_jsx_string_fragment",
  "unescaped_double_string_fragment", "unescaped_single_string_fragment", "regex_pattern",
  "regex_flags"]

/-- The grammar. -/
def grammar : Source := {
  rules := rules
  extras := extras
  handTokens := handTokens
  inlined := inlined
  categories := categories
  orders := orders
  word := "identifier"
  notInRecovery := notInRecovery }

end RtlLiterals.Grammar.JavaScript
