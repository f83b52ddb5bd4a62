import RtlLiterals.Grammar.Rule
import RtlLiterals.Text.Identifier

/-!
# RtlLiterals.Grammar.Rust -- the grammar of Rust

Strings are the nodes `string_literal` and `raw_string_literal`. What stands in the parentheses of
a macro is read as a tree of tokens, in which strings are found as well. Comments are constructs
with parts of their own that may stand anywhere.

## §A Tokens read by hand

The text of a string, raw strings with any number of hashes, floating-point numbers, and the parts
of block and documentation comments, which may be nested.
-/

namespace RtlLiterals.Grammar.Rust

open Rule

/-! ### Tokens -/

/-- The types of numbers. -/
def numericTypes : List String :=
  ["u8", "i8", "u16", "i16", "u32", "i32", "u64", "i64", "u128", "i128", "isize", "usize", "f32",
    "f64"]

/-- The types that have a name of their own. -/
def primitiveTypes : List String := numericTypes ++ ["bool", "str", "char"]

/-- A name. -/
def identifier : Pattern :=
  let start : CharSet := ⟨false, (0x5F, 0x5F) :: Text.nameStart⟩
  .seq [.opt (.exactly "r#"), .one start, .star (.one (start.union ⟨false, Text.namePart⟩))]

/-- The first line of a script. -/
def shebang : Pattern :=
  .seq [.exactly "#!", .star (.oneOf "\r\t \u000b\u000c"),
    .opt (.seq [.noneOf "[\n", .star .anyInLine]), .exactly "\n"]

/-- A variable of a macro. -/
def metavariable : Pattern :=
  let start : CharSet := (CharSet.range 'a' 'z').union ((CharSet.range 'A' 'Z').union (.ofString "_"))
  .seq [.exactly "$", .one start, .star (.one (start.union .digits))]

/-- A whole number, with its type after it. -/
def integer : Pattern :=
  let digitsOrLine (s : CharSet) : Pattern := .one (s.union (.ofString "_"))
  .seq [.alt [
    .seq [.one .digits, .star (digitsOrLine .digits)],
    .seq [.exactly "0x", .plus (digitsOrLine .hexDigits)],
    .seq [.exactly "0b", .plus (digitsOrLine (.range '0' '1'))],
    .seq [.exactly "0o", .plus (digitsOrLine (.range '0' '7'))]],
    .opt (.alt (numericTypes.map .exactly))]

/-- What may follow the backslash of an escape. -/
def escapeTail : Pattern :=
  .alt [.noneOf "xu",
    .seq [.exactly "u", .times 4 (.one .hexDigits)],
    .seq [.exactly "u\x7b", .plus (.one .hexDigits), .exactly "\x7d"],
    .seq [.exactly "x", .times 2 (.one .hexDigits)]]

/-- An escape. -/
def escape : Pattern := .seq [.exactly "\\", escapeTail]

/-- A character or byte in single quotes. -/
def character : Pattern :=
  .seq [.opt (.exactly "b"), .exactly "\x27", .opt (.alt [escape, .noneOf "\\\x27"]),
    .exactly "\x27"]

/-- The start of a string. -/
def stringStart : Pattern := .seq [.opt (.oneOf "bc"), .exactly "\x22"]

/-! ### Parts of rules -/

/-- A type with a name of its own. -/
def primitive (name : String) : Rule := named (texts primitiveTypes) name

/-- Optional commas and what they separate. -/
def separated (r : Rule) : List Rule := [commas r, opt (text ",")]

/-- Attributes. -/
def attributes : Rule := many "attribute_item"

/-- An optional visibility. -/
def visibility : Rule := opt "visibility_modifier"

/-- Optional parameters for types. -/
def typeParameters : Rule := opt "type_parameters"

/-- An optional condition on types. -/
def condition : Rule := opt "where_clause"

/-- An optional type after an arrow. -/
def result : Rule := opt (.seq [text "->", "_type"])

/-- An optional value. -/
def value : Rule := opt (.seq [text "=", "_expression"])

/-- An optional label. -/
def labelled : Rule := opt (.seq ["label", text ":"])

/-- A path with the parameters of its type after two colons. -/
def turbofish : Rule := named "generic_type_with_turbofish" "generic_type"

/-- A precedence by its number. -/
def ranked (n : Int) (r : Rule) : Rule := prec (.value n) r

/-- An operator between two expressions, from the level of its precedence. -/
def binary (n : Int) (operators : List String) : Rule :=
  precLeft (.value n) (.seq ["_expression", texts operators, "_expression"])

/-- Tokens in any of the three kinds of brackets. -/
def delimited (r : Rule) : Rule :=
  .choice [parenthesized [many r], bracketed [many r], braced [many r]]

/-- Signs that stand for themselves in the tokens of a macro. -/
def signs : List String :=
  ["+", "-", "*", "/", "%", "^", "!", "&", "|", "&&", "||", "<<", ">>", "+=", "-=", "*=", "/=",
    "%=", "^=", "&=", "|=", "<<=", ">>=", "=", "==", "!=", ">", "<", ">=", "<=", "@", "_", ".",
    "..", "...", "..=", ",", ";", ":", "::", "->", "=>", "#", "?"]

/-- Words that stand for themselves in the tokens of a macro. -/
def words : List String :=
  ["as", "async", "await", "break", "const", "continue", "default", "enum", "fn", "for", "gen",
    "if", "impl", "let", "loop", "match", "mod", "pub", "return", "static", "struct", "trait",
    "type", "union", "unsafe", "use", "where", "while"]

/-- Tokens of a macro other than words. -/
def plainTokens : List Rule :=
  ["_literal", "identifier", "mutable_specifier", "self", "super", "crate",
    primitive "primitive_type", groupRight (.repeat1 (texts signs)), text "\x27"]

/-- What stands between the rounds of a repetition. -/
def separator : Rule := shape (.plus (.noneOf "+*?"))

/-- A repetition in a macro. -/
def repetition (r : Rule) : Rule :=
  .seq [text "$", text "(", many r, text ")", opt separator,
    texts ["+", "*", "?"]]

/-- The slashes of a comment that is no documentation although it starts with three. -/
def moreSlashes : Rule := immediate (.exactly "//") 2

/-- The rest of a line. -/
def restOfLine : Rule := shape (.star .anyInLine)

/-- The text of a comment to the end of the line. -/
def commentText : Rule := immediate (.star .anyInLine) 1

/-- The head of a function. -/
def functionHead : List Rule :=
  [visibility, opt "function_modifiers", text "fn", .choice ["identifier", "metavariable"],
    typeParameters, "parameters", result, condition]

/-! ### Rules -/

/-- Statements and macros. -/
def macroRules : List (String × Rule) := [
  ("source_file", .seq [opt "shebang", many "_statement"]),
  ("_statement", .choice ["expression_statement", "_declaration_statement"]),
  ("empty_statement", text ";"),
  ("expression_statement", .choice [.seq ["_expression", text ";"],
    ranked 1 "_expression_ending_with_block"]),
  ("_declaration_statement", .choice ["const_item", "macro_invocation", "macro_definition",
    "empty_statement", "attribute_item", "inner_attribute_item", "mod_item", "foreign_mod_item",
    "struct_item", "union_item", "enum_item", "type_item", "function_item",
    "function_signature_item", "impl_item", "trait_item", "associated_type", "let_declaration",
    "use_declaration", "extern_crate_declaration", "static_item"]),
  ("macro_definition",
    let rules : List Rule := [many (.seq ["macro_rule", text ";"]), opt "macro_rule"]
    .seq [text "macro_rules!", .choice ["identifier", "_reserved_identifier"],
      .choice [.seq [parenthesized rules, text ";"], .seq [bracketed rules, text ";"],
        braced rules]]),
  ("macro_rule", .seq ["token_tree_pattern", text "=>", "token_tree"]),
  ("_token_pattern", .choice ["token_tree_pattern", "token_repetition_pattern",
    "token_binding_pattern", "metavariable", "_non_special_token"]),
  ("token_tree_pattern", delimited "_token_pattern"),
  ("token_binding_pattern", ranked 1 (.seq ["metavariable", text ":", "fragment_specifier"])),
  ("token_repetition_pattern", repetition "_token_pattern"),
  ("fragment_specifier", texts ["block", "expr", "expr_2021", "ident", "item", "lifetime",
    "literal", "meta", "pat", "pat_param", "path", "stmt", "tt", "ty", "vis"]),
  ("_tokens", .choice ["token_tree", "token_repetition", "metavariable", "_non_special_token"]),
  ("token_tree", delimited "_tokens"),
  ("token_repetition", repetition "_tokens"),
  ("_non_special_token", .choice (plainTokens ++ words.map text))]

/-- Declarations. -/
def declarationRules : List (String × Rule) := [
  ("attribute_item", .seq [text "#", text "[", "attribute", text "]"]),
  ("inner_attribute_item", .seq [text "#", text "!", text "[", "attribute", text "]"]),
  ("attribute", .seq ["_path", opt (.choice [.seq [text "=", "_expression"],
    named "delim_token_tree" "token_tree"])]),
  ("mod_item", .seq [visibility, text "mod", "identifier",
    .choice [text ";", "declaration_list"]]),
  ("foreign_mod_item", .seq [visibility, "extern_modifier",
    .choice [text ";", "declaration_list"]]),
  ("declaration_list", braced [many "_declaration_statement"]),
  ("struct_item", .seq [visibility, text "struct", "_type_identifier", typeParameters,
    .choice [.seq [condition, "field_declaration_list"],
      .seq ["ordered_field_declaration_list", condition, text ";"], text ";"]]),
  ("union_item", .seq [visibility, text "union", "_type_identifier", typeParameters, condition,
    "field_declaration_list"]),
  ("enum_item", .seq [visibility, text "enum", "_type_identifier", typeParameters, condition,
    "enum_variant_list"]),
  ("enum_variant_list", braced (separated (.seq [attributes, "enum_variant"]))),
  ("enum_variant", .seq [visibility, "identifier",
    opt (.choice ["field_declaration_list", "ordered_field_declaration_list"]), value]),
  ("field_declaration_list", braced (separated (.seq [attributes, "field_declaration"]))),
  ("field_declaration", .seq [visibility, "_field_identifier", text ":", "_type"]),
  ("ordered_field_declaration_list",
    parenthesized (separated (.seq [attributes, visibility, "_type"]))),
  ("extern_crate_declaration", .seq [visibility, text "extern", "crate", "identifier",
    opt (.seq [text "as", "identifier"]), text ";"]),
  ("const_item", .seq [visibility, text "const", "identifier", text ":", "_type", value,
    text ";"]),
  ("static_item", .seq [visibility, text "static", opt (text "ref"), opt "mutable_specifier",
    "identifier", text ":", "_type", value, text ";"]),
  ("type_item", .seq [visibility, text "type", "_type_identifier", typeParameters, condition,
    text "=", "_type", condition, text ";"]),
  ("function_item", .seq (functionHead ++ [.ref "block"])),
  ("function_signature_item", .seq (functionHead ++ [text ";"])),
  ("function_modifiers", .repeat1 (.choice [text "async", text "default", text "const",
    text "unsafe", "extern_modifier"])),
  ("where_clause", groupRight (.seq [text "where",
    opt (.seq [commas1 "where_predicate", opt (text ",")])])),
  ("where_predicate", .seq [.choice ["lifetime", "_type_identifier", "scoped_type_identifier",
    "generic_type", "reference_type", "pointer_type", "tuple_type", "array_type",
    "higher_ranked_trait_bound", primitive "primitive_type"], "trait_bounds"]),
  ("impl_item", .seq [opt (text "unsafe"), text "impl", typeParameters,
    opt (.seq [opt (text "!"),
      .choice ["_type_identifier", "scoped_type_identifier", "generic_type"], text "for"]),
    "_type", condition, .choice ["declaration_list", text ";"]]),
  ("trait_item", .seq [visibility, opt (text "unsafe"), text "trait", "_type_identifier",
    typeParameters, opt "trait_bounds", condition, "declaration_list"]),
  ("associated_type", .seq [text "type", "_type_identifier", typeParameters, opt "trait_bounds",
    condition, text ";"]),
  ("trait_bounds", .seq [text ":",
    sepBy1 (text "+") (.choice ["_type", "lifetime", "higher_ranked_trait_bound"])]),
  ("higher_ranked_trait_bound", .seq [text "for", "type_parameters", "_type"]),
  ("removed_trait_bound", .seq [text "?", "_type"]),
  ("type_parameters", ranked 1 (.seq [text "<",
    commas1 (.seq [attributes, .choice ["lifetime", "metavariable", "_type_identifier",
      "constrained_type_parameter", "optional_type_parameter", "const_parameter"]]),
    opt (text ","), text ">"])),
  ("const_parameter", .seq [text "const", "identifier", text ":", "_type",
    opt (.seq [text "=", .choice ["block", "identifier", "_literal", "negative_literal"]])]),
  ("constrained_type_parameter",
    .seq [.choice ["lifetime", "_type_identifier"], "trait_bounds"]),
  ("optional_type_parameter", .seq [.choice ["_type_identifier", "constrained_type_parameter"],
    text "=", "_type"]),
  ("let_declaration", .seq [text "let", opt "mutable_specifier", "_pattern",
    opt (.seq [text ":", "_type"]), value, opt (.seq [text "else", "block"]), text ";"]),
  ("use_declaration", .seq [visibility, text "use", "_use_clause", text ";"]),
  ("_use_clause", .choice ["_path", "use_as_clause", "use_list", "scoped_use_list",
    "use_wildcard"]),
  ("scoped_use_list", .seq [opt "_path", text "::", "use_list"]),
  ("use_list", braced (separated "_use_clause")),
  ("use_as_clause", .seq ["_path", text "as", "identifier"]),
  ("use_wildcard", .seq [opt (.seq [opt "_path", text "::"]), text "*"]),
  ("parameters", parenthesized (separated (.seq [opt "attribute_item",
    .choice ["parameter", "self_parameter", "variadic_parameter", text "_", "_type"]]))),
  ("self_parameter", .seq [opt (text "&"), opt "lifetime", opt "mutable_specifier", "self"]),
  ("variadic_parameter", .seq [opt "mutable_specifier", opt (.seq ["_pattern", text ":"]),
    text "..."]),
  ("parameter", .seq [opt "mutable_specifier", .choice ["_pattern", "self"], text ":", "_type"]),
  ("extern_modifier", .seq [text "extern", opt "string_literal"]),
  ("visibility_modifier", .choice ["crate",
    .seq [text "pub", opt (parenthesized [
      .choice ["self", "super", "crate", .seq [text "in", "_path"]]])]])]

/-- Types. -/
def typeRules : List (String × Rule) := [
  ("_type", .choice ["abstract_type", "reference_type", "metavariable", "pointer_type",
    "generic_type", "scoped_type_identifier", "tuple_type", "unit_type", "array_type",
    "function_type", "_type_identifier", "macro_invocation", "never_type", "dynamic_type",
    "bounded_type", "removed_trait_bound", primitive "primitive_type"]),
  ("bracketed_type", .seq [text "<", .choice ["_type", "qualified_type"], text ">"]),
  ("qualified_type", .seq ["_type", text "as", "_type"]),
  ("lifetime", ranked 1 (.seq [text "\x27", "identifier"])),
  ("array_type", .seq [text "[", "_type", opt (.seq [text ";", "_expression"]), text "]"]),
  ("for_lifetimes", .seq [text "for", text "<", commas1 "lifetime", opt (text ","), text ">"]),
  ("function_type", .seq [opt "for_lifetimes",
    ranked 15 (.seq [
      .choice [.choice ["_type_identifier", "scoped_type_identifier"],
        .seq [opt "function_modifiers", text "fn"]],
      "parameters"]),
    result]),
  ("tuple_type", parenthesized [commas1 "_type", opt (text ",")]),
  ("unit_type", .seq [text "(", text ")"]),
  ("generic_function", ranked 1 (.seq [.choice ["identifier", "scoped_identifier",
    "field_expression"], text "::", "type_arguments"])),
  ("generic_type", ranked 1 (.seq [.choice ["_type_identifier", "_reserved_identifier",
    "scoped_type_identifier"], "type_arguments"])),
  ("generic_type_with_turbofish", .seq [.choice ["_type_identifier", "scoped_identifier"],
    text "::", "type_arguments"]),
  ("bounded_type",
    let part : Rule := .choice ["lifetime", "_type", "use_bounds"]
    precLeft (.value (-1)) (.seq [part, text "+", part])),
  ("use_bounds", .seq [text "use", .token ⟨some "<", .exactly "<", false, 1⟩,
    commas (.choice ["lifetime", "_type_identifier"]), opt (text ","), text ">"]),
  ("type_arguments", .seq [.token ⟨some "<", .exactly "<", false, 1⟩,
    commas1 (.seq [.choice ["_type", "type_binding", "lifetime", "_literal", "block"],
      opt "trait_bounds"]),
    opt (text ","), text ">"]),
  ("type_binding", .seq ["_type_identifier", opt "type_arguments", text "=", "_type"]),
  ("reference_type", .seq [text "&", opt "lifetime", opt "mutable_specifier", "_type"]),
  ("pointer_type", .seq [text "*", .choice [text "const", "mutable_specifier"], "_type"]),
  ("never_type", text "!"),
  ("abstract_type", .seq [text "impl", opt (.seq [text "for", "type_parameters"]),
    ranked 1 (.choice ["_type_identifier", "scoped_type_identifier", "removed_trait_bound",
      "generic_type", "function_type", "tuple_type", "bounded_type"])]),
  ("dynamic_type", .seq [text "dyn", .choice ["higher_ranked_trait_bound", "_type_identifier",
    "scoped_type_identifier", "generic_type", "function_type", "tuple_type"]]),
  ("mutable_specifier", text "mut")]

/-- Expressions. -/
def expressionRules : List (String × Rule) := [
  ("_expression_except_range", .choice ["unary_expression", "reference_expression",
    "try_expression", "binary_expression", "assignment_expression", "compound_assignment_expr",
    "type_cast_expression", "call_expression", "return_expression", "yield_expression",
    "_literal", groupLeft "identifier", primitive "identifier", groupLeft "_reserved_identifier",
    "self", "scoped_identifier", "generic_function", "await_expression", "field_expression",
    "array_expression", "tuple_expression", ranked 1 "macro_invocation", "unit_expression",
    "break_expression", "continue_expression", "index_expression", "metavariable",
    "closure_expression", "parenthesized_expression", "struct_expression",
    "_expression_ending_with_block"]),
  ("_expression", .choice ["_expression_except_range", "range_expression"]),
  ("macro_invocation", .seq [.choice ["scoped_identifier", "identifier", "_reserved_identifier"],
    text "!", named "delim_token_tree" "token_tree"]),
  ("delim_token_tree", delimited "_delim_tokens"),
  ("_delim_tokens", .choice ["_non_delim_token", named "delim_token_tree" "token_tree"]),
  ("_non_delim_token", .choice ["_non_special_token", text "$"]),
  ("scoped_identifier", .seq [opt (.choice ["_path", "bracketed_type", turbofish]), text "::",
    .choice ["identifier", "super"]]),
  ("scoped_type_identifier_in_expression_position",
    ranked (-2) (.seq [opt (.choice ["_path", turbofish]), text "::", "_type_identifier"])),
  ("scoped_type_identifier", .seq [
    opt (.choice ["_path", turbofish, "bracketed_type", "generic_type"]), text "::",
    "_type_identifier"]),
  ("range_expression", precLeft (.value 1) (.choice [
    .seq ["_expression", texts ["..", "...", "..="], "_expression"],
    .seq ["_expression", text ".."],
    .seq [text "..", "_expression"],
    text ".."])),
  ("unary_expression", ranked 12 (.seq [texts ["-", "*", "!"], "_expression"])),
  ("try_expression", ranked 13 (.seq ["_expression", text "?"])),
  ("reference_expression", ranked 12 (.seq [text "&",
    .choice [.seq [text "raw", .choice [text "const", "mutable_specifier"]],
      opt "mutable_specifier"],
    "_expression"])),
  ("binary_expression", .choice [
    binary 3 ["&&"],
    binary 2 ["||"],
    binary 7 ["&"],
    binary 5 ["|"],
    binary 6 ["^"],
    binary 4 ["==", "!=", "<", "<=", ">", ">="],
    binary 8 ["<<", ">>"],
    binary 9 ["+", "-"],
    binary 10 ["*", "/", "%"]]),
  ("assignment_expression", binary 0 ["="]),
  ("compound_assignment_expr",
    binary 0 ["+=", "-=", "*=", "/=", "%=", "&=", "|=", "^=", "<<=", ">>="]),
  ("type_cast_expression", precLeft (.value 11) (.seq ["_expression", text "as", "_type"])),
  ("return_expression", .choice [groupLeft (.seq [text "return", "_expression"]),
    ranked (-1) (text "return")]),
  ("yield_expression", .choice [groupLeft (.seq [text "yield", "_expression"]),
    ranked (-1) (text "yield")]),
  ("call_expression", ranked 15 (.seq ["_expression_except_range", "arguments"])),
  ("arguments", parenthesized (separated (.seq [attributes, "_expression"]))),
  ("array_expression", bracketed [attributes, .choice [
    .seq ["_expression", text ";", "_expression"],
    .seq (separated (.seq [attributes, "_expression"]))]]),
  ("parenthesized_expression", parenthesized ["_expression"]),
  ("tuple_expression", parenthesized [attributes, .seq ["_expression", text ","],
    many (.seq ["_expression", text ","]), opt "_expression"]),
  ("unit_expression", .seq [text "(", text ")"]),
  ("struct_expression", .seq [.choice ["_type_identifier",
    named "scoped_type_identifier_in_expression_position" "scoped_type_identifier",
    "generic_type_with_turbofish"], "field_initializer_list"]),
  ("field_initializer_list", braced (separated (.choice ["shorthand_field_initializer",
    "field_initializer", "base_field_initializer"]))),
  ("shorthand_field_initializer", .seq [attributes, "identifier"]),
  ("field_initializer", .seq [attributes, .choice ["_field_identifier", "integer_literal"],
    text ":", "_expression"]),
  ("base_field_initializer", .seq [text "..", "_expression"]),
  ("if_expression", groupRight (.seq [text "if", "_condition", "block", opt "else_clause"])),
  ("let_condition", .seq [text "let", "_pattern", text "=", precLeft (.value 3) "_expression"]),
  ("_let_chain", precLeft (.value 3) (.choice [
    .seq ["_let_chain", text "&&", "let_condition"],
    .seq ["_let_chain", text "&&", "_expression"],
    .seq ["let_condition", text "&&", "_expression"],
    .seq ["let_condition", text "&&", "let_condition"],
    .seq ["_expression", text "&&", "let_condition"]])),
  ("_condition", .choice ["_expression", "let_condition", named "_let_chain" "let_chain"]),
  ("else_clause", .seq [text "else", .choice ["block", "if_expression"]]),
  ("match_expression", .seq [text "match", "_expression", "match_block"]),
  ("match_block",
    braced [opt (.seq [many "match_arm", named "last_match_arm" "match_arm"])]),
  ("match_arm", groupRight (.seq [many (.choice ["attribute_item", "inner_attribute_item"]),
    "match_pattern", text "=>",
    .choice [.seq ["_expression", text ","], ranked 1 "_expression_ending_with_block"]])),
  ("last_match_arm", .seq [many (.choice ["attribute_item", "inner_attribute_item"]),
    "match_pattern", text "=>", "_expression", opt (text ",")]),
  ("match_pattern", .seq ["_pattern", opt (.seq [text "if", "_condition"])]),
  ("while_expression", .seq [labelled, text "while", "_condition", "block"]),
  ("loop_expression", .seq [labelled, text "loop", "block"]),
  ("for_expression", .seq [labelled, text "for", "_pattern", text "in", "_expression", "block"]),
  ("const_block", .seq [text "const", "block"]),
  ("closure_expression", ranked (-1) (.seq [opt (text "static"), opt (text "async"),
    opt (text "move"), "closure_parameters",
    .choice [.seq [result, "block"], .choice ["_expression", text "_"]]])),
  ("closure_parameters",
    .seq [text "|", commas (.choice ["_pattern", "parameter"]), text "|"]),
  ("label", .seq [text "\x27", "identifier"]),
  ("break_expression", groupLeft (.seq [text "break", opt "label", opt "_expression"])),
  ("continue_expression", groupLeft (.seq [text "continue", opt "label"])),
  ("index_expression", ranked 15 (.seq ["_expression", text "[", "_expression", text "]"])),
  ("await_expression", ranked 14 (.seq ["_expression", text ".", text "await"])),
  ("field_expression", ranked 14 (.seq ["_expression", text ".",
    .choice ["_field_identifier", "integer_literal"]])),
  ("unsafe_block", .seq [text "unsafe", "block"]),
  ("async_block", .seq [text "async", opt (text "move"), "block"]),
  ("gen_block", .seq [text "gen", opt (text "move"), "block"]),
  ("try_block", .seq [text "try", "block"]),
  ("block", .seq [labelled, text "\x7b", many "_statement", opt "_expression", text "\x7d"])]

/-- Patterns. -/
def patternRules : List (String × Rule) := [
  ("_pattern", .choice ["_literal_pattern", primitive "identifier", "identifier",
    "scoped_identifier", "generic_pattern", "tuple_pattern", "tuple_struct_pattern",
    "struct_pattern", "_reserved_identifier", "ref_pattern", "slice_pattern", "captured_pattern",
    "reference_pattern", "remaining_field_pattern", "mut_pattern", "range_pattern", "or_pattern",
    "const_block", "macro_invocation", text "_"]),
  ("generic_pattern", .seq [.choice ["identifier", "scoped_identifier"], text "::",
    "type_arguments"]),
  ("tuple_pattern", parenthesized (separated (.choice ["_pattern", "closure_expression"]))),
  ("slice_pattern", bracketed (separated "_pattern")),
  ("tuple_struct_pattern", .seq [.choice ["identifier", "scoped_identifier", turbofish],
    parenthesized (separated "_pattern")]),
  ("struct_pattern", .seq [.choice ["_type_identifier", "scoped_type_identifier"],
    braced (separated (.choice ["field_pattern", "remaining_field_pattern"]))]),
  ("field_pattern", .seq [opt (text "ref"), opt "mutable_specifier",
    .choice [named "identifier" "shorthand_field_identifier",
      .seq ["_field_identifier", text ":", "_pattern"]]]),
  ("remaining_field_pattern", text ".."),
  ("mut_pattern", ranked (-1) (.seq ["mutable_specifier", "_pattern"])),
  ("range_pattern",
    let bound : Rule := .choice ["_literal_pattern", "_path"]
    .choice [
      .seq [bound, .choice [.seq [texts ["...", "..=", ".."], bound], text ".."]],
      .seq [texts ["..=", ".."], bound]]),
  ("ref_pattern", .seq [text "ref", "_pattern"]),
  ("captured_pattern", .seq ["identifier", text "@", "_pattern"]),
  ("reference_pattern", .seq [text "&", opt "mutable_specifier", "_pattern"]),
  ("or_pattern", precLeft (.value (-2)) (.choice [.seq ["_pattern", text "|", "_pattern"],
    .seq [text "|", "_pattern"]]))]

/-- Literals, comments and names. -/
def literalRules : List (String × Rule) := [
  ("_literal", .choice ["string_literal", "raw_string_literal", "char_literal",
    "boolean_literal", "integer_literal", "float_literal"]),
  ("_literal_pattern", .choice ["string_literal", "raw_string_literal", "char_literal",
    "boolean_literal", "integer_literal", "float_literal", "negative_literal"]),
  ("negative_literal", .seq [text "-", .choice ["integer_literal", "float_literal"]]),
  ("integer_literal", shape integer),
  ("string_literal", .seq [asText (shape stringStart) "\x22",
    many (.choice ["escape_sequence", "string_content"]), immediateText "\x22" 0]),
  ("raw_string_literal", .seq ["_raw_string_literal_start",
    named "raw_string_literal_content" "string_content", "_raw_string_literal_end"]),
  ("char_literal", shape character),
  ("escape_sequence", immediate escape 0),
  ("boolean_literal", texts ["true", "false"]),
  ("comment", .choice ["line_comment", "block_comment"]),
  ("line_comment", .seq [text "//", .choice [
    .seq [moreSlashes, restOfLine],
    .seq ["_line_doc_comment_marker", named "_line_doc_content" "doc_comment"],
    commentText]]),
  ("_line_doc_comment_marker", .choice [
    named "_outer_line_doc_comment_marker" "outer_doc_comment_marker",
    named "_inner_line_doc_comment_marker" "inner_doc_comment_marker"]),
  ("_inner_line_doc_comment_marker", immediateText "!" 2),
  ("_outer_line_doc_comment_marker", immediateText "/" 2),
  ("block_comment", .seq [text "/*", opt (.choice [
    .seq ["_block_doc_comment_marker", opt (named "_block_comment_content" "doc_comment")],
    "_block_comment_content"]), text "*/"]),
  ("_block_doc_comment_marker", .choice [
    named "_outer_block_doc_comment_marker" "outer_doc_comment_marker",
    named "_inner_block_doc_comment_marker" "inner_doc_comment_marker"]),
  ("_path", .choice ["self", primitive "identifier", "metavariable", "super", "crate",
    "identifier", "scoped_identifier", "_reserved_identifier"]),
  ("identifier", shape identifier),
  ("shebang", shape shebang),
  ("_reserved_identifier", named (texts ["default", "union", "gen", "raw"]) "identifier"),
  ("_type_identifier", named "identifier" "type_identifier"),
  ("_field_identifier", named "identifier" "field_identifier"),
  ("self", text "self"),
  ("super", text "super"),
  ("crate", text "crate"),
  ("metavariable", shape metavariable),
  ("_expression_ending_with_block", .choice ["unsafe_block", "async_block", "gen_block",
    "try_block", "block", "if_expression", "match_expression", "while_expression",
    "loop_expression", "for_expression", "const_block"])]

/-- All rules. -/
def rules : List (String × Rule) :=
  macroRules ++ declarationRules ++ typeRules ++ expressionRules ++ patternRules ++ literalRules

/-! ### The grammar -/

/-- The grammar. -/
def grammar : Source := {
  rules := rules
  extras := [.blanks .blanks, .rule "line_comment", .rule "block_comment"]
  handTokens := [.own "string_content", .own "_raw_string_literal_start",
    .own "raw_string_literal_content", .own "_raw_string_literal_end", .own "float_literal",
    .own "_outer_block_doc_comment_marker", .own "_inner_block_doc_comment_marker",
    .own "_block_comment_content", .own "_line_doc_content", .own "_error_sentinel"]
  inlined := ["_path", "_type_identifier", "_tokens", "_field_identifier", "_non_special_token",
    "_declaration_statement", "_reserved_identifier", "_expression_ending_with_block"]
  categories := ["_expression", "_type", "_literal", "_literal_pattern", "_declaration_statement",
    "_pattern"]
  orders := []
  word := "identifier"
  notInRecovery := [separator, moreSlashes, restOfLine, commentText, text "*/"] }

end RtlLiterals.Grammar.Rust
