import RtlLiterals.Grammar.JavaScript

/-!
# RtlLiterals.Grammar.TypeScript -- the grammar of TypeScript

TypeScript adds types to the grammar of JavaScript. There are two forms of it: one has markup
expressions, the other has type assertions in angle brackets instead.

## §A How the rules are given

A change makes a rule out of the one that JavaScript has under the same name; new rules are made
out of nothing.
-/

namespace RtlLiterals.Grammar.TypeScript

open Rule

/-- A change that does not look at the earlier rule. -/
def put (name : String) (r : Rule) : String × (Rule → Rule) := (name, fun _ => r)

/-- A change that adds choices after the earlier ones. -/
def add (name : String) (rs : List Rule) : String × (Rule → Rule) :=
  (name, fun earlier => .choice (earlier :: rs))

/-- The choices of a rule. -/
def choicesOf : Rule → List Rule
  | .choice rs => rs
  | r => [r]

/-! ### Parts of rules -/

/-- An optional type. -/
def optionalType : Rule := opt "type_annotation"

/-- A name in a pattern of a declaration. -/
def bindingName : Rule := .choice ["identifier", "_destructuring_pattern"]

/-- The name and members of a class. -/
def classTail (name : Rule) : List Rule :=
  [name, opt "type_parameters", opt "class_heritage", "class_body"]

/-- The words before the name of a method. -/
def methodWords : List Rule :=
  [opt "accessibility_modifier", opt (text "static"), opt "override_modifier",
    opt (text "readonly"), opt (text "async"), opt (texts ["get", "set", "*"])]

/-- The part of an expression that a type query looks into. -/
def queriedObject : Rule := .choice ["identifier", "this",
  named "_type_query_subscript_expression" "subscript_expression",
  named "_type_query_member_expression" "member_expression",
  named "_type_query_call_expression" "call_expression"]

/-- The function that a type query calls or instantiates. -/
def queriedFunction : Rule := .choice ["import", "identifier",
  named "_type_query_member_expression" "member_expression",
  named "_type_query_subscript_expression" "subscript_expression"]

/-- A name after a dot. -/
def property : Rule :=
  .choice ["private_property_identifier", named "identifier" "property_identifier"]

/-- The type of what an import gives. -/
def importedMember : Rule :=
  named "_type_query_member_expression_in_type_annotation" "member_expression"

/-- The type of what a call of an import gives. -/
def importedCall : Rule :=
  named "_type_query_call_expression_in_type_annotation" "call_expression"

/-- What a decorator may name. -/
def decorated : List Rule := ["identifier", named "decorator_member_expression" "member_expression",
  named "decorator_call_expression" "call_expression"]

/-! ### Changes -/

/-- The changes to calls, operators and markup; `markup` tells the two forms apart. -/
def expressionChanges (markup : Bool) : List (String × (Rule → Rule)) := [
  put "public_field_definition" (.seq [JavaScript.decorators,
    opt (.choice [
      .seq [text "declare", opt "accessibility_modifier"],
      .seq ["accessibility_modifier", opt (text "declare")]]),
    .choice [
      .seq [opt (text "static"), opt "override_modifier", opt (text "readonly")],
      .seq [opt (text "abstract"), opt (text "readonly")],
      .seq [opt (text "readonly"), opt (text "abstract")],
      opt (text "accessor")],
    "_property_name", opt (texts ["?", "!"]), optionalType, opt "_initializer"]),
  put "catch_clause" (.seq [text "catch",
    opt (.seq [text "(", bindingName, optionalType, text ")"]), "statement_block"]),
  put "call_expression" (.choice [
    prec "call" (.seq [.choice ["expression", "import"], opt "type_arguments", "arguments"]),
    prec "template_call" (.seq [.choice ["primary_expression", "new_expression"],
      "template_string"]),
    prec "member" (.seq ["primary_expression", text "?.", opt "type_arguments", "arguments"])]),
  put "new_expression" (precRight "new" (.seq [text "new", "primary_expression",
    opt "type_arguments", opt "arguments"])),
  put "assignment_expression" (precRight "assign" (.seq [opt (text "using"),
    .choice ["parenthesized_expression", "_lhs_expression"], text "=", "expression"])),
  add "_augmented_assignment_lhs" ["non_null_expression"],
  add "_lhs_expression" ["non_null_expression"],
  add "primary_expression" ["non_null_expression"],
  ("expression", fun earlier =>
    let own : List Rule :=
      ["as_expression", "satisfies_expression", "instantiation_expression", "internal_module"]
    if markup then .choice (own ++ choicesOf earlier)
    else .choice (own ++ [.ref "type_assertion"] ++
      (choicesOf earlier).filter fun r => r != .ref "_jsx_element")),
  put "_jsx_start_opening_element" (.seq [text "<", opt (.seq [
    .choice [
      .choice ["_jsx_identifier", "jsx_namespace_name"],
      .seq [.choice ["identifier", named "nested_identifier" "member_expression"],
        opt "type_arguments"]],
    many "_jsx_attribute"])]),
  put "jsx_opening_element" (.dynamic (-1) (.seq ["_jsx_start_opening_element", text ">"])),
  put "jsx_self_closing_element" (.dynamic (-1) (.seq ["_jsx_start_opening_element", text "/>"]))]

/-- The changes to modules and declarations. -/
def declarationChanges : List (String × (Rule → Rule)) := [
  ("export_specifier", fun earlier => .seq [opt (texts ["type", "typeof"]), earlier]),
  put "_import_identifier" (.choice ["identifier", named (text "type") "identifier"]),
  put "import_specifier" (.seq [opt (texts ["type", "typeof"]), .choice ["_import_identifier",
    .seq [.choice ["_module_export_name", named (text "default") "identifier"], text "as",
      "_import_identifier"]]]),
  put "import_clause" (.choice ["namespace_import", "named_imports",
    .seq ["_import_identifier",
      opt (.seq [text ",", .choice ["namespace_import", "named_imports"]])]]),
  put "import_statement" (.seq [text "import", opt (texts ["type", "typeof"]),
    .choice [.seq ["import_clause", "_from_clause"], "import_require_clause", "string"],
    opt "import_attribute", "_semicolon"]),
  add "export_statement" [
    .seq [text "export", text "type", "export_clause", opt "_from_clause", "_semicolon"],
    .seq [text "export", text "import", "import_alias"],
    .seq [text "export", text "=", "expression", "_semicolon"],
    .seq [text "export", text "as", text "namespace", "identifier", "_semicolon"]],
  put "non_null_expression" (precLeft "unary" (.seq ["expression", text "!"])),
  put "variable_declarator" (.choice [
    .seq [bindingName, optionalType, opt "_initializer"],
    prec "declare" (.seq ["identifier", text "!", "type_annotation"])]),
  put "method_signature"
    (.seq (methodWords ++ [.ref "_property_name", opt (text "?"), "_call_signature"])),
  put "abstract_method_signature" (.seq [opt "accessibility_modifier", text "abstract",
    opt "override_modifier", opt (texts ["get", "set", "*"]), "_property_name", opt (text "?"),
    "_call_signature"]),
  put "parenthesized_expression" (parenthesized [
    .choice [.seq ["expression", optionalType], "sequence_expression"]]),
  put "_formal_parameter" (.choice ["required_parameter", "optional_parameter"]),
  put "function_signature" (.seq [opt (text "async"), text "function", "identifier",
    "_call_signature", .choice ["_semicolon", "_function_signature_automatic_semicolon"]]),
  put "decorator" (.seq [text "@", .choice (decorated ++
    [named "decorator_parenthesized_expression" "parenthesized_expression"])]),
  put "decorator_call_expression" (prec "call" (.seq [
    .choice ["identifier", named "decorator_member_expression" "member_expression"],
    opt "type_arguments", "arguments"])),
  put "decorator_parenthesized_expression" (parenthesized [.choice decorated]),
  put "class_body" (braced [many (.choice [
    .seq [JavaScript.decorators, "method_definition", opt "_semicolon"],
    .seq ["method_signature", .choice ["_function_signature_automatic_semicolon", text ","]],
    "class_static_block",
    .seq [.choice ["abstract_method_signature", "index_signature", "method_signature",
      "public_field_definition"], .choice ["_semicolon", text ","]],
    text ";"])]),
  put "method_definition" (groupLeft (.seq (methodWords ++
    [.ref "_property_name", opt (text "?"), "_call_signature", "statement_block"]))),
  add "declaration" ["function_signature", "abstract_class_declaration", "module",
    prec "declare" "internal_module", "type_alias_declaration", "enum_declaration",
    "interface_declaration", "import_alias", "ambient_declaration"],
  put "type_assertion" (precLeft "unary" (.seq ["type_arguments", "expression"])),
  put "as_expression"
    (precLeft "binary" (.seq ["expression", text "as", .choice [text "const", "type"]])),
  put "satisfies_expression" (precLeft "binary" (.seq ["expression", text "satisfies", "type"])),
  put "instantiation_expression" (prec "instantiation" (.seq ["expression", "type_arguments"])),
  put "class_heritage"
    (.choice [.seq ["extends_clause", opt "implements_clause"], "implements_clause"]),
  put "import_require_clause" (.seq ["identifier", text "=", text "require", text "(", "string",
    text ")"]),
  put "extends_clause" (.seq [text "extends", commas1 "_extends_clause_single"]),
  put "_extends_clause_single" (prec "extends" (.seq ["expression", opt "type_arguments"])),
  put "implements_clause" (.seq [text "implements", commas1 "type"]),
  put "ambient_declaration" (.seq [text "declare", .choice ["declaration",
    .seq [text "global", "statement_block"],
    .seq [text "module", text ".", named "identifier" "property_identifier", text ":", "type",
      "_semicolon"]]]),
  put "class" (prec "literal"
    (.seq ([JavaScript.decorators, text "class"] ++ classTail (opt "_type_identifier")))),
  put "abstract_class_declaration" (prec "declare" (.seq ([JavaScript.decorators,
    text "abstract", text "class"] ++ classTail "_type_identifier"))),
  put "class_declaration" (precLeft "declare" (.seq ([JavaScript.decorators, text "class"] ++
    classTail "_type_identifier" ++ [opt "_automatic_semicolon"]))),
  put "module" (.seq [text "module", "_module"]),
  put "internal_module" (.seq [text "namespace", "_module"]),
  put "_module" (groupRight (.seq [.choice ["string", "identifier", "nested_identifier"],
    opt "statement_block"])),
  put "import_alias" (.seq [text "import", "identifier", text "=",
    .choice ["identifier", "nested_identifier"], "_semicolon"]),
  put "nested_type_identifier" (prec "member" (.seq [.choice ["identifier", "nested_identifier"],
    text ".", "_type_identifier"])),
  put "interface_declaration" (prec "declare" (.seq [text "interface", "_type_identifier",
    opt "type_parameters", opt "extends_type_clause", named "object_type" "interface_body"])),
  put "extends_type_clause" (.seq [text "extends", commas1 (.choice ["_type_identifier",
    "nested_type_identifier", "generic_type"])]),
  put "enum_declaration"
    (prec "declare" (.seq [opt (text "const"), text "enum", "identifier", "enum_body"])),
  put "enum_body" (braced [opt (.seq [
    sepBy1 (text ",") (.choice ["_property_name", "enum_assignment"]), opt (text ",")])]),
  put "enum_assignment" (.seq ["_property_name", "_initializer"]),
  put "type_alias_declaration" (prec "declare" (.seq [text "type", "_type_identifier",
    opt "type_parameters", text "=", "type", "_semicolon"])),
  put "accessibility_modifier" (texts ["public", "private", "protected"]),
  put "override_modifier" (text "override"),
  put "required_parameter" (.seq ["_parameter_name", optionalType, opt "_initializer"]),
  put "optional_parameter"
    (.seq ["_parameter_name", text "?", optionalType, opt "_initializer"]),
  put "_parameter_name" (.seq [JavaScript.decorators, opt "accessibility_modifier",
    opt "override_modifier", opt (text "readonly"), .choice ["pattern", "this"]])]

/-- The rules for types. -/
def typeChanges : List (String × (Rule → Rule)) := [
  put "omitting_type_annotation" (.seq [text "-?:", "type"]),
  put "adding_type_annotation" (.seq [text "+?:", "type"]),
  put "opting_type_annotation" (.seq [text "?:", "type"]),
  put "type_annotation" (.seq [text ":", .choice ["type", importedMember, importedCall]]),
  put "_type_query_member_expression_in_type_annotation" (.seq [
    .choice ["import", importedMember, importedCall], text ".", property]),
  put "_type_query_call_expression_in_type_annotation"
    (.seq [.choice ["import", importedMember], "arguments"]),
  put "asserts" (.seq [text "asserts", .choice ["type_predicate", "identifier", "this"]]),
  put "asserts_annotation" (.seq [text ":", "asserts"]),
  put "type" (.choice ["primary_type", "function_type", "readonly_type", "constructor_type",
    "infer_type", prec (.value (-1)) importedMember, prec (.value (-1)) importedCall]),
  put "tuple_parameter" (.seq [.choice ["identifier", "rest_pattern"], "type_annotation"]),
  put "optional_tuple_parameter" (.seq ["identifier", text "?", "type_annotation"]),
  put "optional_type" (.seq ["type", text "?"]),
  put "rest_type" (.seq [text "...", "type"]),
  put "_tuple_type_member" (.choice [named "tuple_parameter" "required_parameter",
    named "optional_tuple_parameter" "optional_parameter", "optional_type", "rest_type", "type"]),
  put "constructor_type" (groupLeft (.seq [opt (text "abstract"), text "new",
    opt "type_parameters", "formal_parameters", text "=>", "type"])),
  put "primary_type" (.choice ["parenthesized_type", "predefined_type", "_type_identifier",
    "nested_type_identifier", "generic_type", "object_type", "array_type", "tuple_type",
    "flow_maybe_type", "type_query", "index_type_query", named "this" "this_type",
    "existential_type", "literal_type", "lookup_type", "conditional_type",
    "template_literal_type", "intersection_type", "union_type", text "const"]),
  put "template_type"
    (.seq [text "$\x7b", .choice ["primary_type", "infer_type"], text "\x7d"]),
  put "template_literal_type" (.seq [text "\x60",
    many (.choice [named "_template_chars" "string_fragment", "template_type"]), text "\x60"]),
  put "infer_type" (groupRight (.seq [text "infer", "_type_identifier",
    opt (.seq [text "extends", "type"])])),
  put "conditional_type" (groupRight (.seq ["type", text "extends", "type", text "?", "type",
    text ":", "type"])),
  put "generic_type" (prec "call" (.seq [.choice ["_type_identifier", "nested_type_identifier"],
    "type_arguments"])),
  put "type_predicate" (.seq [
    .choice ["identifier", "this", named "predefined_type" "identifier"], text "is", "type"]),
  put "type_predicate_annotation" (.seq [text ":", "type_predicate"]),
  put "_type_query_member_expression" (.seq [queriedObject, texts [".", "?."], property]),
  put "_type_query_subscript_expression" (.seq [queriedObject, opt (text "?."), text "[",
    .choice ["predefined_type", "string", "number"], text "]"]),
  put "_type_query_call_expression" (.seq [queriedFunction, "arguments"]),
  put "_type_query_instantiation_expression" (.seq [queriedFunction, "type_arguments"]),
  put "type_query" (groupRight (.seq [text "typeof", .choice [
    named "_type_query_subscript_expression" "subscript_expression",
    named "_type_query_member_expression" "member_expression",
    named "_type_query_call_expression" "call_expression",
    named "_type_query_instantiation_expression" "instantiation_expression",
    "identifier", "this"]])),
  put "index_type_query" (.seq [text "keyof", "primary_type"]),
  put "lookup_type" (.seq ["primary_type", text "[", "type", text "]"]),
  put "mapped_type_clause"
    (.seq ["_type_identifier", text "in", "type", opt (.seq [text "as", "type"])]),
  put "literal_type" (.choice [named "_number" "unary_expression", "number", "string", "true",
    "false", "null", "undefined"]),
  put "_number" (precLeft (.value 1) (.seq [texts ["-", "+"], "number"])),
  put "existential_type" (text "*"),
  put "flow_maybe_type" (groupRight (.seq [text "?", "primary_type"])),
  put "parenthesized_type" (parenthesized ["type"]),
  put "predefined_type" (.choice ((["any", "number", "boolean", "string", "symbol"].map text) ++
    [asText (.seq [text "unique", text "symbol"]) "unique symbol"] ++
    (["void", "unknown", "string", "never", "object"].map text))),
  put "type_arguments" (.seq [text "<", commas1 "type", opt (text ","), text ">"]),
  put "object_type" (.seq [texts ["\x7b", "\x7b|"],
    opt (.seq [opt (texts [",", ";"]),
      sepBy1 (.choice [text ",", "_semicolon"]) (.choice ["export_statement",
        "property_signature", "call_signature", "construct_signature", "index_signature",
        "method_signature"]),
      opt (.choice [text ",", "_semicolon"])]),
    texts ["\x7d", "|\x7d"]]),
  put "call_signature" "_call_signature",
  put "property_signature" (.seq [opt "accessibility_modifier", opt (text "static"),
    opt "override_modifier", opt (text "readonly"), "_property_name", opt (text "?"),
    optionalType]),
  put "_call_signature" (.seq [opt "type_parameters", "formal_parameters",
    opt (.choice ["type_annotation", "asserts_annotation", "type_predicate_annotation"])]),
  put "type_parameters" (.seq [text "<", commas1 "type_parameter", opt (text ","), text ">"]),
  put "type_parameter" (.seq [opt (text "const"), "_type_identifier", opt "constraint",
    opt "default_type"]),
  put "default_type" (.seq [text "=", "type"]),
  put "constraint" (.seq [texts ["extends", ":"], "type"]),
  put "construct_signature" (.seq [opt (text "abstract"), text "new", opt "type_parameters",
    "formal_parameters", optionalType]),
  put "index_signature" (.seq [opt (.seq [opt (texts ["-", "+"]), text "readonly"]), text "[",
    .choice [
      .seq [.choice ["identifier", named "_reserved_identifier" "identifier"], text ":", "type"],
      "mapped_type_clause"],
    text "]",
    .choice ["type_annotation", "omitting_type_annotation", "adding_type_annotation",
      "opting_type_annotation"]]),
  put "array_type" (.seq ["primary_type", text "[", text "]"]),
  put "tuple_type" (.seq [text "[", commas "_tuple_type_member", opt (text ","), text "]"]),
  put "readonly_type" (.seq [text "readonly", "type"]),
  put "union_type" (groupLeft (.seq [opt "type", text "|", "type"])),
  put "intersection_type" (groupLeft (.seq [opt "type", text "&", "type"])),
  put "function_type" (groupLeft (.seq [opt "type_parameters", "formal_parameters", text "=>",
    .choice ["type", "asserts", "type_predicate"]])),
  put "_type_identifier" (named "identifier" "type_identifier"),
  ("_reserved_identifier", fun earlier => .choice
    ((["declare", "namespace", "type", "public", "private", "protected", "override", "readonly",
      "module", "any", "number", "boolean", "string", "symbol", "export", "object", "new",
      "readonly"].map text) ++ [earlier]))]

/-- All rules. -/
def rules (markup : Bool) : List (String × Rule) :=
  extendRules JavaScript.rules (expressionChanges markup ++ declarationChanges ++ typeChanges)

/-! ### The grammar -/

/-- The orders of precedences that types need. -/
def typeOrders : List (List OrderEntry) := [
  [.named "call", .named "instantiation", .named "unary", .named "binary",
    .rule "await_expression", .rule "arrow_function"],
  [.named "extends", .named "instantiation"],
  [.rule "intersection_type", .rule "union_type", .rule "conditional_type",
    .rule "function_type", .named "binary", .rule "type_predicate", .rule "readonly_type"],
  [.rule "mapped_type_clause", .rule "primary_expression"],
  [.rule "accessibility_modifier", .rule "primary_expression"],
  [.named "unary_void", .rule "expression"],
  [.rule "extends_clause", .rule "primary_expression"],
  [.named "unary", .named "assign"],
  [.named "declare", .rule "expression"],
  [.rule "predefined_type", .rule "unary_expression"],
  [.rule "type", .rule "flow_maybe_type"],
  [.rule "tuple_type", .rule "array_type", .rule "pattern", .rule "type"],
  [.rule "readonly_type", .rule "pattern"],
  [.rule "readonly_type", .rule "primary_expression"],
  [.rule "type_query", .rule "subscript_expression", .rule "expression"],
  [.rule "type_query", .rule "_type_query_subscript_expression"],
  [.rule "nested_type_identifier", .rule "generic_type", .rule "primary_type",
    .rule "lookup_type", .rule "index_type_query", .rule "type"],
  [.rule "as_expression", .rule "satisfies_expression", .rule "primary_type"],
  [.rule "_type_query_member_expression", .rule "member_expression"],
  [.rule "member_expression", .rule "_type_query_member_expression_in_type_annotation"],
  [.rule "_type_query_member_expression", .rule "primary_expression"],
  [.rule "_type_query_subscript_expression", .rule "subscript_expression"],
  [.rule "_type_query_subscript_expression", .rule "primary_expression"],
  [.rule "_type_query_call_expression", .rule "primary_expression"],
  [.rule "_type_query_instantiation_expression", .rule "primary_expression"],
  [.rule "type_query", .rule "primary_expression"],
  [.rule "override_modifier", .rule "primary_expression"],
  [.rule "decorator_call_expression", .rule "decorator"],
  [.rule "literal_type", .rule "pattern"],
  [.rule "predefined_type", .rule "pattern"],
  [.rule "call_expression", .rule "_type_query_call_expression"],
  [.rule "call_expression", .rule "_type_query_call_expression_in_type_annotation"],
  [.rule "new_expression", .rule "primary_expression"],
  [.rule "meta_property", .rule "primary_expression"],
  [.rule "construct_signature", .rule "_property_name"]]

/-- The grammar, with or without markup. -/
def grammar (markup : Bool) : Source := {
  rules := rules markup
  extras := JavaScript.extras
  handTokens := JavaScript.handTokens ++
    [.own "_function_signature_automatic_semicolon", .own "__error_recovery"]
  inlined := (JavaScript.inlined.filter fun r => r != "_formal_parameter" && r != "_call_signature")
    ++ ["_type_identifier", "_jsx_start_opening_element"]
  categories := JavaScript.categories ++ ["type", "primary_type"]
  orders := JavaScript.orders ++ typeOrders
  word := "identifier"
  notInRecovery := JavaScript.notInRecovery ++ 
    (if markup then [text "?:"] else [text "?:", text "</"]) }

end RtlLiterals.Grammar.TypeScript
