/-!
# Symbols of the grammar

A `Symbol` is a terminal, a nonterminal or one of a few kinds under which syntax nodes are only
displayed.  Terminals come first: `0` is the end of the text, `1` an identifier, then the other
tokens, and last the tokens that the layout of the text produces (line ends, indentation and the
parts of strings).  A symbol that is not `shown` never becomes a node of its own: its children
stand in its place.  A shown symbol is `named` unless it is punctuation or a keyword.
-/

namespace CallContext

/-- A terminal, a nonterminal, or a kind of syntax node. -/
structure Symbol where
  code : Nat
deriving DecidableEq, Repr

namespace Symbol

/-- Codes below this number are terminals. -/
def terminalCount : Nat := 108

/-- What each symbol is called in messages; symbols that are never shown have no name. -/
def names : List String := [
  "end of text", "identifier", ";", "import", ".", "from", "__future__", "(", ")", ",", "as", "*",
  "print", ">>", "assert", ":=", "return", "del", "raise", "pass", "break", "continue", "if", ":",
  "elif", "else", "match", "case", "async", "for", "in", "while", "try", "except", "except*",
  "finally", "with", "def", "->", "**", "global", "nonlocal", "exec", "type", "=", "class", "[",
  "]", "@", "-", "_", "|", "\x7b", "\x7d", "+", "not", "and", "or", "/", "%", "//", "&", "^",
  "<<", "~", "<", "<=", "==", "!=", ">=", ">", "<>", "is", "lambda", "+=", "-=", "*=", "/=", "@=",
  "//=", "%=", "**=", ">>=", "<<=", "&=", "^=", "|=", "yield", "ellipsis", "escape_sequence", "",
  "", "type_conversion", "integer", "float", "await", "true", "false", "none", "comment",
  "line_continuation", "", "", "", "string_start", "", "escape_interpolation", "string_end",
  "module", "", "", "import_statement", "import_prefix", "relative_import",
  "future_import_statement", "import_from_statement", "", "aliased_import", "wildcard_import",
  "print_statement", "chevron", "assert_statement", "expression_statement", "named_expression",
  "", "return_statement", "delete_statement", "raise_statement", "pass_statement",
  "break_statement", "continue_statement", "if_statement", "elif_clause", "else_clause",
  "match_statement", "block", "case_clause", "for_statement", "while_statement", "try_statement",
  "except_clause", "except_group_clause", "finally_clause", "with_statement", "with_clause",
  "with_item", "function_definition", "parameters", "lambda_parameters", "list_splat",
  "dictionary_splat", "global_statement", "nonlocal_statement", "exec_statement",
  "type_alias_statement", "class_definition", "type_parameter", "parenthesized_list_splat",
  "argument_list", "decorated_definition", "decorator", "block", "expression_list", "dotted_name",
  "case_pattern", "", "as_pattern", "union_pattern", "list_pattern", "tuple_pattern",
  "dict_pattern", "", "keyword_pattern", "splat_pattern", "class_pattern", "complex_pattern", "",
  "", "", "", "tuple_pattern", "list_pattern", "default_parameter", "typed_default_parameter",
  "list_splat_pattern", "dictionary_splat_pattern", "as_pattern", "", "", "", "not_operator",
  "boolean_operator", "binary_operator", "unary_operator", "comparison_operator", "lambda",
  "lambda", "assignment", "augmented_assignment", "pattern_list", "", "yield", "attribute",
  "subscript", "slice", "call", "typed_parameter", "type", "splat_type", "generic_type",
  "union_type", "constrained_type", "member_type", "keyword_argument", "list", "set", "tuple",
  "dictionary", "pair", "list_comprehension", "dictionary_comprehension", "set_comprehension",
  "generator_expression", "", "parenthesized_expression", "", "for_in_clause", "if_clause",
  "conditional_expression", "concatenated_string", "string", "string_content", "interpolation",
  "", "format_specifier", "await", "positional_separator", "keyword_separator", "", "", "", "",
  "", "", "", "", "", "", "", "", "", "", "", "", "", "", "", "", "", "", "", "", "", "", "", "",
  "", "", "", "", "as_pattern_target", "format_expression", "not in", "is not", "error", ""]

/-- The name of a symbol. -/
def name (s : Symbol) : String := names.getD s.code ""

/-- The symbol becomes a node of its own. -/
def shown (s : Symbol) : Bool :=
  (0x7c00000003dfd7ffffeffc7f0f7dfffffffffefef9d1ff3fffffffffffffffffffffe).testBit s.code

/-- The symbol is more than punctuation or a keyword. -/
def named (s : Symbol) : Bool :=
  (0x4c00000003dfd7ffffeffc7f0f7dfffffffffefef9d1f730000000000000000000003).testBit s.code

/-! ### Terminals -/

def endOfText : Symbol := ⟨0⟩
def identifier : Symbol := ⟨1⟩
def importKeyword : Symbol := ⟨3⟩
def dot : Symbol := ⟨4⟩
def fromKeyword : Symbol := ⟨5⟩
def futureKeyword : Symbol := ⟨6⟩
def openParenthesis : Symbol := ⟨7⟩
def closeParenthesis : Symbol := ⟨8⟩
def comma : Symbol := ⟨9⟩
def asKeyword : Symbol := ⟨10⟩
def star : Symbol := ⟨11⟩
def escapeSequence : Symbol := ⟨89⟩
def loneBackslash : Symbol := ⟨90⟩
def formatText : Symbol := ⟨91⟩
def typeConversion : Symbol := ⟨92⟩
def integer : Symbol := ⟨93⟩
def float : Symbol := ⟨94⟩
def comment : Symbol := ⟨99⟩
def lineContinuation : Symbol := ⟨100⟩
def newline : Symbol := ⟨101⟩
def indent : Symbol := ⟨102⟩
def dedent : Symbol := ⟨103⟩
def stringStart : Symbol := ⟨104⟩
def stringContent : Symbol := ⟨105⟩
def escapeInterpolation : Symbol := ⟨106⟩
def stringEnd : Symbol := ⟨107⟩

/-! ### Nodes that the analysis reads -/

def importStatement : Symbol := ⟨111⟩
def importDots : Symbol := ⟨112⟩
def relativeImport : Symbol := ⟨113⟩
def futureImportStatement : Symbol := ⟨114⟩
def importFromStatement : Symbol := ⟨115⟩
def aliasedImport : Symbol := ⟨117⟩
def wildcardImport : Symbol := ⟨118⟩
def printStatement : Symbol := ⟨119⟩
def expressionStatement : Symbol := ⟨122⟩
def functionDefinition : Symbol := ⟨146⟩
def execStatement : Symbol := ⟨153⟩
def classDefinition : Symbol := ⟨155⟩
def decoratedDefinition : Symbol := ⟨159⟩
def block : Symbol := ⟨161⟩
def dottedName : Symbol := ⟨163⟩
def attributeAccess : Symbol := ⟨202⟩
def call : Symbol := ⟨205⟩
def string : Symbol := ⟨230⟩

/-! ### Text that no rule of the grammar covers -/

/-- A stretch of text that could not be parsed. -/
def error : Symbol := ⟨274⟩

/-- A stretch of skipped tokens, before it is closed off as an `error`. -/
def skipped : Symbol := ⟨275⟩

/-- The symbol stands for text outside the grammar. -/
def isFault (s : Symbol) : Bool := s == error || s == skipped

end Symbol

end CallContext
