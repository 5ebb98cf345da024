/-! # Vocabulary of the syntax tree

    The constructs and tokens of the Python grammar, and the names that a syntax node is
    known by. A construct (`Phrase`) is built from smaller parts; a `Terminal` is one token.
    Some constructs only group others for the grammar's sake: they are hidden, and a tree
    shows their parts in their place.
-/

namespace CallAtlas.Syntax

/-! ## Section 1: Constructs -/

/-- Constructs of the grammar, in the order in which the grammar lists them. Where a text
    can be read in two ways of equal standing, the construct listed earlier is preferred. -/
inductive Phrase where
  | sourceFile | statement | simpleStatements | importStatement | importPrefix | relativeImport
  | futureImportStatement | importFromStatement | importList | aliasedImport | wildcardImport
  | printStatement | chevron | assertStatement | expressionStatement | namedExpression
  | namedExpressionTarget | returnStatement | deleteStatement | raiseStatement | passStatement
  | breakStatement | continueStatement | ifStatement | elifClause | elseClause | matchStatement
  | matchBlock | caseClause | forStatement | whileStatement | tryStatement | exceptClause
  | finallyClause | withStatement | withClause | withItem | functionDefinition | parameters
  | lambdaParameters | listSplat | dictionarySplat | globalStatement | nonlocalStatement
  | execStatement | typeAliasStatement | classDefinition | typeParameter | parenthesizedListSplat
  | argumentList | decoratedDefinition | decorator | block | expressionList | dottedName
  | casePattern | simplePattern | caseAsPattern | unionPattern | caseListPattern
  | caseTuplePattern | dictPattern | keyValuePattern | keywordPattern | splatPattern
  | classPattern | complexPattern | parameterList | patterns | parameter | pattern | tuplePattern
  | listPattern | defaultParameter | typedDefaultParameter | listSplatPattern
  | dictionarySplatPattern | asPattern | expressionWithinForInClause | expression
  | primaryExpression | notOperator | booleanOperator | binaryOperator | unaryOperator | notIn
  | isNot | comparisonOperator | lambdaExpression | lambdaWithinForInClause | assignment
  | augmentedAssignment | patternList | rightHandSide | yieldExpression | memberAccess
  | subscript | slice | call | typedParameter | typeExpression | splatType | genericType
  | unionType | constrainedType | memberType | keywordArgument | listLiteral | setLiteral
  | tupleLiteral | dictionaryLiteral | pair | listComprehension | dictionaryComprehension
  | setComprehension | generatorExpression | comprehensionClauses | parenthesizedExpression
  | collectionElements | forInClause | ifClause | conditionalExpression | concatenatedString
  | stringLiteral | stringContent | interpolation | replacement | formatSpecifier
  | awaitExpression | positionalSeparator | keywordSeparator | asPatternTarget | formatExpression
  deriving DecidableEq, Inhabited

namespace Phrase

/-- The name under which a node of this construct is reported. -/
def text : Phrase → String
  | .sourceFile => "module"
  | .statement => "_statement"
  | .simpleStatements => "_simple_statements"
  | .importStatement => "import_statement"
  | .importPrefix => "import_prefix"
  | .relativeImport => "relative_import"
  | .futureImportStatement => "future_import_statement"
  | .importFromStatement => "import_from_statement"
  | .importList => "_import_list"
  | .aliasedImport => "aliased_import"
  | .wildcardImport => "wildcard_import"
  | .printStatement => "print_statement"
  | .chevron => "chevron"
  | .assertStatement => "assert_statement"
  | .expressionStatement => "expression_statement"
  | .namedExpression => "named_expression"
  | .namedExpressionTarget => "_named_expression_lhs"
  | .returnStatement => "return_statement"
  | .deleteStatement => "delete_statement"
  | .raiseStatement => "raise_statement"
  | .passStatement => "pass_statement"
  | .breakStatement => "break_statement"
  | .continueStatement => "continue_statement"
  | .ifStatement => "if_statement"
  | .elifClause => "elif_clause"
  | .elseClause => "else_clause"
  | .matchStatement => "match_statement"
  | .matchBlock => "_match_block"
  | .caseClause => "case_clause"
  | .forStatement => "for_statement"
  | .whileStatement => "while_statement"
  | .tryStatement => "try_statement"
  | .exceptClause => "except_clause"
  | .finallyClause => "finally_clause"
  | .withStatement => "with_statement"
  | .withClause => "with_clause"
  | .withItem => "with_item"
  | .functionDefinition => "function_definition"
  | .parameters => "parameters"
  | .lambdaParameters => "lambda_parameters"
  | .listSplat => "list_splat"
  | .dictionarySplat => "dictionary_splat"
  | .globalStatement => "global_statement"
  | .nonlocalStatement => "nonlocal_statement"
  | .execStatement => "exec_statement"
  | .typeAliasStatement => "type_alias_statement"
  | .classDefinition => "class_definition"
  | .typeParameter => "type_parameter"
  | .parenthesizedListSplat => "parenthesized_list_splat"
  | .argumentList => "argument_list"
  | .decoratedDefinition => "decorated_definition"
  | .decorator => "decorator"
  | .block => "block"
  | .expressionList => "expression_list"
  | .dottedName => "dotted_name"
  | .casePattern => "case_pattern"
  | .simplePattern => "_simple_pattern"
  | .caseAsPattern => "_as_pattern"
  | .unionPattern => "union_pattern"
  | .caseListPattern => "_list_pattern"
  | .caseTuplePattern => "_tuple_pattern"
  | .dictPattern => "dict_pattern"
  | .keyValuePattern => "_key_value_pattern"
  | .keywordPattern => "keyword_pattern"
  | .splatPattern => "splat_pattern"
  | .classPattern => "class_pattern"
  | .complexPattern => "complex_pattern"
  | .parameterList => "_parameters"
  | .patterns => "_patterns"
  | .parameter => "parameter"
  | .pattern => "pattern"
  | .tuplePattern => "tuple_pattern"
  | .listPattern => "list_pattern"
  | .defaultParameter => "default_parameter"
  | .typedDefaultParameter => "typed_default_parameter"
  | .listSplatPattern => "list_splat_pattern"
  | .dictionarySplatPattern => "dictionary_splat_pattern"
  | .asPattern => "as_pattern"
  | .expressionWithinForInClause => "_expression_within_for_in_clause"
  | .expression => "expression"
  | .primaryExpression => "primary_expression"
  | .notOperator => "not_operator"
  | .booleanOperator => "boolean_operator"
  | .binaryOperator => "binary_operator"
  | .unaryOperator => "unary_operator"
  | .notIn => "_not_in"
  | .isNot => "_is_not"
  | .comparisonOperator => "comparison_operator"
  | .lambdaExpression => "lambda"
  | .lambdaWithinForInClause => "lambda_within_for_in_clause"
  | .assignment => "assignment"
  | .augmentedAssignment => "augmented_assignment"
  | .patternList => "pattern_list"
  | .rightHandSide => "_right_hand_side"
  | .yieldExpression => "yield"
  | .memberAccess => "attribute"
  | .subscript => "subscript"
  | .slice => "slice"
  | .call => "call"
  | .typedParameter => "typed_parameter"
  | .typeExpression => "type"
  | .splatType => "splat_type"
  | .genericType => "generic_type"
  | .unionType => "union_type"
  | .constrainedType => "constrained_type"
  | .memberType => "member_type"
  | .keywordArgument => "keyword_argument"
  | .listLiteral => "list"
  | .setLiteral => "set"
  | .tupleLiteral => "tuple"
  | .dictionaryLiteral => "dictionary"
  | .pair => "pair"
  | .listComprehension => "list_comprehension"
  | .dictionaryComprehension => "dictionary_comprehension"
  | .setComprehension => "set_comprehension"
  | .generatorExpression => "generator_expression"
  | .comprehensionClauses => "_comprehension_clauses"
  | .parenthesizedExpression => "parenthesized_expression"
  | .collectionElements => "_collection_elements"
  | .forInClause => "for_in_clause"
  | .ifClause => "if_clause"
  | .conditionalExpression => "conditional_expression"
  | .concatenatedString => "concatenated_string"
  | .stringLiteral => "string"
  | .stringContent => "string_content"
  | .interpolation => "interpolation"
  | .replacement => "_f_expression"
  | .formatSpecifier => "format_specifier"
  | .awaitExpression => "await"
  | .positionalSeparator => "positional_separator"
  | .keywordSeparator => "keyword_separator"
  | .asPatternTarget => "as_pattern_target"
  | .formatExpression => "format_expression"

/-- Constructs that never appear as nodes of their own. -/
def hiddenPhrases : List Phrase :=
  [.statement, .simpleStatements, .importList, .namedExpressionTarget, .matchBlock,
   .simplePattern, .caseAsPattern, .caseListPattern, .caseTuplePattern, .keyValuePattern,
   .parameterList, .patterns, .expressionWithinForInClause, .notIn, .isNot, .rightHandSide,
   .comprehensionClauses, .collectionElements, .replacement, .expression, .primaryExpression,
   .pattern, .parameter]

def isHidden (p : Phrase) : Bool := hiddenPhrases.contains p

/-- All constructs, in grammar order. -/
def all : List Phrase :=
  [.sourceFile, .statement, .simpleStatements, .importStatement, .importPrefix, .relativeImport,
   .futureImportStatement, .importFromStatement, .importList, .aliasedImport, .wildcardImport,
   .printStatement, .chevron, .assertStatement, .expressionStatement, .namedExpression,
   .namedExpressionTarget, .returnStatement, .deleteStatement, .raiseStatement, .passStatement,
   .breakStatement, .continueStatement, .ifStatement, .elifClause, .elseClause, .matchStatement,
   .matchBlock, .caseClause, .forStatement, .whileStatement, .tryStatement, .exceptClause,
   .finallyClause, .withStatement, .withClause, .withItem, .functionDefinition, .parameters,
   .lambdaParameters, .listSplat, .dictionarySplat, .globalStatement, .nonlocalStatement,
   .execStatement, .typeAliasStatement, .classDefinition, .typeParameter,
   .parenthesizedListSplat, .argumentList, .decoratedDefinition, .decorator, .block,
   .expressionList, .dottedName, .casePattern, .simplePattern, .caseAsPattern, .unionPattern,
   .caseListPattern, .caseTuplePattern, .dictPattern, .keyValuePattern, .keywordPattern,
   .splatPattern, .classPattern, .complexPattern, .parameterList, .patterns, .parameter,
   .pattern, .tuplePattern, .listPattern, .defaultParameter, .typedDefaultParameter,
   .listSplatPattern, .dictionarySplatPattern, .asPattern, .expressionWithinForInClause,
   .expression, .primaryExpression, .notOperator, .booleanOperator, .binaryOperator,
   .unaryOperator, .notIn, .isNot, .comparisonOperator, .lambdaExpression,
   .lambdaWithinForInClause, .assignment, .augmentedAssignment, .patternList, .rightHandSide,
   .yieldExpression, .memberAccess, .subscript, .slice, .call, .typedParameter, .typeExpression,
   .splatType, .genericType, .unionType, .constrainedType, .memberType, .keywordArgument,
   .listLiteral, .setLiteral, .tupleLiteral, .dictionaryLiteral, .pair, .listComprehension,
   .dictionaryComprehension, .setComprehension, .generatorExpression, .comprehensionClauses,
   .parenthesizedExpression, .collectionElements, .forInClause, .ifClause,
   .conditionalExpression, .concatenatedString, .stringLiteral, .stringContent, .interpolation,
   .replacement, .formatSpecifier, .awaitExpression, .positionalSeparator, .keywordSeparator,
   .asPatternTarget, .formatExpression]

end Phrase

/-! ## Section 2: Tokens -/

/-- Tokens of the grammar. A `word` is a keyword or a piece of punctuation, spelled as
    given; the other tokens stand for classes of text. -/
inductive Terminal where
  | word (spelling : String)
  /-- The constants and `...`, which have a name of their own in the tree. -/
  | trueWord | falseWord | noneWord | ellipsis
  | identifier | integer | float
  /-- The `*` that directly follows `except`. -/
  | exceptStar
  /-- `!r` and the like in a replacement field. -/
  | typeConversion
  /-- Literal text of a format specifier. -/
  | formatText
  | stringStart | stringText | stringEnd
  /-- A doubled brace in a format string. -/
  | doubledBrace
  | escapeSequence
  /-- A backslash in a string that starts no escape sequence. -/
  | loneBackslash
  /-- The three tokens of zero width that stand for the shape of lines. -/
  | newline | indent | dedent
  | comment | lineContinuation
  | endOfText
  deriving DecidableEq, Inhabited

namespace Terminal

/-- The name under which a node of this token is reported: its own spelling for a `word`. -/
def text : Terminal → String
  | .word spelling => spelling
  | .trueWord => "true"
  | .falseWord => "false"
  | .noneWord => "none"
  | .ellipsis => "ellipsis"
  | .identifier => "identifier"
  | .integer => "integer"
  | .float => "float"
  | .exceptStar => "*"
  | .typeConversion => "type_conversion"
  | .formatText => "format_text"
  | .stringStart => "string_start"
  | .stringText => "_string_content"
  | .stringEnd => "string_end"
  | .doubledBrace => "escape_interpolation"
  | .escapeSequence => "escape_sequence"
  | .loneBackslash => "_not_escape_sequence"
  | .newline => "_newline"
  | .indent => "_indent"
  | .dedent => "_dedent"
  | .comment => "comment"
  | .lineContinuation => "line_continuation"
  | .endOfText => "end"

/-- The spelling of a token that has exactly one. -/
def spelling? : Terminal → Option String
  | .word spelling => some spelling
  | .trueWord => some "True"
  | .falseWord => some "False"
  | .noneWord => some "None"
  | .ellipsis => some "..."
  | .exceptStar => some "*"
  | _ => none

/-- Keywords and punctuation are anonymous; other tokens have a name. -/
def isNamed : Terminal → Bool
  | .word _ | .exceptStar => false
  | _ => true

/-- Tokens that never appear as nodes. -/
def isHidden : Terminal → Bool
  | .formatText | .stringText | .loneBackslash | .newline | .indent | .dedent | .endOfText => true
  | _ => false

/-- Tokens that may stand between any two others and belong to no construct. -/
def isExtra : Terminal → Bool
  | .comment | .lineContinuation => true
  | _ => false

end Terminal

/-! ## Section 3: Kinds and fields of nodes -/

/-- What a node of the syntax tree is. -/
inductive Kind where
  | phrase (p : Phrase)
  | terminal (t : Terminal)
  deriving DecidableEq, Inhabited

namespace Kind

def text : Kind → String
  | .phrase p => p.text
  | .terminal t => t.text

def isNamed : Kind → Bool
  | .phrase _ => true
  | .terminal t => t.isNamed

end Kind

/-- The roles in which a construct holds its parts. -/
inductive Field where
  | moduleName | name | aliasName | argument | value | cause | condition | consequence | alternative
  | subject | body | guard | left | right | typeParameters | parameters | returnType | code
  | superclasses | definition | key | type | operator | operators | object | member
  | subscript | function | arguments | expression | typeConversion | formatSpecifier
  deriving DecidableEq, Inhabited

end CallAtlas.Syntax
