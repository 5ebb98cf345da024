import CallAtlas.Grammar.Table

/-! # The grammar of Python

    One rule for every construct. The grammar is wider than the language: it takes Python 2
    and Python 3 together, leaves bodies empty, and allows statements anywhere. What it does
    not allow is not Python in any version.
-/

namespace CallAtlas.Syntax

open CallAtlas.Grammar
open CallAtlas.Grammar.Rule (optional many sep1)

namespace PythonGrammar

/-! ## Section 1: Shorthands -/

def w (spelling : String) : Rule := .terminal (.word spelling)

def ph (p : Phrase) : Rule := .phrase p

def commaSep1 (r : Rule) : Rule := sep1 r (w ",")

def words (spellings : List String) : Rule := .choice (spellings.map w)

def expr : Rule := ph .expression

def primary : Rule := ph .primaryExpression

def identifier : Rule := .terminal .identifier

def prec (level : Int) (r : Rule) : Rule := .precedence level none r

def precLeft (level : Int) (r : Rule) : Rule := .precedence level (some .left) r

def precRight (level : Int) (r : Rule) : Rule := .precedence level (some .right) r

def asIdentifier (r : Rule) : Rule := .shownAs (.terminal .identifier) r

/-! ### Binding strengths -/

def lambdaLevel : Int := -2
def typedParameterLevel : Int := -1
def conditionalLevel : Int := -1
def parenthesizedLevel : Int := 1
def orLevel : Int := 10
def andLevel : Int := 11
def notLevel : Int := 12
def compareLevel : Int := 13
def bitwiseOrLevel : Int := 14
def bitwiseAndLevel : Int := 15
def xorLevel : Int := 16
def shiftLevel : Int := 17
def plusLevel : Int := 18
def timesLevel : Int := 19
def unaryLevel : Int := 20
def powerLevel : Int := 21
def callLevel : Int := 22

/-! ## Section 2: Rules that are spliced into others -/

/-- Keywords that also serve as names. -/
def keywordIdentifier : Rule :=
  .spliced (.choice [
    prec (-3) (asIdentifier (words ["print", "exec", "async", "await"])),
    asIdentifier (words ["type", "match"])])

def simpleStatement : Rule :=
  .spliced (.choice [
    ph .futureImportStatement, ph .importStatement, ph .importFromStatement, ph .printStatement,
    ph .assertStatement, ph .expressionStatement, ph .returnStatement, ph .deleteStatement,
    ph .raiseStatement, ph .passStatement, ph .breakStatement, ph .continueStatement,
    ph .globalStatement, ph .nonlocalStatement, ph .execStatement, ph .typeAliasStatement])

def compoundStatement : Rule :=
  .spliced (.choice [
    ph .ifStatement, ph .forStatement, ph .whileStatement, ph .tryStatement, ph .withStatement,
    ph .functionDefinition, ph .classDefinition, ph .decoratedDefinition, ph .matchStatement])

/-- The body of a compound statement: statements on the same line, an indented block, or
    nothing. -/
def suite : Rule :=
  .spliced (.choice [
    .shownAs (.phrase .block) (ph .simpleStatements),
    .seq [.terminal .indent, ph .block],
    .shownAs (.phrase .block) (.terminal .newline)])

def expressions : Rule := .spliced (.choice [expr, ph .expressionList])

def leftHandSide : Rule := .spliced (.choice [ph .pattern, ph .patternList])

/-! ## Section 3: The rules -/

/-- Items after `import`, bare or in parentheses. -/
def importedNames : List Rule := [ph .importList, .seq [w "(", ph .importList, w ")"]]

def binary (assoc : Assoc) (operator : String) (level : Int) : Rule :=
  .precedence level (some assoc) (.seq [
    .field .left primary, .field .operator (w operator), .field .right primary])

def number : Rule := .choice [.terminal .integer, .terminal .float]

/-- A bracketed list of case patterns. -/
def casePatterns (opening closing : String) : Rule :=
  .seq [w opening,
    optional (.seq [commaSep1 (ph .casePattern), optional (w ",")]), w closing]

def splatTarget : Rule :=
  .choice [identifier, keywordIdentifier, ph .subscript, ph .memberAccess]

def comprehension (opening : String) (body : Rule) (closing : String) : Rule :=
  .seq [w opening, .field .body body, ph .comprehensionClauses, w closing]

def statementRule : Phrase → Option Rule
  | .sourceFile => some (many (ph .statement))
  | .statement => some (.choice [ph .simpleStatements, compoundStatement])
  | .simpleStatements => some (.seq [
      sep1 simpleStatement (w ";"), optional (w ";"), .terminal .newline])
  | .importStatement => some (.seq [w "import", ph .importList])
  | .importPrefix => some (.many1 (w "."))
  | .relativeImport => some (.seq [ph .importPrefix, optional (ph .dottedName)])
  | .futureImportStatement => some (.seq [
      w "from", w "__future__", w "import", .choice importedNames])
  | .importFromStatement => some (.seq [
      w "from", .field .moduleName (.choice [ph .relativeImport, ph .dottedName]),
      w "import", .choice (ph .wildcardImport :: importedNames)])
  | .importList => some (.seq [
      commaSep1 (.field .name (.choice [ph .dottedName, ph .aliasedImport])), optional (w ",")])
  | .aliasedImport => some (.seq [
      .field .name (ph .dottedName), w "as", .field .aliasName identifier])
  | .wildcardImport => some (w "*")
  | .printStatement => some (.choice [
      prec 1 (.seq [w "print", ph .chevron,
        many (.seq [w ",", .field .argument expr]), optional (w ",")]),
      prec (-3) (.weight (-1) (.seq [
        w "print", commaSep1 (.field .argument expr), optional (w ",")]))])
  | .chevron => some (.seq [w ">>", expr])
  | .assertStatement => some (.seq [w "assert", commaSep1 expr])
  | .expressionStatement => some (.choice [
      expr, .seq [commaSep1 expr, optional (w ",")],
      ph .assignment, ph .augmentedAssignment, ph .yieldExpression])
  | .namedExpression => some (.seq [
      .field .name (ph .namedExpressionTarget), w ":=", .field .value expr])
  | .namedExpressionTarget => some (.choice [identifier, keywordIdentifier])
  | .returnStatement => some (.seq [w "return", optional expressions])
  | .deleteStatement => some (.seq [w "del", expressions])
  | .raiseStatement => some (.seq [
      w "raise", optional expressions, optional (.seq [w "from", .field .cause expr])])
  | .passStatement => some (precLeft 0 (w "pass"))
  | .breakStatement => some (precLeft 0 (w "break"))
  | .continueStatement => some (precLeft 0 (w "continue"))
  | .ifStatement => some (.seq [
      w "if", .field .condition expr, w ":", .field .consequence suite,
      many (.field .alternative (ph .elifClause)),
      optional (.field .alternative (ph .elseClause))])
  | .elifClause => some (.seq [
      w "elif", .field .condition expr, w ":", .field .consequence suite])
  | .elseClause => some (.seq [w "else", w ":", .field .body suite])
  | .matchStatement => some (.seq [
      w "match", commaSep1 (.field .subject expr), optional (w ","), w ":",
      .field .body (.shownAs (.phrase .block) (ph .matchBlock))])
  | .matchBlock => some (.choice [
      .seq [.terminal .indent, many (.field .alternative (ph .caseClause)), .terminal .dedent],
      .terminal .newline])
  | .caseClause => some (.seq [
      w "case", commaSep1 (ph .casePattern), optional (w ","),
      optional (.field .guard (ph .ifClause)), w ":", .field .consequence suite])
  | .forStatement => some (.seq [
      optional (w "async"), w "for", .field .left leftHandSide, w "in",
      .field .right expressions, w ":", .field .body suite,
      .field .alternative (optional (ph .elseClause))])
  | .whileStatement => some (.seq [
      w "while", .field .condition expr, w ":", .field .body suite,
      optional (.field .alternative (ph .elseClause))])
  | .tryStatement => some (.seq [
      w "try", w ":", .field .body suite, many (ph .exceptClause),
      optional (ph .elseClause), optional (ph .finallyClause)])
  | .exceptClause => some (.seq [
      w "except", optional (.terminal .exceptStar),
      optional (.choice [
        .seq [.field .value expr, optional (.seq [w "as", .field .aliasName expr])],
        commaSep1 (.field .value expr)]),
      w ":", suite])
  | .finallyClause => some (.seq [w "finally", w ":", suite])
  | .withStatement => some (.seq [
      optional (w "async"), w "with", ph .withClause, w ":", .field .body suite])
  | .withClause => some (.choice [
      .seq [commaSep1 (ph .withItem), optional (w ",")],
      .seq [w "(", commaSep1 (ph .withItem), optional (w ","), w ")"]])
  | .withItem => some (.weight 1 (.seq [.field .value expr]))
  | .functionDefinition => some (.seq [
      optional (w "async"), w "def", .field .name identifier,
      .field .typeParameters (optional (ph .typeParameter)),
      .field .parameters (ph .parameters),
      optional (.seq [w "->", .field .returnType (ph .typeExpression)]),
      w ":", .field .body suite])
  | .parameters => some (.seq [w "(", optional (ph .parameterList), w ")"])
  | .lambdaParameters => some (ph .parameterList)
  | .listSplat => some (.seq [w "*", expr])
  | .dictionarySplat => some (.seq [w "**", expr])
  | .globalStatement => some (.seq [w "global", commaSep1 identifier])
  | .nonlocalStatement => some (.seq [w "nonlocal", commaSep1 identifier])
  | .execStatement => some (.seq [
      w "exec", .field .code (.choice [ph .stringLiteral, identifier]),
      optional (.seq [w "in", commaSep1 expr])])
  | .typeAliasStatement => some (.weight 1 (.seq [
      w "type", .field .left (ph .typeExpression), w "=", .field .right (ph .typeExpression)]))
  | .classDefinition => some (.seq [
      w "class", .field .name identifier,
      .field .typeParameters (optional (ph .typeParameter)),
      .field .superclasses (optional (ph .argumentList)), w ":", .field .body suite])
  | .typeParameter => some (.seq [
      w "[", commaSep1 (ph .typeExpression), optional (w ","), w "]"])
  | .parenthesizedListSplat => some (prec parenthesizedLevel (.seq [
      w "(",
      .choice [
        .shownAs (.phrase .parenthesizedExpression) (ph .parenthesizedListSplat), ph .listSplat],
      w ")"]))
  | .argumentList => some (.seq [
      w "(",
      optional (commaSep1 (.choice [
        expr, ph .listSplat, ph .dictionarySplat,
        .shownAs (.phrase .parenthesizedExpression) (ph .parenthesizedListSplat),
        ph .keywordArgument])),
      optional (w ","), w ")"])
  | .decoratedDefinition => some (.seq [
      .many1 (ph .decorator),
      .field .definition (.choice [ph .classDefinition, ph .functionDefinition])])
  | .decorator => some (.seq [w "@", expr, .terminal .newline])
  | .block => some (.seq [many (ph .statement), .terminal .dedent])
  | .expressionList => some (precRight 0 (.seq [
      expr,
      .choice [w ",", .seq [.many1 (.seq [w ",", expr]), optional (w ",")]]]))
  | .dottedName => some (prec 1 (sep1 identifier (w ".")))
  | _ => none

def patternRule : Phrase → Option Rule
  | .casePattern => some (prec 1 (.choice [
      .shownAs (.phrase .asPattern) (ph .caseAsPattern), ph .keywordPattern, ph .simplePattern]))
  | .simplePattern => some (prec 1 (.choice [
      ph .classPattern, ph .splatPattern, ph .unionPattern,
      .shownAs (.phrase .listPattern) (ph .caseListPattern),
      .shownAs (.phrase .tuplePattern) (ph .caseTuplePattern),
      ph .dictPattern, ph .stringLiteral, ph .concatenatedString,
      .terminal .trueWord, .terminal .falseWord, .terminal .noneWord,
      .seq [optional (w "-"), number], ph .complexPattern, ph .dottedName, w "_"]))
  | .caseAsPattern => some (.seq [ph .casePattern, w "as", identifier])
  | .unionPattern => some (precRight 0 (.seq [
      ph .simplePattern, .many1 (precLeft 0 (.seq [w "|", ph .simplePattern]))]))
  | .caseListPattern => some (casePatterns "[" "]")
  | .caseTuplePattern => some (casePatterns "(" ")")
  | .dictPattern => some (.seq [
      w "\x7b",
      optional (.seq [
        commaSep1 (.choice [ph .keyValuePattern, ph .splatPattern]), optional (w ",")]),
      w "\x7d"])
  | .keyValuePattern => some (.seq [
      .field .key (ph .simplePattern), w ":", .field .value (ph .casePattern)])
  | .keywordPattern => some (.seq [identifier, w "=", ph .simplePattern])
  | .splatPattern => some (prec 1 (.seq [words ["*", "**"], .choice [identifier, w "_"]]))
  | .classPattern => some (.seq [ph .dottedName, casePatterns "(" ")"])
  | .complexPattern => some (prec 1 (.seq [
      optional (w "-"), number, words ["+", "-"], number]))
  | .parameterList => some (.seq [commaSep1 (ph .parameter), optional (w ",")])
  | .patterns => some (.seq [commaSep1 (ph .pattern), optional (w ",")])
  | .parameter => some (.choice [
      identifier, ph .typedParameter, ph .defaultParameter, ph .typedDefaultParameter,
      ph .listSplatPattern, ph .tuplePattern, ph .keywordSeparator, ph .positionalSeparator,
      ph .dictionarySplatPattern])
  | .pattern => some (.choice [
      identifier, keywordIdentifier, ph .subscript, ph .memberAccess, ph .listSplatPattern,
      ph .tuplePattern, ph .listPattern])
  | .tuplePattern => some (.seq [w "(", optional (ph .patterns), w ")"])
  | .listPattern => some (.seq [w "[", optional (ph .patterns), w "]"])
  | .defaultParameter => some (.seq [
      .field .name (.choice [identifier, ph .tuplePattern]), w "=", .field .value expr])
  | .typedDefaultParameter => some (prec typedParameterLevel (.seq [
      .field .name identifier, w ":", .field .type (ph .typeExpression), w "=",
      .field .value expr]))
  | .listSplatPattern => some (.seq [w "*", splatTarget])
  | .dictionarySplatPattern => some (.seq [w "**", splatTarget])
  | .asPattern => some (precLeft 0 (.seq [
      expr, w "as", .field .aliasName (.shownAs (.phrase .asPatternTarget) expr)]))
  | .patternList => some (.seq [
      ph .pattern,
      .choice [w ",", .seq [.many1 (.seq [w ",", ph .pattern]), optional (w ",")]]])
  | .typedParameter => some (prec typedParameterLevel (.seq [
      .choice [identifier, ph .listSplatPattern, ph .dictionarySplatPattern], w ":",
      .field .type (ph .typeExpression)]))
  | .typeExpression => some (.choice [
      prec 1 expr, ph .splatType, ph .genericType, ph .unionType, ph .constrainedType,
      ph .memberType])
  | .splatType => some (prec 1 (.seq [words ["*", "**"], identifier]))
  | .genericType => some (prec 1 (.seq [
      .choice [identifier, asIdentifier (w "type")], ph .typeParameter]))
  | .unionType => some (precLeft 0 (.seq [ph .typeExpression, w "|", ph .typeExpression]))
  | .constrainedType => some (precRight 0 (.seq [
      ph .typeExpression, w ":", ph .typeExpression]))
  | .memberType => some (.seq [ph .typeExpression, w ".", identifier])
  | .positionalSeparator => some (w "/")
  | .keywordSeparator => some (w "*")
  | _ => none

def expressionRule : Phrase → Option Rule
  | .expressionWithinForInClause => some (.choice [
      expr, .shownAs (.phrase .lambdaExpression) (ph .lambdaWithinForInClause)])
  | .expression => some (.choice [
      ph .comparisonOperator, ph .notOperator, ph .booleanOperator, ph .lambdaExpression,
      primary, ph .conditionalExpression, ph .namedExpression, ph .asPattern])
  | .primaryExpression => some (.choice [
      ph .awaitExpression, ph .binaryOperator, identifier, keywordIdentifier, ph .stringLiteral,
      ph .concatenatedString, .terminal .integer, .terminal .float, .terminal .trueWord,
      .terminal .falseWord, .terminal .noneWord, ph .unaryOperator, ph .memberAccess,
      ph .subscript, ph .call, ph .listLiteral, ph .listComprehension, ph .dictionaryLiteral,
      ph .dictionaryComprehension, ph .setLiteral, ph .setComprehension, ph .tupleLiteral,
      ph .parenthesizedExpression, ph .generatorExpression, .terminal .ellipsis,
      .shownAs (.phrase .listSplat) (ph .listSplatPattern)])
  | .notOperator => some (prec notLevel (.seq [w "not", .field .argument expr]))
  | .booleanOperator => some (.choice [
      precLeft andLevel (.seq [
        .field .left expr, .field .operator (w "and"), .field .right expr]),
      precLeft orLevel (.seq [
        .field .left expr, .field .operator (w "or"), .field .right expr])])
  | .binaryOperator => some (.choice [
      binary .left "+" plusLevel, binary .left "-" plusLevel, binary .left "*" timesLevel,
      binary .left "@" timesLevel, binary .left "/" timesLevel, binary .left "%" timesLevel,
      binary .left "//" timesLevel, binary .right "**" powerLevel,
      binary .left "|" bitwiseOrLevel, binary .left "&" bitwiseAndLevel,
      binary .left "^" xorLevel, binary .left "<<" shiftLevel, binary .left ">>" shiftLevel])
  | .unaryOperator => some (prec unaryLevel (.seq [
      .field .operator (words ["+", "-", "~"]), .field .argument primary]))
  | .notIn => some (.seq [w "not", w "in"])
  | .isNot => some (.seq [w "is", w "not"])
  | .comparisonOperator => some (precLeft compareLevel (.seq [
      primary,
      .many1 (.seq [
        .field .operators (.choice [
          w "<", w "<=", w "==", w "!=", w ">=", w ">", w "<>", w "in",
          .shownAs (.terminal (.word "not in")) (ph .notIn), w "is",
          .shownAs (.terminal (.word "is not")) (ph .isNot)]),
        primary])]))
  | .lambdaExpression => some (prec lambdaLevel (.seq [
      w "lambda", .field .parameters (optional (ph .lambdaParameters)), w ":",
      .field .body expr]))
  | .lambdaWithinForInClause => some (.seq [
      w "lambda", .field .parameters (optional (ph .lambdaParameters)), w ":",
      .field .body (ph .expressionWithinForInClause)])
  | .assignment => some (.seq [
      .field .left leftHandSide,
      .choice [
        .seq [w "=", .field .right (ph .rightHandSide)],
        .seq [w ":", .field .type (ph .typeExpression)],
        .seq [w ":", .field .type (ph .typeExpression), w "=",
          .field .right (ph .rightHandSide)]]])
  | .augmentedAssignment => some (.seq [
      .field .left leftHandSide,
      .field .operator (words [
        "+=", "-=", "*=", "/=", "@=", "//=", "%=", "**=", ">>=", "<<=", "&=", "^=", "|="]),
      .field .right (ph .rightHandSide)])
  | .rightHandSide => some (.choice [
      expr, ph .expressionList, ph .assignment, ph .augmentedAssignment, ph .patternList,
      ph .yieldExpression])
  | .yieldExpression => some (precRight 0 (.seq [
      w "yield", .choice [.seq [w "from", expr], optional expressions]]))
  | .memberAccess => some (prec callLevel (.seq [
      .field .object primary, w ".", .field .member identifier]))
  | .subscript => some (prec callLevel (.seq [
      .field .value primary, w "[",
      commaSep1 (.field .subscript (.choice [expr, ph .slice])), optional (w ","), w "]"]))
  | .slice => some (.seq [
      optional expr, w ":", optional expr, optional (.seq [w ":", optional expr])])
  | .call => some (prec callLevel (.seq [
      .field .function primary,
      .field .arguments (.choice [ph .generatorExpression, ph .argumentList])]))
  | .keywordArgument => some (.seq [
      .field .name (.choice [identifier, keywordIdentifier]), w "=", .field .value expr])
  | .listLiteral => some (.seq [w "[", optional (ph .collectionElements), w "]"])
  | .setLiteral => some (.seq [w "\x7b", ph .collectionElements, w "\x7d"])
  | .tupleLiteral => some (.seq [w "(", optional (ph .collectionElements), w ")"])
  | .dictionaryLiteral => some (.seq [
      w "\x7b", optional (commaSep1 (.choice [ph .pair, ph .dictionarySplat])), optional (w ","),
      w "\x7d"])
  | .pair => some (.seq [.field .key expr, w ":", .field .value expr])
  | .listComprehension => some (comprehension "[" expr "]")
  | .dictionaryComprehension => some (comprehension "\x7b" (ph .pair) "\x7d")
  | .setComprehension => some (comprehension "\x7b" expr "\x7d")
  | .generatorExpression => some (comprehension "(" expr ")")
  | .comprehensionClauses => some (.seq [
      ph .forInClause, many (.choice [ph .forInClause, ph .ifClause])])
  | .parenthesizedExpression => some (prec parenthesizedLevel (.seq [
      w "(", .choice [expr, ph .yieldExpression], w ")"]))
  | .collectionElements => some (.seq [
      commaSep1 (.choice [
        expr, ph .yieldExpression, ph .listSplat, ph .parenthesizedListSplat]),
      optional (w ",")])
  | .forInClause => some (precLeft 0 (.seq [
      optional (w "async"), w "for", .field .left leftHandSide, w "in",
      .field .right (commaSep1 (ph .expressionWithinForInClause)), optional (w ",")]))
  | .ifClause => some (.seq [w "if", expr])
  | .conditionalExpression => some (precRight conditionalLevel (.seq [
      expr, w "if", expr, w "else", expr]))
  | .concatenatedString => some (.seq [ph .stringLiteral, .many1 (ph .stringLiteral)])
  | .stringLiteral => some (.seq [
      .terminal .stringStart, many (.choice [ph .interpolation, ph .stringContent]),
      .terminal .stringEnd])
  | .stringContent => some (precRight 0 (.many1 (.choice [
      .terminal .doubledBrace, .terminal .escapeSequence, .terminal .loneBackslash,
      .terminal .stringText])))
  | .interpolation => some (.seq [
      w "\x7b", .field .expression (ph .replacement), optional (w "="),
      optional (.field .typeConversion (.terminal .typeConversion)),
      optional (.field .formatSpecifier (ph .formatSpecifier)), w "\x7d"])
  | .replacement => some (.choice [
      expr, ph .expressionList, ph .patternList, ph .yieldExpression])
  | .formatSpecifier => some (.seq [
      w ":",
      many (.choice [
        .terminal .formatText,
        .shownAs (.phrase .formatExpression) (ph .interpolation)])])
  | .awaitExpression => some (prec unaryLevel (.seq [w "await", primary]))
  | _ => none

/-- The rule of a construct. The two kinds that only ever stand for others have none of
    their own. -/
def rule (p : Phrase) : Rule :=
  ((statementRule p).orElse fun _ =>
    (patternRule p).orElse fun _ => expressionRule p).getD (.choice [])

/-- Words that are never taken for identifiers. -/
def reserved : List String :=
  ["False", "await", "else", "import", "pass", "None", "break", "except", "in", "raise", "True",
   "class", "finally", "is", "return", "and", "continue", "for", "lambda", "try", "as", "def",
   "from", "nonlocal", "while", "assert", "del", "global", "not", "with", "async", "elif", "if",
   "or", "yield"]

end PythonGrammar

/-- The grammar of Python source files. -/
def pythonGrammar : CallAtlas.Grammar.RuleSet := ⟨.sourceFile, PythonGrammar.rule⟩

end CallAtlas.Syntax
