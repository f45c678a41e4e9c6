/-!
# Faults

What can be wrong with the text of a module: a `Flaw` says what it is, in a wording of its own
(`Flaw.message`), and a `Fault` adds the place. Reading goes on behind some of them.
-/

namespace FormCodemod.Syntax

/-- What is wrong with a text. -/
inductive Flaw where
  /- The end of the text, and tokens that do not fit. -/
  | endOfText
  | expected (wanted got : String)
  | unexpected (got wanted : String)
  | expectedExpression
  | expectedIdentifier
  | expectedSemicolon
  | missingSemicolon
  | tooDeep
  /- Words, numbers, strings, comments. -/
  | unexpectedCharacter (c : Char)
  | unterminatedComment
  | unterminatedString
  | unterminatedRegex
  | markupComment
  | expectedUnicodeEscape
  | invalidUnicodeEscape
  | invalidEscape
  | badEscape (wanted : String)
  | escapedReservedWord (word : String)
  | wordAfterNumber
  | legacyOctal
  | legacyDecimal
  | misplacedSeparator
  | expectedDigits (radix : Nat)
  | expectedExponent
  | unknownRegexFlags
  | repeatedRegexFlag (flag : Char)
  | spaceAfterHash
  /- Names. -/
  | reservedInStrict (word : String)
  | evalOrArguments
  | awaitAsName
  | reservedShorthand
  /- Expressions. -/
  | notAPattern
  | notAnExpression
  | invalidTarget
  | notSimpleTarget
  | targetNeedsReference
  | emptyParentheses
  | spreadInParentheses
  | assignedProperty
  | restNotLast
  | commaAfterRest
  | restWithValue
  | restOptional
  | parameterAfterRest
  | dotsWithoutIdentifier
  | lineBreakBeforeArrow
  | arrowNotAllowed
  | unaryInPower
  | mixedNullish
  | deleteOfName
  | deleteOperand
  | awaitOutsideAsync
  | awaitInParameter
  | awaitStar
  | yieldInParameter
  | optionalNew
  | templateInOptionalChain
  | newTargetOutside
  | superOutside
  | loneImport
  | commaInImport
  | commaInComputedName
  /- Markup. -/
  | markupCharacter (suggestions : List String)
  | closingTag (name : String)
  | closingFragment
  | emptyAttribute
  | attributeValue
  /- Statements. -/
  | declarationNotAllowed
  | constWithoutValue
  | patternWithoutValue
  | usingWithoutValue
  | usingNotAllowed
  | usingInLoop
  | usingPattern
  | trailingComma
  | labelledFunction
  | labelledGenerator
  | duplicateLabel (name : String)
  | breakOutside
  | breakLabel
  | continueOutside
  | continueLabel
  | returnOutside
  | withInStrict
  | withInTyped
  | lineBreakAfterThrow
  | severalDefaults
  | oneVariable
  | valueInLoopHead
  | awaitLoopHead
  | asyncInForOf
  | patternInForIn
  /- Modules. -/
  | nestedModuleItem
  | importedString (name : String)
  | exportedString
  | exportWithoutSource (name : String)
  | reservedImport
  /- Classes and functions. -/
  | secondConstructor
  | generatorConstructor
  | asyncConstructor
  | accessorConstructor
  | fieldNamedConstructor
  | privateConstructor
  | modifierOnPrivate (modifier : String)
  | getterParameter
  | setterParameter
  | restInSetter
  | strictDirective
  | valueWithoutBody
  | parameterProperty
  | parameterPropertyPattern
  /- Types. -/
  | optionalPattern
  | optionalWithValue
  | typeAfterValue
  | emptyTypeParameters
  | modifierNotHere
  | modifierTwice (modifier : String)
  | modifierOrder (first second : String)
  | modifiersTogether (first second : String)
  | overrideWithoutBase
  | abstractOutside
  | abstractFieldOutside
  | abstractWithBody
  | bodyInAmbient
  | valueInAmbient
  | stringExpected
  | enumComputedName
  | enumNumericName
  | extendsTwice
  | implementsTwice
  | extendsAfterImplements
  | severalBases
  | interfaceName
  | readonlyMethod
  | readonlyAccessor
  | indexSignature
  | optionalMember
  | typedLoopHead
  deriving DecidableEq, Repr, Inhabited

/-- The wording of a flaw. -/
def Flaw.message : Flaw → String
  | endOfText => "Unexpected eof"
  | expected wanted got => s!"Expected '{wanted}', got '{got}'"
  | unexpected got wanted => "Unexpected token `" ++ got ++ "`. Expected " ++ wanted
  | expectedExpression => "Expression expected"
  | expectedIdentifier => "Expected ident"
  | expectedSemicolon => "Expected ';', '\x7d' or <eof>"
  | missingSemicolon => "Expected a semicolon"
  | tooDeep => "Too deeply nested"
  | unexpectedCharacter c => s!"Unexpected character '{c}'"
  | unterminatedComment => "Unterminated block comment"
  | unterminatedString => "Unterminated string constant"
  | unterminatedRegex => "Unterminated regexp literal"
  | markupComment => "Legacy comments cannot be used in module code"
  | expectedUnicodeEscape => "Expected unicode escape"
  | invalidUnicodeEscape => "Invalid unicode escape"
  | invalidEscape => "Invalid string escape"
  | badEscape wanted => s!"Bad character escape sequence, expected {wanted}"
  | escapedReservedWord word => s!"Unexpected escape sequence in reserved word: {word}"
  | wordAfterNumber => "Identifier cannot follow number"
  | legacyOctal => "Legacy octal literals cannot be used in strict mode"
  | legacyDecimal => "Legacy decimal literals cannot be used in strict mode"
  | misplacedSeparator => "A numeric separator is only allowed between two digits"
  | expectedDigits radix => s!"Expected a digit of radix {radix}"
  | expectedExponent => "Expected +, - or decimal digit after e"
  | unknownRegexFlags => "Unknown regular expression flags."
  | repeatedRegexFlag flag => s!"Duplicated regular expression flag '{flag}'."
  | spaceAfterHash => "Unexpected space between # and identifier"
  | reservedInStrict word =>
    "`" ++ word ++ "` cannot be used as an identifier in strict mode"
  | evalOrArguments =>
    "'eval' and 'arguments' cannot be used as a binding identifier in strict mode"
  | awaitAsName => "`await` cannot be used as an identifier in an async context"
  | reservedShorthand => "Cannot use a reserved word as a shorthand property"
  | notAPattern => "Not a pattern"
  | notAnExpression => "Not an expression"
  | invalidTarget => "Invalid assignment target"
  | notSimpleTarget => "Cannot assign to this"
  | targetNeedsReference =>
    "The left-hand side of an assignment expression must be a variable or a property access."
  | emptyParentheses => "Parenthesized expression cannot be empty"
  | spreadInParentheses => "Parenthesized expression cannot contain spread operator"
  | assignedProperty => "assignment property is invalid syntax"
  | restNotLast => "Rest element must be final element"
  | commaAfterRest => "Trailing comma isn't permitted after a rest element"
  | restWithValue => "A rest parameter cannot have an initializer"
  | restOptional => "A rest parameter cannot be optional"
  | parameterAfterRest => "A rest parameter must be last in a parameter list"
  | dotsWithoutIdentifier =>
    "`...` must be followed by an identifier in declaration contexts"
  | lineBreakBeforeArrow => "Unexpected line break between arrow head and arrow"
  | arrowNotAllowed => "An arrow function is not allowed here"
  | unaryInPower => "** cannot be applied to unary expression"
  | mixedNullish =>
    "Nullish coalescing operator(??) requires parens when mixing with logical operators"
  | deleteOfName => "'delete' cannot be called on an identifier in strict mode"
  | deleteOperand => "The operand of a delete operator must be a property reference."
  | awaitOutsideAsync => "await isn't allowed in non-async function"
  | awaitInParameter => "`await` expressions cannot be used in a parameter initializer."
  | awaitStar =>
    "await* has been removed from the async functions proposal. Use Promise.all() instead."
  | yieldInParameter => "'yield' cannot be used as a parameter within generator"
  | optionalNew => "Constructor in 'new' cannot be an optional chain"
  | templateInOptionalChain => "Tagged template cannot be used in optional chain"
  | newTargetOutside =>
    "'new.target' is only allowed in the body of a function declaration, " ++
      "function expression, or class."
  | superOutside => "Invalid access to super"
  | loneImport => "Invalid access to import"
  | commaInImport => "Trailing comma is disallowed inside import(...) arguments"
  | commaInComputedName => "A comma expression is not allowed in a computed property name"
  | markupCharacter suggestions =>
    "Unexpected token. Did you mean " ++ String.intercalate " or " suggestions ++ "?"
  | closingTag name => s!"Expected corresponding JSX closing tag for <{name}>"
  | closingFragment => "Expected corresponding JSX closing tag for <>"
  | emptyAttribute => "JSX attributes must only be assigned a non-empty expression"
  | attributeValue => "JSX value should be either an expression or a quoted JSX text"
  | declarationNotAllowed => "Declaration is not allowed"
  | constWithoutValue => "'const' declarations must be initialized"
  | patternWithoutValue => "Destructuring bindings require initializers"
  | usingWithoutValue => "Using declaration requires initializer"
  | usingNotAllowed =>
    "Using declaration is not enabled. Set jsc.parser.explicitResourceManagement to true"
  | usingInLoop => "Using declaration is not allowed in for-in loop"
  | usingPattern => "Using declaration only allows identifiers"
  | trailingComma => "Trailing comma is not allowed"
  | labelledFunction => "Function cannot be labelled in strict mode"
  | labelledGenerator => "Generator or async function cannot be labelled"
  | duplicateLabel name => s!"Label {name} is already declared"
  | breakOutside =>
    "A 'break' statement can only be used within an enclosing iteration or switch statement"
  | breakLabel => "A 'break' statement can only jump to a label of an enclosing statement"
  | continueOutside =>
    "A 'continue' statement can only jump to a label of an enclosing iteration statement"
  | continueLabel => "Jump target cannot cross function boundary"
  | returnOutside => "Return statement is not allowed here"
  | withInStrict => "With statement are not allowed in strict mode"
  | withInTyped =>
    "The 'with' statement is not supported. All symbols in a 'with' block will have type 'any'."
  | lineBreakAfterThrow => "LineBreak cannot follow 'throw'"
  | severalDefaults => "A switch block cannot have multiple defaults"
  | oneVariable => "Expected one variable binding"
  | valueInLoopHead => "Unexpected initializer in for in/of loop"
  | awaitLoopHead => "for await syntax is valid only for for-of statement"
  | asyncInForOf => "The left-hand side of a `for...of` statement may not be `async`"
  | patternInForIn =>
    "The left-hand side of a 'for...in' statement cannot be a destructuring pattern."
  | nestedModuleItem => "'import', and 'export' cannot be used outside of module code"
  | importedString name =>
    "A string literal cannot be used as an imported binding.\n- Did you mean `import \x7b " ++
      name ++ " as foo \x7d`?"
  | exportedString => "A string literal cannot be used as an exported binding without `from`."
  | exportWithoutSource name => "`" ++ name ++ "` cannot be used without `from` clause"
  | reservedImport => "cannot import as reserved word"
  | secondConstructor => "A class can only have one constructor"
  | generatorConstructor => "Constructor can't be a generator"
  | asyncConstructor => "Constructor can't be an async function"
  | accessorConstructor => "Class constructor can't be an accessor"
  | fieldNamedConstructor => "Classes may not have a non-static field named 'constructor'"
  | privateConstructor => "Classes can't have a private field named '#constructor'"
  | modifierOnPrivate modifier =>
    s!"'{modifier}' modifier cannot be used with a private identifier"
  | getterParameter => "A `get` accessor cannot have parameters"
  | setterParameter => "A `set` accessor must have exactly one parameter"
  | restInSetter => "Rest pattern is not allowed in setter"
  | strictDirective =>
    "Illegal 'use strict' directive in function with non-simple parameter list."
  | valueWithoutBody =>
    "A parameter initializer is only allowed in a function or constructor implementation"
  | parameterProperty =>
    "A parameter property is only allowed in a constructor implementation"
  | parameterPropertyPattern =>
    "Typescript parameter property must be an identifier or assignment pattern"
  | optionalPattern =>
    "A binding pattern parameter cannot be optional in an implementation signature."
  | optionalWithValue => "Parameter cannot have question mark and initializer"
  | typeAfterValue => "Type annotations must come before default assignments"
  | emptyTypeParameters => "Type parameter list cannot be empty"
  | modifierNotHere => "Modifiers cannot appear here"
  | modifierTwice modifier => s!"'{modifier}' modifier already seen."
  | modifierOrder first second => s!"'{first}' modifier must precede '{second}' modifier."
  | modifiersTogether first second =>
    s!"'{first}' modifier cannot be used with '{second}' modifier."
  | overrideWithoutBase =>
    "This member cannot have an 'override' modifier because its containing class " ++
      "does not extend another class."
  | abstractOutside => "Abstract methods can only appear within an abstract class."
  | abstractFieldOutside => "Abstract properties can only appear within an abstract class."
  | abstractWithBody => "Abstract method cannot have an implementation."
  | bodyInAmbient => "An implementation cannot be declared in ambient contexts"
  | valueInAmbient => "Initializers are not allowed in ambient contexts"
  | stringExpected => "String literal expected"
  | enumComputedName => "Computed property names are not allowed in enums"
  | enumNumericName => "An enum member cannot have a numeric name"
  | extendsTwice => "`extends` clause already seen."
  | implementsTwice => "`implements` clause already seen"
  | extendsAfterImplements => "'extends' clause must precede 'implements' clause."
  | severalBases => "Classes can only extend a single class"
  | interfaceName => "interface name is invalid"
  | readonlyMethod => "A method cannot be readonly"
  | readonlyAccessor => "A getter or a setter cannot be readonly"
  | indexSignature => "An index signature must have exactly one parameter"
  | optionalMember => "An object member cannot be declared optional"
  | typedLoopHead =>
    "The left-hand side of a 'for...of' statement cannot use a type annotation"

/-- A flaw and the place where the text shows it. -/
structure Fault where
  offset : Nat
  flaw : Flaw
  deriving DecidableEq, Repr, Inhabited

end FormCodemod.Syntax
