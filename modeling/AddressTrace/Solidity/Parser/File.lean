import AddressTrace.Solidity.Lexer
import AddressTrace.Solidity.Parser.Statement

/-!
# Whole files

The rules for definitions, the parser for a source file, and the knot that ties nested
expressions, types and statements to the rules for them.  A nested part is at least one lexeme
behind the part it stands in, so a file nests at most as deep as it has lexemes.

## Main definitions

* `Nested.ofDepth` — the parsers for parts nested at most so deep;
* `sourceUnit?` — the syntax of a source file, or nothing when it does not follow the grammar.
-/

namespace AddressTrace.Solidity

open Text

namespace Nested

/-- The rules, with the given parsers for the parts nested in them. -/
def step (r : Nested) : Nested where
  expr := Parser.expression r
  type := Parser.typeName r
  stmt := Parser.statement r
  rounds := r.rounds

/-- **Parsers for parts nested at most so deep.** -/
def ofDepth (rounds : Nat) : Nat → Nested
  | 0 => ⟨Parser.refuse, Parser.refuse, Parser.refuse, rounds⟩
  | depth + 1 => (ofDepth rounds depth).step

end Nested

namespace Parser

variable (r : Nested)

/-! ### Functions -/

/-- A base contract or a modifier with its arguments. -/
def invocation : Parser Invocation := do
  let path ← path r.rounds
  let arguments ← after "(" (listUntil ")" r.expr r.rounds)
  return ⟨path, arguments⟩

/-- The paths that an overriding definition names, if it names any. -/
def overrideTail : Parser Unit := do
  let _ ← after "(" (do let _ ← separated "," (path r.rounds) r.rounds; symbol ")")

/-- The reserved words that may be attributes of a function. -/
def functionWords : List String :=
  ["pure", "constant", "view", "payable", "public", "external", "internal", "private",
    "immutable", "virtual"]

/-- An attribute of a function, if one is ahead; those that are invocations are kept. -/
def functionAttribute : Parser (Option (Option Invocation)) := do
  if ← nameAhead then
    return some (some (← invocation r))
  if ← tryKeyword "override" then
    overrideTail r
    return some none
  match ← oneWordOf functionWords with
  | some _ => return some none
  | none => return none

/-- The results of a function, if they are declared. -/
def results : Parser (List (Option Item)) := do
  if (← tryKeyword "returns") || (← tryKeyword "return") then parameters r else return []

/-- The body of a function; a semicolon stands for none. -/
def body : Parser (Option Stmt) := do
  if ← trySymbol ";" then return none else return some (← block r)

/-- What follows the name of a function. -/
def functionTail (s : Nat) (name : Option Name) (params : Parser (List (Option Item))) :
    Parser FunctionDef := do
  let parameters ← params
  let attributes ← many (functionAttribute r) r.rounds
  let returns ← results r
  let body ← body r
  return ⟨← spanFrom s, name, parameters, attributes.filterMap id, returns, body⟩

/-- A modifier, which may do without parameters. -/
def modifier (s : Nat) : Parser FunctionDef := do
  keyword "modifier"
  let name ← name
  functionTail r s (some name)
    (do if ← nextIs (.symbol "(") then parameters r else return [])

/-- A constructor or one of the unnamed entry points. -/
def entryPoint (s : Nat) (word : String) : Parser FunctionDef := do
  keyword word
  let name ← optionalName
  functionTail r s name (parameters r)

/-! ### Variables -/

/-- The reserved words that may be attributes of a variable. -/
def variableWords : List String :=
  ["public", "external", "internal", "private", "persistent", "temporary", "instance",
    "constant", "immutable"]

/-- An attribute of a variable, if one is ahead. -/
def variableAttribute : Parser (Option Unit) := do
  if ← tryKeyword "override" then
    return some (← overrideTail r)
  oneWordOf variableWords

/-- What follows the name of a variable. -/
def variableTail (s : Nat) (name : Name) : Parser VariableDef := do
  let value ← initializer r
  let span ← spanFrom s
  symbol ";"
  return ⟨span, name, value⟩

/-! ### Definitions without values -/

/-- An annotation. -/
def atWordPart : Parser Unit := do
  token .atWord
  symbol "("
  let _ ← expression r
  symbol ")"

/-- An enumeration. -/
def enumeration : Parser Unit := do
  keyword "enum"
  let _ ← name
  symbol openBrace
  let _ ← listUntil closeBrace name r.rounds

/-- A member of a structure. -/
def structureMember : Parser Unit := do
  let _ ← typeName r
  let _ ← tryStorage
  let _ ← name
  symbol ";"

/-- A structure. -/
def structureDefinition : Parser Unit := do
  keyword "struct"
  let _ ← name
  symbol openBrace
  let _ ← allUntil closeBrace (structureMember r) r.rounds

/-- An event. -/
def event : Parser Unit := do
  keyword "event"
  let _ ← name
  symbol "("
  let _ ← listUntil ")" (do
    let _ ← typeName r
    let _ ← tryKeyword "indexed"
    let _ ← optionalName) r.rounds
  let _ ← tryKeyword "anonymous"
  symbol ";"

/-- The parameters of an error, after their opening parenthesis. -/
def errorTail : Parser Unit := do
  let _ ← listUntil ")" (do
    let _ ← typeName r
    let _ ← optionalName) r.rounds
  symbol ";"

/-- A named type, after its first word. -/
def typeDefinitionTail : Parser Unit := do
  let _ ← name
  keyword "is"
  let _ ← typeName r
  symbol ";"

/-- The operators that a library may define. -/
def userOperators : List String :=
  ["&", "~", "|", "^", "+", "/", "%", "*", "-", "==", ">", "<", ">=", "<=", "!="]

/-- An operator that a library may define. -/
def userOperator : Parser Unit := do
  match ← peek with
  | some (.symbol s) => if userOperators.contains s then symbol s else refuse
  | _ => refuse

/-- The attachment of a library to a type. -/
def usingDirective : Parser Unit := do
  keyword "using"
  if ← trySymbol openBrace then
    let _ ← listUntil closeBrace (do
      let _ ← path r.rounds
      if ← tryKeyword "as" then userOperator) r.rounds
  else
    let _ ← path r.rounds
  keyword "for"
  if !(← trySymbol "*") then
    let _ ← typeName r
  let _ ← optionalName
  symbol ";"

/-- What a file is imported by: a string or a path. -/
def importPath : Parser Unit := do
  match ← tryString with
  | some _ => pure ()
  | none => let _ ← path r.rounds

/-- The word `from`, which is a name elsewhere. -/
def fromWord : Parser Unit := do
  if (← name).text == "from" then pure () else refuse

/-- A name that a symbol is imported under. -/
def importAlias : Parser Unit := do
  if ← tryKeyword "as" then
    let _ ← name

/-- An import. -/
def importDirective : Parser Unit := do
  keyword "import"
  if ← trySymbol "*" then
    keyword "as"
    let _ ← name
    fromWord
    importPath r
  else if ← trySymbol openBrace then
    let _ ← separated "," (do let _ ← name; importAlias) r.rounds
    symbol closeBrace
    fromWord
    importPath r
  else
    importPath r
    importAlias
  symbol ";"

/-- A number of a version, if one is ahead. -/
def tryNumber : Parser Bool := do
  match ← peek with
  | some (.number d e) =>
    token (.number d e)
    return true
  | _ => return false

/-- A version: numbers with dots between. -/
def version : Parser Unit := do
  let number : Parser Unit := do if ← tryNumber then pure () else refuse
  let _ ← separated "." number r.rounds

/-- The comparisons that a version may be subject to. -/
def versionOperators : List String := ["=", ">", ">=", "<", "<=", "~", "^", "*"]

/-- A version, a comparison with one, or a range between two. -/
def versionRange : Parser Unit := do
  match ← peek with
  | some (.symbol s) =>
    if versionOperators.contains s then
      symbol s
      version r
    else refuse
  | _ =>
    version r
    let _ ← after "-" (version r)

/-- Versions up to the semicolon, with or without bars between them. -/
def versionTail : Parser Unit := do
  versionRange r
  let _ ← many (do
    if ← trySymbol ";" then return none
    let _ ← trySymbol "||"
    return some (← versionRange r)) r.rounds

/-- A pragma. -/
def pragma : Parser Unit := do
  keyword "pragma"
  let _ ← name
  match ← peek with
  | some (.identifier s) =>
    token (.identifier s)
    symbol ";"
  | some (.string s) =>
    token (.string s)
    symbol ";"
  | _ => versionTail r

/-! ### Parts of files and contracts -/

/-- What follows the type of a definition: attributes, the name, and the value of a variable or
the parameters of an error.  An error has no attributes. -/
def typedTail (s : Nat) : Parser ContractPart := do
  let attributes ← many (variableAttribute r) r.rounds
  let name ← name
  if attributes.isEmpty then
    if ← trySymbol "(" then
      errorTail r
      return .other
  return .state (← variableTail r s name)

/-- **A definition that begins with a type**: a variable, or an error, whose word has the place of
a type. -/
def typedDefinition (s : Nat) : Parser ContractPart := do
  let _ ← typeName r
  typedTail r s

/-- A definition that begins with the type of a function, after its first word: a function
without a name, or a variable. -/
def functionTypeDefinition (s : Nat) : Parser ContractPart := do
  let (parameters, returns) ← functionTypeTail r
  if (← nextIs (.symbol ";")) || (← nextIs (.symbol openBrace)) then
    let body ← body r
    return .function ⟨← spanFrom s, none, parameters, [], returns, body⟩
  match ← operandSteps r s r.rounds (.functionType (← spanFrom s)) with
  | .functionType _ => return .state (← variableTail r s (← name))
  | _ => typedTail r s

/-- A definition that begins with the word for functions. -/
def functionDefinition (s : Nat) : Parser ContractPart := do
  keyword "function"
  if ← nameAhead then
    let name ← name
    return .function (← functionTail r s (some name) (parameters r))
  functionTypeDefinition r s

/-- Reads a definition of which nothing is kept. -/
def dropped (p : Parser Unit) : Parser ContractPart := do
  p
  return .other

/-- **A part that may stand in a file and in a contract**, at an offset. -/
def sharedPart (s : Nat) : Parser ContractPart := do
  match ← peek with
  | some (.symbol ";") => dropped (symbol ";")
  | some .atWord => dropped (atWordPart r)
  | some (.keyword "struct") => dropped (structureDefinition r)
  | some (.keyword "event") => dropped (event r)
  | some (.keyword "enum") => dropped (enumeration r)
  | some (.keyword "using") => dropped (usingDirective r)
  | some (.keyword "function") => functionDefinition r s
  | some (.keyword "type") =>
    if ((← peekSecond).bind Token.declaredText?).isSome then
      dropped (do keyword "type"; typeDefinitionTail r)
    else typedDefinition r s
  | _ => typedDefinition r s

/-- The words that begin an entry point. -/
def entryWords : List String := ["constructor", "fallback", "receive"]

/-- **A part of a contract.** -/
def contractPart : Parser ContractPart := do
  let s ← start
  match ← peek with
  | some (.keyword word) =>
    if word == "modifier" then return .function (← modifier r s)
    if entryWords.contains word then return .function (← entryPoint r s word)
    sharedPart r s
  | _ => sharedPart r s

/-- The words that begin a contract. -/
def contractWords : List String := ["contract", "interface", "library"]

/-- **A contract**, its first word being ahead. -/
def contract (s : Nat) (word : String) : Parser ContractDef := do
  keyword word
  if word == "abstract" then keyword "contract"
  let name ← name
  let bases ← do
    if ← tryKeyword "is" then separated "," (invocation r) r.rounds else pure []
  symbol openBrace
  let parts ← allUntil closeBrace (contractPart r) r.rounds
  return ⟨← spanFrom s, name, bases, parts⟩

/-- A part shared with contracts, as a part of a file. -/
def ofContractPart : ContractPart → SourcePart
  | .state d => .constant d
  | .function d => .function d
  | .other => .other

/-- **A part of a file.** -/
def sourcePart : Parser SourcePart := do
  let s ← start
  match ← peek with
  | some (.keyword "pragma") =>
    pragma r
    return .other
  | some (.keyword "import") =>
    importDirective r
    return .other
  | some (.keyword word) =>
    if word == "abstract" || contractWords.contains word then
      return .contract (← contract r s word)
    return ofContractPart (← sharedPart r s)
  | _ => return ofContractPart (← sharedPart r s)

/-- All parts up to the end of the file. -/
def sourceUnit : Parser SourceUnit :=
  many (do if (← peek).isNone then return none else return some (← sourcePart r)) r.rounds

end Parser

/-- **The syntax of some lexemes**, if they follow the grammar to the last one. -/
def parseLexemes? (lexemes : List Lexeme) : Option SourceUnit :=
  let rounds := lexemes.length + 1
  ((Parser.sourceUnit (Nested.ofDepth rounds rounds)).run ⟨0, lexemes⟩).map Prod.fst

/-- **The syntax of a source file**, or nothing when it does not follow the grammar. -/
def sourceUnit? (source : String) : Option SourceUnit :=
  (lexemes? source.toList).bind parseLexemes?

end AddressTrace.Solidity
