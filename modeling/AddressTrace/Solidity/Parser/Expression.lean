import AddressTrace.Solidity.Parser.Basic

/-!
# Expressions and parameter lists

The rules for expressions, types and lists of parameters.  A rule that meets a nested expression,
type or statement asks the parsers of `Nested` for it; tying that knot is left to the module for
whole files, so that each rule here is an ordinary definition.

## Main definitions

* `Nested` — the parsers for what stands inside brackets;
* `operand` — operands with everything that may follow them, which is also the form of a type;
* `expression` — operators, choices and assignments over operands;
* `parameters` — parameter lists.
-/

namespace AddressTrace.Solidity

open Text

/-- **Parsers for nested parts**, and the number of rounds that bounds each repetition. -/
structure Nested where
  expr : Parser Expr
  type : Parser Expr
  stmt : Parser Stmt
  rounds : Nat

/-! ### Forms of an expression -/

/-- Can this operand be called?  Numbers and function types cannot. -/
def Expr.isCallable : Expr → Bool
  | .number .. | .hexNumber .. | .rational .. | .functionType .. => false
  | _ => true

/-- Is this a call of some form? -/
def Expr.isCall : Expr → Bool
  | .call .. | .namedCall .. | .blockCall .. => true
  | _ => false

/-- **Can this expression stand where a type is wanted?**  Every operand but a number can: an
operand is what no operator was applied to from the left or between two operands. -/
def Expr.isTypeLike : Expr → Bool
  | .number .. | .hexNumber .. | .rational .. | .bareRevert .. | .binary .. | .conditional .. =>
    false
  | .unary _ op _ => op == .postIncrement || op == .postDecrement
  | _ => true

namespace Parser

/-! ### Named arguments -/

/-- The text of a token that may name an argument. -/
def argumentText? : Token → Option String
  | .keyword "address" => some "address"
  | t => Token.declaredText? t

/-- A named argument. -/
def argument (r : Nested) : Parser Argument := do
  let name ← nameBy argumentText?
  symbol ":"
  return .mk name (← r.expr)

/-- Does a named argument begin here? -/
def argumentAhead : Parser Bool :=
  return ((← peek).bind argumentText?).isSome && (← peekSecond) == some (.symbol ":")

/-- Named arguments after their opening brace. -/
def namedArguments (r : Nested) : Parser (List Argument) :=
  listUntil closeBrace (argument r) r.rounds

/-! ### Items and parameter lists -/

/-- The places where a value may be kept. -/
def storageWords : List String := ["memory", "storage", "calldata"]

/-- Is the word for a place of storage ahead? -/
def storageAhead : Parser Bool :=
  return match ← peek with
    | some (.keyword s) => storageWords.contains s
    | _ => false

/-- Reads the word for a place of storage if one is ahead, and says whether it was. -/
def tryStorage : Parser Bool := do
  if ← storageAhead then
    lexeme fun _ => some ()
    return true
  return false

/-- **A parameter**: a type, perhaps a place of storage, perhaps a name. -/
def parameter (r : Nested) : Parser Item := do
  let s ← start
  let _ ← trial .atWord
  let type ← r.type
  let _ ← tryStorage
  let name ← optionalName
  return .mk (← spanFrom s) type name

/-- **An item of a list in an expression**: a value, or the declaration of a variable. -/
def item (r : Nested) : Parser Item := do
  let s ← start
  let value ← r.expr
  if value.isTypeLike && ((← storageAhead) || (← nameAhead)) then
    let _ ← tryStorage
    let name ← name
    return .mk (← spanFrom s) value (some name)
  return .mk (← spanFrom s) value none

/-- A slot of a list: nothing before a comma or the closing parenthesis. -/
def slot (p : Parser Item) : Parser (Option Item) := do
  if (← nextIs (.symbol ",")) || (← nextIs (.symbol ")")) then
    return none
  return some (← p)

/-- **A list of slots in parentheses.**  Between commas a slot may be empty; the list with
nothing at all in it has no slot. -/
def slots (p : Parser Item) (rounds : Nat) : Parser (List (Option Item)) := do
  symbol "("
  if ← trySymbol ")" then
    return []
  let first ← slot p
  let more ← manyAfter "," (slot p) rounds
  symbol ")"
  return first :: more

/-- A list of parameters. -/
def parameters (r : Nested) : Parser (List (Option Item)) := slots (parameter r) r.rounds

/-! ### Types -/

/-- The words that may follow the parameters of a function type. -/
def functionTypeWords : List String :=
  ["immutable", "pure", "constant", "view", "payable", "public", "external", "internal",
    "private"]

/-- Reads one of some reserved words if one is ahead. -/
def oneWordOf (words : List String) : Parser (Option Unit) := do
  match ← peek with
  | some (.keyword s) => if words.contains s then return some (← keyword s) else return none
  | _ => return none

/-- The parameters and results of a function type, after its first word. -/
def functionTypeTail (r : Nested) : Parser (List (Option Item) × List (Option Item)) := do
  let params ← parameters r
  let _ ← many (oneWordOf functionTypeWords) r.rounds
  if ← tryKeyword "returns" then
    let results ← parameters r
    let _ ← many (oneWordOf functionTypeWords) r.rounds
    return (params, results)
  return (params, [])

/-- The rest of a mapping type, after its first word. -/
def mappingTail (r : Nested) : Parser Unit := do
  symbol "("
  let _ ← r.type
  let _ ← optionalName
  symbol "=>"
  let _ ← r.type
  let _ ← optionalName
  symbol ")"

/-! ### Operands -/

/-- The rest of a list in parentheses that begins at an offset: one value without a name is an
expression in parentheses, anything else a tuple. -/
def parenthesized (r : Nested) (s : Nat) : Parser Expr := do
  let items ← slots (item r) r.rounds
  let span ← spanFrom s
  match items with
  | [some (.mk _ value none)] => return .paren span value
  | _ => return .tuple span items

/-- Reads a string literal if one is ahead. -/
def tryString : Parser (Option StringPart) := do
  match ← peek with
  | some (.string _) =>
    return some (← lexeme fun l =>
      match l.token with
      | .string v => some ⟨v, l.span⟩
      | _ => none)
  | _ => return none

/-- The unit of a number, if one follows. -/
def suffix : Parser (Option Name) := do
  if ← valueNameAhead then return some (← valueName) else return none

/-- A text without its low lines. -/
def withoutLowLines (s : String) : String :=
  String.ofList (s.toList.filter (· != '_'))

/-- An operand that begins with a reserved word. -/
def keywordOperand (r : Nested) (s : Nat) (word : String) : Parser Expr := do
  keyword word
  match word with
  | "true" | "false" => return .literal (← spanFrom s)
  | "payable" => return .elementaryType (← spanFrom s)
  | "address" =>
    let _ ← tryKeyword "payable"
    return .elementaryType (← spanFrom s)
  | "mapping" =>
    mappingTail r
    return .elementaryType (← spanFrom s)
  | "function" =>
    let _ ← functionTypeTail r
    return .functionType (← spanFrom s)
  | "type" =>
    let span ← spanFrom s
    if (← nextIs (.symbol "(")) || (← nextIs (.symbol openBrace)) then
      return .name ⟨word, span⟩
    refuse
  | _ => if elementaryTypes.contains word then return .elementaryType (← spanFrom s) else refuse

/-- **An operand without what follows it.** -/
def atom (r : Nested) : Parser Expr := do
  let s ← start
  match ← peek with
  | some (.number digits exponent) =>
    token (.number digits exponent)
    let unit ← suffix
    return .number (← spanFrom s) (withoutLowLines digits) (withoutLowLines exponent) unit
  | some (.hexNumber text) =>
    token (.hexNumber text)
    let unit ← suffix
    return .hexNumber (← spanFrom s) text unit
  | some .rational =>
    token .rational
    let unit ← suffix
    return .rational (← spanFrom s) unit
  | some (.string _) =>
    match ← many tryString r.rounds with
    | first :: more => return .strings first more
    | [] => refuse
  | some .hexString =>
    let _ ← many (do if ← trial .hexString then return some () else return none) r.rounds
    return .literal (← spanFrom s)
  | some .addressLiteral =>
    token .addressLiteral
    return .literal (← spanFrom s)
  | some (.symbol "(") => parenthesized r s
  | some (.symbol "[") =>
    symbol "["
    let items ← listUntil "]" r.expr r.rounds
    return .array (← spanFrom s) items
  | some (.keyword word) =>
    if ← valueNameAhead then return .name (← valueName) else keywordOperand r s word
  | _ => return .name (← valueName)

/-- The text of a token that may name a member. -/
def memberText? : Token → Option String
  | .keyword "address" => some "address"
  | .keyword "new" => some "new"
  | t => Token.declaredText? t

/-- An expression, unless the lexeme ahead is one of some marks. -/
def exprUnless (r : Nested) (marks : List String) : Parser (Option Expr) := do
  match ← peek with
  | some (.symbol s) => if marks.contains s then return none else return some (← r.expr)
  | _ => return some (← r.expr)

/-- An index or a pair of bounds, after the opening bracket. -/
def subscriptTail (r : Nested) (s : Nat) (array : Expr) : Parser Expr := do
  let first ← exprUnless r [":", "]"]
  if ← trySymbol ":" then
    let last ← exprUnless r ["]"]
    symbol "]"
    return .slice (← spanFrom s) array first last
  symbol "]"
  return .subscript (← spanFrom s) array first

/-- The arguments of a call, after the opening parenthesis. -/
def callTail (r : Nested) (s : Nat) (callee : Expr) : Parser Expr := do
  if ← trySymbol openBrace then
    let arguments ← namedArguments r
    symbol ")"
    return .namedCall (← spanFrom s) callee arguments
  let arguments ← listUntil ")" r.expr r.rounds
  return .call (← spanFrom s) callee arguments

/-- **One step to the right of an operand** that begins at an offset, if one follows. -/
def operandStep (r : Nested) (s : Nat) (e : Expr) : Parser (Option Expr) := do
  match ← peek with
  | some (.symbol "++") =>
    symbol "++"
    return some (.unary (← spanFrom s) .postIncrement e)
  | some (.symbol "--") =>
    symbol "--"
    return some (.unary (← spanFrom s) .postDecrement e)
  | some (.symbol "[") =>
    symbol "["
    return some (← subscriptTail r s e)
  | some (.symbol ".") =>
    symbol "."
    let member ← nameBy memberText?
    return some (.member (← spanFrom s) e member)
  | some (.symbol "(") =>
    if e.isCallable then
      symbol "("
      return some (← callTail r s e)
    return none
  | some (.symbol "\x7b") =>
    if e.isCallable then
      let block ← r.stmt
      return some (.blockCall (← spanFrom s) e block)
    return none
  | _ => return none

/-- All steps to the right of an operand. -/
def operandSteps (r : Nested) (s : Nat) : Nat → Expr → Parser Expr
  | 0, _ => refuse
  | rounds + 1, e => do
    match ← operandStep r s e with
    | some e' => operandSteps r s rounds e'
    | none => return e

/-- **An operand** with everything that follows it: members, indices, calls. -/
def operand (r : Nested) : Parser Expr := do
  let s ← start
  let e ← atom r
  operandSteps r s r.rounds e

/-- **A type.**  Any operand but a number. -/
def typeName (r : Nested) : Parser Expr := do
  let e ← operand r
  if e.isTypeLike then return e else refuse

/-- An operand that is a call. -/
def callOperand (r : Nested) : Parser Expr := do
  let e ← operand r
  if e.isCall then return e else refuse

/-! ### Operators -/

/-- The operators that stand before their operand. -/
def leading? : Token → Option UnaryOp
  | .symbol "!" => some .not
  | .symbol "~" => some .complement
  | .symbol "++" => some .increment
  | .symbol "--" => some .decrement
  | .symbol "+" => some .plus
  | .symbol "-" => some .minus
  | .keyword "delete" => some .delete
  | .keyword "new" => some .new
  | _ => none

/-- Operators before an operand, or the word `revert` in place of all that. -/
def leading (r : Nested) : Nat → Parser Expr
  | 0 => refuse
  | rounds + 1 => do
    let s ← start
    match ← peek with
    | some (.keyword "revert") => return .bareRevert (← name)
    | t =>
      match t.bind leading? with
      | some op =>
        lexeme fun _ => some ()
        let e ← leading r rounds
        return .unary (← spanFrom s) op e
      | none => operand r

/-- Powers, which group to the right. -/
def power (r : Nested) : Nat → Parser Expr
  | 0 => refuse
  | rounds + 1 => do
    let s ← start
    let l ← leading r r.rounds
    if ← trySymbol "**" then
      let e ← power r rounds
      return .binary (← spanFrom s) "**" l e
    return l

/-- The operators between operands that group to the left, from the tightest to the loosest. -/
def levels : List (List String) :=
  [["*", "/", "%"], ["+", "-"], ["<<", ">>"], ["&"], ["^"], ["|"], ["<", ">", "<=", ">="],
    ["==", "!="], ["&&"], ["||"]]

/-- The operators of one level that follow a left operand, which begins at an offset. -/
def levelSteps (ops : List String) (p : Parser Expr) (s : Nat) : Nat → Expr → Parser Expr
  | 0, _ => refuse
  | rounds + 1, l => do
    match ← peek with
    | some (.symbol op) =>
      if ops.contains op then
        symbol op
        let e ← p
        let span ← spanFrom s
        levelSteps ops p s rounds (.binary span op l e)
      else return l
    | _ => return l

/-- One level of operators over the next tighter one. -/
def level (rounds : Nat) (p : Parser Expr) (ops : List String) : Parser Expr := do
  let s ← start
  let l ← p
  levelSteps ops p s rounds l

/-- Operators between operands. -/
def operators (r : Nested) : Parser Expr :=
  levels.foldl (level r.rounds) (power r r.rounds)

/-- The operators that assign. -/
def assignments : List String :=
  ["=", "|=", "^=", "&=", "<<=", ">>=", "+=", "-=", "*=", "/=", "%="]

/-- **An expression**: operators, then an assignment or a choice, which group to the right. -/
def expression (r : Nested) : Parser Expr := do
  let s ← start
  let l ← operators r
  match ← peek with
  | some (.symbol op) =>
    if assignments.contains op then
      symbol op
      let e ← r.expr
      return .binary (← spanFrom s) op l e
    if op == "?" then
      symbol op
      let whenTrue ← r.expr
      symbol ":"
      let whenFalse ← r.expr
      return .conditional (← spanFrom s) l whenTrue whenFalse
    return l
  | _ => return l

end Parser

end AddressTrace.Solidity
