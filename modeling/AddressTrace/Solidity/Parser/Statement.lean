import AddressTrace.Solidity.Parser.Assembly
import AddressTrace.Solidity.Parser.Expression

/-!
# Statements

The rules for statements.  The semicolon that closes a statement is read but is not part of the
span of that statement; it is part of the span of a statement around it.

## Main definitions

* `Parser.block` — a block, or named values in braces;
* `Parser.statement` — any statement.
-/

namespace AddressTrace.Solidity.Parser

open Text

/-- The statements up to the closing brace. -/
def statementsTail (r : Nested) : Parser (List Stmt) := allUntil closeBrace r.stmt r.rounds

/-- **A block**, or named values in braces if a name and a colon follow the opening brace. -/
def block (r : Nested) : Parser Stmt := do
  let s ← start
  symbol openBrace
  if ← argumentAhead then
    let arguments ← namedArguments r
    return .options (← spanFrom s) arguments
  let statements ← statementsTail r
  return .block (← spanFrom s) statements

/-- The value after an equals sign, if there is one. -/
def initializer (r : Nested) : Parser (Option Expr) := after "=" (expression r)

/-- **A declaration or an expression**, without its semicolon. -/
def simple (r : Nested) : Parser Stmt := do
  let s ← start
  let value ← expression r
  if value.isTypeLike && ((← storageAhead) || (← nameAhead)) then
    let _ ← tryStorage
    let name ← name
    let declared := Item.mk (← spanFrom s) value (some name)
    let value ← initializer r
    return .declaration (← spanFrom s) declared value
  return .expression (← spanFrom s) value

/-- The condition of a statement, in parentheses. -/
def condition (r : Nested) : Parser Expr := do
  symbol "("
  let e ← expression r
  symbol ")"
  return e

/-- An alternative, if there is one; it belongs to the nearest condition. -/
def alternative (r : Nested) : Parser (Option Stmt) := do
  if ← tryKeyword "else" then return some (← r.stmt) else return none

/-- A part of the head of a loop, unless the mark after it is ahead. -/
def unlessMark {α : Type} (mark : String) (p : Parser α) : Parser (Option α) := do
  if ← nextIs (.symbol mark) then return none else return some (← p)

/-- A counted loop, after its first word.  A semicolon may stand for the body. -/
def forTail (r : Nested) (s : Nat) : Parser Stmt := do
  symbol "("
  let first ← unlessMark ";" (simple r)
  symbol ";"
  let test ← unlessMark ";" (expression r)
  symbol ";"
  let step ← unlessMark ")" (expression r)
  symbol ")"
  let head ← spanFrom s
  if ← trySymbol ";" then
    return .forLoop head first test step none
  let body ← r.stmt
  return .forLoop (← spanFrom s) first test step (some body)

/-- A parameter in parentheses. -/
def singleParameter (r : Nested) : Parser Unit := do
  symbol "("
  let _ ← parameter r
  symbol ")"

/-- The body of a handler, unless no handler is ahead. -/
def handler (r : Nested) : Parser (Option Stmt) := do
  if ← tryKeyword "catch" then
    if ← nameAhead then
      let _ ← name
      singleParameter r
    else if ← nextIs (.symbol "(") then
      singleParameter r
    return some (← block r)
  return none

/-- The call that is guarded, perhaps one that creates a contract. -/
def guardedCall (r : Nested) : Parser Expr := do
  let s ← start
  if ← tryKeyword "new" then
    let call ← callOperand r
    return .unary (← spanFrom s) .new call
  callOperand r

/-- A guarded call with its handlers, after its first word. -/
def tryTail (r : Nested) (s : Nat) : Parser Stmt := do
  let call ← guardedCall r
  let (returns, body) ← do
    if ← tryKeyword "returns" then
      let returns ← parameters r
      let body ← block r
      pure (returns, some body)
    else pure ([], none)
  match ← many (handler r) r.rounds with
  | [] => refuse
  | handlers => return .tryCatch (← spanFrom s) call returns body handlers

/-- A revert with its arguments, after its first word. -/
def revertTail (r : Nested) (s : Nat) : Parser Stmt := do
  let error ← do if ← nameAhead then path r.rounds else pure []
  symbol "("
  if ← trySymbol openBrace then
    let arguments ← namedArguments r
    symbol ")"
    return .revertNamed (← spanFrom s) error arguments
  let arguments ← listUntil ")" r.expr r.rounds
  return .revert (← spanFrom s) error arguments

/-- Is a reverting statement ahead, rather than an expression that begins with its word? -/
def revertAhead : Parser Bool :=
  return match ← peekSecond with
    | some (.symbol "(") => true
    | t => (t.bind Token.declaredText?).isSome

/-- The dialect and flags of inline assembly, and its block, after its first word. -/
def assemblyTail (r : Nested) : Parser Unit := do
  let _ ← tryString
  if ← trySymbol "(" then
    let _ ← separated "," (do match ← tryString with
      | some _ => pure ()
      | none => refuse) r.rounds
    symbol ")"
  assemblyBlock r.rounds r.rounds

/-- A statement followed by its semicolon. -/
def closed (p : Parser Stmt) : Parser Stmt := do
  let s ← p
  symbol ";"
  return s

/-- A statement that begins at an offset with a reserved word of its own. -/
def keywordStatement (r : Nested) (s : Nat) (word : String) : Parser (Option Stmt) := do
  match word with
  | "if" =>
    keyword word
    let test ← condition r
    let whenTrue ← r.stmt
    let whenFalse ← alternative r
    return some (.ifElse (← spanFrom s) test whenTrue whenFalse)
  | "while" =>
    keyword word
    let test ← condition r
    let body ← r.stmt
    return some (.whileLoop (← spanFrom s) test body)
  | "for" =>
    keyword word
    return some (← forTail r s)
  | "do" =>
    keyword word
    let body ← r.stmt
    keyword "while"
    let test ← condition r
    return some (← closed (return .doWhile (← spanFrom s) body test))
  | "unchecked" =>
    keyword word
    symbol openBrace
    let statements ← statementsTail r
    return some (.block (← spanFrom s) statements)
  | "assembly" =>
    keyword word
    assemblyTail r
    return some (.assembly (← spanFrom s))
  | "continue" | "break" =>
    keyword word
    return some (← closed (return .jump (← spanFrom s)))
  | "return" =>
    keyword word
    let value ← unlessMark ";" (expression r)
    return some (← closed (return .ret (← spanFrom s) value))
  | "try" =>
    keyword word
    return some (← tryTail r s)
  | "emit" =>
    keyword word
    let event ← callOperand r
    return some (← closed (return .emit (← spanFrom s) event))
  | "revert" =>
    if ← revertAhead then
      keyword word
      return some (← closed (revertTail r s))
    return none
  | _ => return none

/-- **A statement.** -/
def statement (r : Nested) : Parser Stmt := do
  let s ← start
  match ← peek with
  | some (.symbol "\x7b") => block r
  | some (.keyword word) =>
    match ← keywordStatement r s word with
    | some stmt => return stmt
    | none => closed (simple r)
  | _ => closed (simple r)

end AddressTrace.Solidity.Parser
