import AddressTrace.Text.Span

/-!
# The syntax of a source file

What the parser finds in a source file.  Everything that can hold a value is kept: definitions of
contracts, functions and variables, statements and expressions.  Types that are written with
reserved words, inline assembly and the other definitions keep their place only.

## Main definitions

* `Expr`, `Stmt`, `Item`, `Argument` — expressions, statements and their parts;
* `FunctionDef`, `VariableDef`, `ContractDef` — definitions;
* `SourceUnit` — a whole file.
-/

namespace AddressTrace.Solidity

open Text

/-- **An identifier in its place.** -/
structure Name where
  text : String
  span : Span
deriving Repr, DecidableEq

/-- One string literal of a run of adjacent ones. -/
structure StringPart where
  value : String
  span : Span
deriving Repr, DecidableEq

/-- **Operators with one operand**, written before it or after it. -/
inductive UnaryOp
  | not | complement | delete | new | increment | decrement | plus | minus
  | postIncrement | postDecrement
deriving Repr, DecidableEq

mutual

/-- **Expressions.**  Every form carries the bytes it stands on. -/
inductive Expr
  /-- An identifier. -/
  | name (id : Name)
  /-- The word `revert` where an operand is expected. -/
  | bareRevert (id : Name)
  /-- A decimal number: digits, exponent (possibly empty) and unit. -/
  | number (span : Span) (digits exponent : String) (suffix : Option Name)
  /-- A hexadecimal number as written, with its unit. -/
  | hexNumber (span : Span) (text : String) (suffix : Option Name)
  /-- A number with a fraction, with its unit. -/
  | rational (span : Span) (suffix : Option Name)
  /-- Adjacent string literals. -/
  | strings (first : StringPart) (more : List StringPart)
  /-- A truth value, a string in hexadecimal, or an address literal. -/
  | literal (span : Span)
  /-- A type written with a reserved word. -/
  | elementaryType (span : Span)
  /-- A function type. -/
  | functionType (span : Span)
  /-- An expression in parentheses. -/
  | paren (span : Span) (inner : Expr)
  /-- A list in parentheses that is not a single expression. -/
  | tuple (span : Span) (items : List (Option Item))
  /-- An array written out. -/
  | array (span : Span) (items : List Expr)
  /-- A call. -/
  | call (span : Span) (callee : Expr) (arguments : List Expr)
  /-- A call with named arguments. -/
  | namedCall (span : Span) (callee : Expr) (arguments : List Argument)
  /-- A callee followed by a block or by options in braces. -/
  | blockCall (span : Span) (callee : Expr) (block : Stmt)
  /-- A member of an object. -/
  | member (span : Span) (object : Expr) (member : Name)
  /-- An element of an array. -/
  | subscript (span : Span) (array : Expr) (index : Option Expr)
  /-- A part of an array. -/
  | slice (span : Span) (array : Expr) (first last : Option Expr)
  /-- An operator with one operand. -/
  | unary (span : Span) (op : UnaryOp) (operand : Expr)
  /-- An operator between two operands, assignments among them. -/
  | binary (span : Span) (op : String) (left right : Expr)
  /-- A choice between two values. -/
  | conditional (span : Span) (condition whenTrue whenFalse : Expr)

/-- **An item of a list in parentheses**: a value or a type, and the name declared with it. -/
inductive Item
  | mk (span : Span) (value : Expr) (name : Option Name)

/-- A named argument. -/
inductive Argument
  | mk (name : Name) (value : Expr)

/-- **Statements.**  The span of a statement ends before its semicolon. -/
inductive Stmt
  /-- A block, checked or unchecked. -/
  | block (span : Span) (statements : List Stmt)
  /-- Named values in braces. -/
  | options (span : Span) (arguments : List Argument)
  /-- The declaration of one variable. -/
  | declaration (span : Span) (item : Item) (value : Option Expr)
  /-- An expression. -/
  | expression (span : Span) (value : Expr)
  | ifElse (span : Span) (condition : Expr) (whenTrue : Stmt) (whenFalse : Option Stmt)
  | whileLoop (span : Span) (condition : Expr) (body : Stmt)
  | doWhile (span : Span) (body : Stmt) (condition : Expr)
  | forLoop (span : Span) (first : Option Stmt) (condition step : Option Expr) (body : Option Stmt)
  | ret (span : Span) (value : Option Expr)
  | emit (span : Span) (event : Expr)
  /-- A revert with positional arguments. -/
  | revert (span : Span) (error : List Name) (arguments : List Expr)
  /-- A revert with named arguments. -/
  | revertNamed (span : Span) (error : List Name) (arguments : List Argument)
  /-- A guarded call, what it returns, and the bodies of its handlers. -/
  | tryCatch (span : Span) (call : Expr) (returns : List (Option Item)) (body : Option Stmt)
      (handlers : List Stmt)
  /-- Inline assembly. -/
  | assembly (span : Span)
  /-- `break` or `continue`. -/
  | jump (span : Span)

end

/-- The value or type of an item. -/
def Item.value : Item → Expr
  | .mk _ value _ => value

/-- The name declared by an item. -/
def Item.name : Item → Option Name
  | .mk _ _ name => name

/-- The bytes that an item stands on. -/
def Item.span : Item → Span
  | .mk span _ _ => span

/-- The value of a named argument. -/
def Argument.value : Argument → Expr
  | .mk _ value => value

/-- **A base contract or modifier** with the arguments it is given, if it has a list of them. -/
structure Invocation where
  path : List Name
  arguments : Option (List Expr)

/-- **A function**, a modifier, a constructor, or one of the two unnamed entry points. -/
structure FunctionDef where
  span : Span
  name : Option Name
  parameters : List (Option Item)
  /-- The bases and modifiers among its attributes. -/
  invocations : List Invocation
  returns : List (Option Item)
  body : Option Stmt

/-- **A variable** of a contract or of a file. -/
structure VariableDef where
  span : Span
  name : Name
  value : Option Expr

/-- A part of a contract that can hold values, or another one. -/
inductive ContractPart
  | state (definition : VariableDef)
  | function (definition : FunctionDef)
  | other

/-- **A contract**, an interface or a library. -/
structure ContractDef where
  span : Span
  name : Name
  bases : List Invocation
  parts : List ContractPart

/-- A part of a file that can hold values, or another one. -/
inductive SourcePart
  | contract (definition : ContractDef)
  | function (definition : FunctionDef)
  | constant (definition : VariableDef)
  | other

/-- **A source file.** -/
abbrev SourceUnit := List SourcePart

end AddressTrace.Solidity
