import AddressTrace.Solidity.Parser.Basic

/-!
# Inline assembly

Inline assembly is read to find where it ends; nothing of it is kept.

## Main definitions

* `Parser.assemblyBlock` — a block of assembly in braces.
-/

namespace AddressTrace.Solidity.Parser

/-- The reserved words that are names inside assembly, apart from the integer types. -/
def assemblyWords : List String :=
  ["return", "revert", "address", "abstract", "anonymous", "as", "assembly", "bool", "byte",
    "bytes", "catch", "calldata", "constant", "constructor", "contract", "do", "else", "emit",
    "enum", "event", "external", "fallback", "indexed", "interface", "internal", "immutable",
    "import", "is", "library", "mapping", "memory", "modifier", "new", "override", "payable",
    "public", "pragma", "private", "pure", "receive", "returns", "storage", "struct", "throw",
    "try", "using", "view", "virtual", "while", "string", "unchecked"]

/-- May this token be a name inside assembly? -/
def isAssemblyName : Token → Bool
  | .identifier _ => true
  | .keyword s => assemblyWords.contains s || allIntegerTypes.contains s
  | _ => false

/-- A name inside assembly. -/
def assemblyName : Parser Unit :=
  lexeme fun l => if isAssemblyName l.token then some () else none

/-- Names with dots between. -/
def assemblyPath (rounds : Nat) : Parser Unit := do
  let _ ← separated "." assemblyName rounds

/-- A type after its colon, if there is one. -/
def assemblyType : Parser Unit := do
  let _ ← after ":" assemblyName

/-- Names with their types, separated by commas. -/
def typedNames (rounds : Nat) : Parser Unit := do
  let _ ← separated "," (do assemblyName; assemblyType) rounds

/-- Is this a literal inside assembly? -/
def isAssemblyLiteral : Token → Bool
  | .keyword "true" | .keyword "false" => true
  | .number .. | .hexNumber _ | .hexString | .string _ => true
  | _ => false

/-- A literal with its type. -/
def assemblyLiteral : Parser Unit := do
  lexeme fun l => if isAssemblyLiteral l.token then some () else none
  assemblyType

/-- **An expression of assembly**: a path, a call or a literal. -/
def assemblyExpr (rounds : Nat) : Nat → Parser Unit
  | 0 => refuse
  | depth + 1 => do
    if ((← peek).map isAssemblyLiteral).getD false then
      assemblyLiteral
    else
      assemblyName
      if ← trySymbol "(" then
        let _ ← listUntil ")" (assemblyExpr rounds depth) rounds
      else
        let _ ← manyAfter "." assemblyName rounds

/-- A case of a switch, unless the word for one is not ahead. -/
def assemblyCase (block : Parser Unit) : Parser (Option Unit) := do
  if ← tryKeyword "case" then
    assemblyLiteral
    return some (← block)
  return none

/-- The cases of a switch: at least one, the last of which may be the default. -/
def assemblyCases (block : Parser Unit) (rounds : Nat) : Parser Unit := do
  let cases ← many (assemblyCase block) rounds
  if ← tryKeyword "default" then
    block
  else if cases.isEmpty then
    refuse

/-- **A statement of assembly.**  Nested blocks are read by `block`; `depth` bounds the nesting
of calls. -/
def assemblyStatement (block : Parser Unit) (rounds depth : Nat) : Parser Unit := do
  let expr := assemblyExpr rounds depth
  match ← peek with
  | some (.symbol "\x7b") => block
  | some (.keyword "let") =>
    keyword "let"
    typedNames rounds
    let _ ← after ":=" expr
  | some (.keyword "if") =>
    keyword "if"
    expr
    block
  | some (.keyword "for") =>
    keyword "for"
    block
    expr
    block
    block
  | some (.keyword "switch") =>
    keyword "switch"
    expr
    assemblyCases block rounds
  | some (.keyword "function") =>
    keyword "function"
    assemblyName
    symbol "("
    if !(← trySymbol ")") then
      typedNames rounds
      symbol ")"
    let _ ← after "->" (typedNames rounds)
    block
  | some (.keyword "leave") => keyword "leave"
  | some (.keyword "break") => keyword "break"
  | some (.keyword "continue") => keyword "continue"
  | _ =>
    assemblyName
    if ← trySymbol "(" then
      let _ ← listUntil ")" expr rounds
    else
      let _ ← manyAfter "." assemblyName rounds
      let _ ← manyAfter "," (assemblyPath rounds) rounds
      symbol ":="
      expr

/-- **A block of assembly**, nested at most so deep. -/
def assemblyBlock (rounds : Nat) : Nat → Parser Unit
  | 0 => refuse
  | depth + 1 => do
    symbol openBrace
    let _ ← allUntil closeBrace (assemblyStatement (assemblyBlock rounds depth) rounds depth) rounds

end AddressTrace.Solidity.Parser
