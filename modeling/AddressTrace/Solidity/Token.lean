import AddressTrace.Text.Span

/-!
# Tokens of Solidity

The words of the language as the grammar sees them, and the table of its reserved words.

## Main definitions

* `Token` — one word, with what a later stage needs of its text;
* `Lexeme` — a token and the bytes it stands on;
* `isReserved` — is this word no identifier?
-/

namespace AddressTrace.Solidity

open Text

/-- **One word of the language.** -/
inductive Token
  /-- A name. -/
  | identifier (text : String)
  /-- A reserved word. -/
  | keyword (text : String)
  /-- An operator or a mark of punctuation. -/
  | symbol (text : String)
  /-- A string literal with the text between its quotes as written. -/
  | string (value : String)
  /-- A string literal in hexadecimal. -/
  | hexString
  /-- A literal of the form `address"..."`. -/
  | addressLiteral
  /-- A decimal number: its digits and its exponent as written, the exponent possibly empty. -/
  | number (digits exponent : String)
  /-- A hexadecimal number as written. -/
  | hexNumber (text : String)
  /-- A number with a fraction. -/
  | rational
  /-- A word with an at sign in front. -/
  | atWord
deriving Repr, DecidableEq

/-- **A token in its place.** -/
structure Lexeme where
  token : Token
  span : Span
deriving Repr, DecidableEq

/-- The reserved words that are not type names with a size. -/
def plainKeywords : List String :=
  ["abstract", "address", "anonymous", "as", "assembly", "bool", "break", "byte", "bytes",
    "calldata", "case", "catch", "constant", "constructor", "continue", "contract", "default",
    "delete", "do", "else", "emit", "enum", "event", "external", "fallback", "false", "for",
    "function", "if", "immutable", "import", "indexed", "instance", "int", "interface",
    "internal", "is", "leave", "let", "library", "mapping", "memory", "modifier", "new",
    "override", "payable", "persistent", "pragma", "private", "public", "pure", "receive",
    "return", "returns", "revert", "storage", "string", "struct", "switch", "temporary", "throw",
    "true", "try", "type", "uint", "unchecked", "using", "view", "virtual", "while"]

/-- The names of the integer types of one signedness: the bare name and the multiples of eight
bits up to 256. -/
def integerTypes (name : String) : List String :=
  name :: (List.range 32).map fun i => name ++ toString (8 * (i + 1))

/-- The names of the byte strings of fixed length, one to thirty-two bytes. -/
def fixedBytesTypes : List String :=
  (List.range 32).map fun i => "bytes" ++ toString (i + 1)

/-- The names of the signed and unsigned integer types. -/
def allIntegerTypes : List String :=
  integerTypes "int" ++ integerTypes "uint"

/-- The types that are named by one reserved word and stand for a value; `address`, `payable`
and `mapping` have rules of their own. -/
def elementaryTypes : List String :=
  ["bool", "string", "bytes", "byte"] ++ allIntegerTypes ++ fixedBytesTypes

/-- Is this word reserved, so that it is no identifier? -/
def isReserved (word : String) : Bool :=
  plainKeywords.contains word || elementaryTypes.contains word

/-- The operators and marks, longer ones before their beginnings. -/
def symbols : List String :=
  ["<<=", ">>=", "==", "=>", "!=", "||", "|=", "&&", "&=", "^=", "++", "+=", "--", "-=", "->",
    "**", "*=", "/=", "%=", "<<", "<=", ">>", ">=", ":=", ";", ",", "(", ")", "\x7b", "\x7d", "[",
    "]", "~", "?", ".", "=", "!", "|", "&", "^", "+", "-", "*", "/", "%", "<", ">", ":"]

end AddressTrace.Solidity
