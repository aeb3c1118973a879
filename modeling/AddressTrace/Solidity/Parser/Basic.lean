import AddressTrace.Solidity.Syntax
import AddressTrace.Solidity.Token

/-!
# Parsers over lexemes

A parser reads a value off the front of a list of lexemes, or refuses it.  One lexeme of
lookahead decides which rule applies, two in a few places; nothing is read twice.

## Main definitions

* `Cursor` — the lexemes ahead, and the end of the lexeme read last;
* `Parser` — the parsers, with refusal as the only failure;
* `many`, `separated` — repetition.  A repetition is bounded by a number of rounds, which the
  callers take to be the number of lexemes of the whole file.
-/

namespace AddressTrace.Solidity

open Text

/-- **A place between two lexemes.** -/
structure Cursor where
  /-- Where the lexeme read last ends. -/
  stop : Nat
  /-- The lexemes ahead. -/
  rest : List Lexeme
deriving Repr, DecidableEq

/-- **Parsers**: from a cursor to a value and the cursor behind it, or to nothing. -/
abbrev Parser := StateT Cursor Option

/-! ### Tokens that may serve as names -/

/-- The reserved words that may stand where a name is wanted. -/
def softKeywords : List String := ["switch", "leave", "case", "default"]

/-- The text of a token that may stand for a name of a value. -/
def Token.nameText? : Token → Option String
  | .identifier s => some s
  | .keyword s => if softKeywords.contains s then some s else none
  | _ => none

/-- The text of a token that may stand where a name is declared: `revert` too. -/
def Token.declaredText? : Token → Option String
  | .keyword "revert" => some "revert"
  | t => Token.nameText? t

namespace Parser

variable {α β : Type}

/-- Refuses whatever comes. -/
def refuse : Parser α := fun _ => none

/-- The token ahead. -/
def peek : Parser (Option Token) := fun c => some (c.rest.head?.map (·.token), c)

/-- The token after the one ahead. -/
def peekSecond : Parser (Option Token) := fun c => some (c.rest[1]?.map (·.token), c)

/-- The offset at which the lexeme ahead begins. -/
def start : Parser Nat := fun c => some ((c.rest.head?.map (·.span.start)).getD c.stop, c)

/-- From an offset to the end of the lexeme read last. -/
def spanFrom (offset : Nat) : Parser Span := fun c => some (⟨offset, c.stop⟩, c)

/-- Reads one lexeme if a function finds a value in it. -/
def lexeme (read : Lexeme → Option α) : Parser α
  | ⟨_, l :: rest⟩ => (read l).map fun a => (a, ⟨l.span.stop, rest⟩)
  | ⟨_, []⟩ => none

/-- Reads this token. -/
def token (t : Token) : Parser Unit :=
  lexeme fun l => if l.token = t then some () else none

/-- Reads this operator or mark. -/
def symbol (s : String) : Parser Unit := token (.symbol s)

/-- Reads this reserved word. -/
def keyword (s : String) : Parser Unit := token (.keyword s)

/-- Is this the token ahead? -/
def nextIs (t : Token) : Parser Bool := return (← peek) == some t

/-- Reads this token if it is ahead, and says whether it was. -/
def trial (t : Token) : Parser Bool := do
  if ← nextIs t then
    token t
    return true
  return false

/-- Reads this operator or mark if it is ahead. -/
def trySymbol (s : String) : Parser Bool := trial (.symbol s)

/-- Reads this reserved word if it is ahead. -/
def tryKeyword (s : String) : Parser Bool := trial (.keyword s)

/-- Something after the mark that announces it, or nothing if the mark is not ahead. -/
def after (s : String) (p : Parser α) : Parser (Option α) := do
  if ← trySymbol s then
    return some (← p)
  return none

/-- **Repetition**: as many values as the parser finds, in at most so many rounds.  The parser
says that no value is left by giving none. -/
def many (p : Parser (Option α)) : Nat → Parser (List α)
  | 0 => refuse
  | rounds + 1 => do
    match ← p with
    | some a => return a :: (← many p rounds)
    | none => return []

/-- Values each of which follows a separator. -/
def manyAfter (separator : String) (p : Parser α) (rounds : Nat) : Parser (List α) :=
  many (after separator p) rounds

/-- At least one value, with separators between. -/
def separated (separator : String) (p : Parser α) (rounds : Nat) : Parser (List α) := do
  let first ← p
  return first :: (← manyAfter separator p rounds)

/-- **A list up to its closing mark**, the elements separated by commas; possibly empty. -/
def listUntil (close : String) (p : Parser α) (rounds : Nat) : Parser (List α) := do
  if ← trySymbol close then
    return []
  let items ← separated "," p rounds
  symbol close
  return items

/-- Elements with no separator up to a closing mark. -/
def allUntil (close : String) (p : Parser α) (rounds : Nat) : Parser (List α) :=
  many (do if ← trySymbol close then return none else return some (← p)) rounds

/-- The braces are written by their codes. -/
def openBrace : String := "\x7b"

@[inherit_doc openBrace]
def closeBrace : String := "\x7d"

/-! ### Names -/

/-- Reads a name that a function finds in a token. -/
def nameBy (text? : Token → Option String) : Parser Name :=
  lexeme fun l => (text? l.token).map (⟨·, l.span⟩)

/-- **A name**, any identifier and the few reserved words that may be used as one. -/
def name : Parser Name := nameBy Token.declaredText?

/-- A name that stands for a value. -/
def valueName : Parser Name := nameBy Token.nameText?

/-- Is a name ahead? -/
def nameAhead : Parser Bool := return ((← peek).bind Token.declaredText?).isSome

/-- A name, if one is ahead. -/
def optionalName : Parser (Option Name) := do
  if ← nameAhead then return some (← name) else return none

/-- Is a name for a value ahead? -/
def valueNameAhead : Parser Bool := return ((← peek).bind Token.nameText?).isSome

/-- Names with dots between. -/
def path (rounds : Nat) : Parser (List Name) := separated "." name rounds

end Parser

end AddressTrace.Solidity
