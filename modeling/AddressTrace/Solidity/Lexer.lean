import AddressTrace.Solidity.Token
import AddressTrace.Text.Blank
import AddressTrace.Text.Hex
import AddressTrace.Text.Identifier

/-!
# Reading tokens

A source text is read into lexemes from left to right.  The scanner moves one character at a
time: `scan` looks at the text from a character on and says what begins there and how many
further characters belong to it, and `lexemesFrom` passes over that many.  So the recursion is on
the text itself, and the offsets are those of the characters passed.

## Main definitions

* `scan` — the token, gap or error at the front of a text;
* `lexemes?` — the lexemes of a text, or nothing when some character begins no token.
-/

namespace AddressTrace.Solidity

open Text

/-- **What stands at the front of a text.**  The number is that of the further characters which
belong to it, after the first. -/
inductive Scan
  /-- White space or a comment. -/
  | gap (more : Nat)
  /-- A token. -/
  | token (token : Token) (more : Nat)
  /-- Neither. -/
  | invalid
deriving Repr, DecidableEq

/-- Which numbers may come next.  Between the name of a pragma and its semicolon a number is a
plain run of digits, so that versions are read part by part. -/
inductive Mode
  /-- Any number. -/
  | plain
  /-- Any number, just after the word `pragma`. -/
  | pragma
  /-- Plain digits. -/
  | version
deriving Repr, DecidableEq

/-- The mode after a token. -/
def Mode.next (mode : Mode) (token : Token) : Mode :=
  match mode, token with
  | .version, .symbol ";" => .plain
  | .version, _ => .version
  | _, .keyword "pragma" => .pragma
  | .pragma, .identifier _ => .version
  | _, _ => .plain

/-- May this character begin an identifier? -/
def isIdentifierStart (c : Char) : Bool :=
  c == '_' || c == '$' || isNameStart c

/-- May this character continue an identifier? -/
def isIdentifierContinue (c : Char) : Bool :=
  c == '$' || isNameContinue c

/-- Digits of a number and the low lines between them. -/
def isNumberPart (c : Char) : Bool :=
  c.isDigit || c == '_'

/-- Hexadecimal digits and the low lines between them. -/
def isHexPart (c : Char) : Bool :=
  isHexDigit c || c == '_'

/-- Is this one of the two marks that open and close a literal? -/
def isQuote (c : Char) : Bool :=
  c.toNat == 0x22 || c.toNat == 0x27

/-! ### Comments -/

/-- The characters up to the end of a line. -/
def lineLength (cs : List Char) : Nat :=
  (cs.takeWhile fun c => c != '\n' && c != '\r').length

/-- The characters up to and with the end of a block comment. -/
def blockCommentLength? : List Char → Option Nat
  | '*' :: '/' :: _ => some 2
  | _ :: cs => (blockCommentLength? cs).map (· + 1)
  | [] => none

/-! ### Literals -/

/-- The text up to the closing quote.  A backslash makes the next character ordinary. -/
def quotedText? (quote : Char) : List Char → Option (List Char)
  | [] => none
  | [c] => if c = quote then some [] else none
  | c :: d :: cs =>
    if c = quote then some []
    else if c = '\\' then (quotedText? quote cs).map fun t => c :: d :: t
    else (quotedText? quote (d :: cs)).map (c :: ·)

/-- Scans a string literal after its opening quote; `before` characters stand in front of the
text. -/
def scanString (quote : Char) (before : Nat) (cs : List Char) : Scan :=
  match quotedText? quote cs with
  | some text => .token (.string (String.ofList text)) (before + text.length + 1)
  | none => .invalid

/-- Scans a literal whose characters all satisfy `allowed`, after its opening quote. -/
def scanRaw (quote : Char) (allowed : Char → Bool) (token : Token) (before : Nat)
    (cs : List Char) : Scan :=
  let text := cs.takeWhile fun c => c != quote && allowed c
  if cs[text.length]? = some quote then .token token (before + text.length + 1) else .invalid

/-! ### Words and numbers -/

/-- **Scans a word**: a prefixed literal if a quote follows at once, else a reserved word or an
identifier. -/
def scanWord (c : Char) (cs : List Char) : Scan :=
  let tail := cs.takeWhile isIdentifierContinue
  let word := String.ofList (c :: tail)
  let after := cs.drop tail.length
  let plain : Scan :=
    .token (if isReserved word then .keyword word else .identifier word) tail.length
  match after with
  | q :: body =>
    if isQuote q then
      match word with
      | "unicode" => scanString q (tail.length + 1) body
      | "hex" => scanRaw q isHexPart .hexString (tail.length + 1) body
      | "address" => scanRaw q (fun _ => true) .addressLiteral (tail.length + 1) body
      | _ => plain
    else plain
  | [] => plain

/-- The exponent at the front of a text, with the number of its characters: nothing if there is
none, and no value at all if there is an exponent mark without digits. -/
def exponent? : List Char → Option (List Char × Nat)
  | c :: cs =>
    if c = 'e' ∨ c = 'E' then
      let signs := cs.takeWhile (· == '-')
      let digits := (cs.drop signs.length).takeWhile isNumberPart
      if digits.isEmpty then none
      else some (signs ++ digits, 1 + signs.length + digits.length)
    else some ([], 0)
  | [] => some ([], 0)

/-- Scans the rest of a number with a fraction: `before` further characters are read already and
the text goes on with the digits of the fraction. -/
def scanFraction (before : Nat) (cs : List Char) : Scan :=
  let digits := cs.takeWhile isNumberPart
  match exponent? (cs.drop digits.length) with
  | some (_, n) => .token .rational (before + digits.length + n)
  | none => .invalid

/-- **Scans a number** that begins with the digit `c`. -/
def scanNumber (mode : Mode) (c : Char) (cs : List Char) : Scan :=
  match c, cs with
  | '0', 'x' :: rest =>
    let digits := rest.takeWhile isHexPart
    match digits with
    | d :: _ =>
      if isHexDigit d then
        .token (.hexNumber (String.ofList ('0' :: 'x' :: digits))) (1 + digits.length)
      else .invalid
    | [] => .invalid
  | _, _ =>
    let tail := cs.takeWhile isNumberPart
    let digits := String.ofList (c :: tail)
    let after := cs.drop tail.length
    if mode = .version then .token (.number digits "") tail.length
    else
      match after with
      | '.' :: d :: rest =>
        if d.isDigit then scanFraction (tail.length + 1) (d :: rest)
        else .token (.number digits "") tail.length
      | _ =>
        match exponent? after with
        | some (e, n) => .token (.number digits (String.ofList e)) (tail.length + n)
        | none => .invalid

/-- Scans an operator or a mark. -/
def scanSymbol (cs : List Char) : Scan :=
  match symbols.find? fun s => s.toList.isPrefixOf cs with
  | some s => .token (.symbol s) (s.length - 1)
  | none => .invalid

/-- **What begins with the character `c`**, the text going on with `cs`. -/
def scan (mode : Mode) (c : Char) (cs : List Char) : Scan :=
  if isBlank c then .gap 0
  else if isIdentifierStart c then scanWord c cs
  else if c.isDigit then scanNumber mode c cs
  else if isQuote c then scanString c 0 cs
  else
    match c, cs with
    | '/', '/' :: rest => .gap (1 + lineLength rest)
    | '/', '*' :: rest =>
      match blockCommentLength? rest with
      | some n => .gap (1 + n)
      | none => .invalid
    | '.', d :: rest =>
      if d.isDigit ∧ mode ≠ .version then scanFraction 0 (d :: rest) else scanSymbol (c :: cs)
    | '@', rest =>
      let name := rest.takeWhile isIdentifierContinue
      if name.isEmpty then .invalid else .token .atWord name.length
    | _, _ => scanSymbol (c :: cs)

/-! ### The whole text -/

/-- The lexemes of the rest of a text: `offset` is the offset of its first character, and the
next `skip` characters belong to what was read before. -/
def lexemesFrom (mode : Mode) (offset : Nat) : Nat → List Char → Option (List Lexeme)
  | _, [] => some []
  | skip + 1, c :: cs => lexemesFrom mode (offset + c.utf8Size) skip cs
  | 0, c :: cs =>
    match scan mode c cs with
    | .gap more => lexemesFrom mode (offset + c.utf8Size) more cs
    | .token token more =>
      let stop := offset + widthOf (c :: cs.take more)
      (lexemesFrom (mode.next token) (offset + c.utf8Size) more cs).map
        (⟨token, offset, stop⟩ :: ·)
    | .invalid => none

/-- **The lexemes of a source text**, unless some part of it is no token. -/
def lexemes? (source : List Char) : Option (List Lexeme) :=
  lexemesFrom .plain 0 0 source

end AddressTrace.Solidity
