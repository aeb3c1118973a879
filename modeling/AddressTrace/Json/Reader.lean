import AddressTrace.Json.Value
import AddressTrace.Text.Hex

/-!
# Reading JSON

The grammar of JSON over a list of characters, without any leniency: one value with white space
around it and nothing else.

## Main definitions

* `readString?`, `readNumeral?`, `readForm?` — the parts of the grammar; each gives what it read
  and the rest of the text;
* `Form.parse?` — the form of a whole text;
* `Value.parse?` — the value of a whole text.
-/

namespace AddressTrace.Json

open Text

/-! ### Strings -/

/-- **A piece of a string as written**: a character, or a code unit written as an escape. -/
inductive Piece
  | char (c : Char)
  | unit (n : Nat)
deriving Repr, DecidableEq

/-- The character that a short escape stands for. -/
def shortEscape? (c : Char) : Option Char :=
  if c.toNat = 0x22 then some c
  else
    match c with
    | '\\' => some '\\'
    | '/' => some '/'
    | 'b' => some '\x08'
    | 'f' => some '\x0c'
    | 'n' => some '\n'
    | 'r' => some '\r'
    | 't' => some '\t'
    | _ => none

/-- The pieces of a string after its opening quote, and the text behind its closing quote.
Control characters may not stand in a string. -/
def readPieces? : List Char → Option (List Piece × List Char)
  | [] => none
  | '\\' :: 'u' :: a :: b :: c :: d :: rest => do
    let n ← hexNat? [a, b, c, d]
    let (pieces, rest) ← readPieces? rest
    return (.unit n :: pieces, rest)
  | '\\' :: c :: rest => do
    let e ← shortEscape? c
    let (pieces, rest) ← readPieces? rest
    return (.char e :: pieces, rest)
  | c :: rest =>
    if c.toNat = 0x22 then some ([], rest)
    else if c.toNat < 0x20 ∨ c = '\\' then none
    else do
      let (pieces, rest) ← readPieces? rest
      return (.char c :: pieces, rest)

/-- Is this code unit the first half of a pair? -/
def isHighUnit (n : Nat) : Bool := 0xD800 ≤ n && n < 0xDC00

/-- Is this code unit the second half of a pair? -/
def isLowUnit (n : Nat) : Bool := 0xDC00 ≤ n && n < 0xE000

/-- The character of a pair of code units. -/
def pairChar (high low : Nat) : Char :=
  Char.ofNat (0x10000 + (high - 0xD800) * 0x400 + (low - 0xDC00))

/-- **The characters of some pieces**, unless half of a pair stands alone. -/
def joinPieces? : List Piece → Option (List Char)
  | [] => some []
  | .char c :: rest => (joinPieces? rest).map (c :: ·)
  | .unit n :: .unit m :: rest =>
    if isHighUnit n then
      if isLowUnit m then (joinPieces? rest).map (pairChar n m :: ·) else none
    else if isLowUnit n then none
    else (joinPieces? (.unit m :: rest)).map (Char.ofNat n :: ·)
  | .unit n :: rest =>
    if isHighUnit n || isLowUnit n then none else (joinPieces? rest).map (Char.ofNat n :: ·)

/-- The text of a string after its opening quote, and what follows the string. -/
def readString? (cs : List Char) : Option (Option String × List Char) :=
  (readPieces? cs).map fun (pieces, rest) => ((joinPieces? pieces).map String.ofList, rest)

/-! ### Numbers -/

/-- The digits at the front of a text, and the rest. -/
def spanDigits (cs : List Char) : List Char × List Char := cs.span Char.isDigit

/-- The exponent at the front of a text, if there is one, and the rest. -/
def readExponent? (cs : List Char) : Option (Option (Bool × List Char) × List Char) :=
  match cs with
  | c :: rest =>
    if c = 'e' ∨ c = 'E' then
      let (down, rest) : Bool × List Char :=
        match rest with
        | '-' :: r => (true, r)
        | '+' :: r => (false, r)
        | r => (false, r)
      let (digits, rest) := spanDigits rest
      if digits.isEmpty then none else some (some (down, digits), rest)
    else some (none, cs)
  | [] => some (none, [])

/-- The fraction at the front of a text, if there is one, and the rest. -/
def readFraction? (cs : List Char) : Option (List Char × List Char) :=
  match cs with
  | '.' :: rest =>
    let (digits, rest) := spanDigits rest
    if digits.isEmpty then none else some (digits, rest)
  | _ => some ([], cs)

/-- **A number.**  A zero in front has no digit after it. -/
def readNumeral? (cs : List Char) : Option (Numeral × List Char) := do
  let (negative, cs) : Bool × List Char :=
    match cs with
    | '-' :: rest => (true, rest)
    | _ => (false, cs)
  let (whole, cs) := spanDigits cs
  match whole with
  | [] => none
  | '0' :: _ :: _ => none
  | _ =>
    let (fraction, cs) ← readFraction? cs
    let (exponent, cs) ← readExponent? cs
    return (⟨negative, whole, fraction, exponent⟩, cs)

/-! ### Values -/

/-- Is this one of the four characters of white space? -/
def isSpace (c : Char) : Bool := c == ' ' || c == '\t' || c == '\n' || c == '\r'

/-- The text behind the white space at its front. -/
def skipSpace (cs : List Char) : List Char := cs.dropWhile isSpace

/-- What stands behind an opening bracket: the closing one, or elements up to it, which make up one
form. -/
def readEnclosed? {α : Type} (close : Char) (wrap : List α → Form)
    (elements? : List Char → Option (List α × List Char)) (cs : List Char) :
    Option (Form × List Char) :=
  let inside := skipSpace cs
  if inside.head? = some close then some (wrap [], inside.tail)
  else (elements? cs).map fun (elements, rest) => (wrap elements, rest)

mutual

/-- **A value**, with white space in front, in a text nested at most so deep. -/
def readForm? : Nat → List Char → Option (Form × List Char)
  | 0, _ => none
  | depth + 1, cs =>
    match skipSpace cs with
    | [] => none
    | c :: rest =>
      match c with
      | 'n' => ("ull".toList.isPrefixOf? rest).map (.null, ·)
      | 't' => ("rue".toList.isPrefixOf? rest).map (.bool true, ·)
      | 'f' => ("alse".toList.isPrefixOf? rest).map (.bool false, ·)
      | '[' => readEnclosed? ']' .array (readItems? depth) rest
      | '{' => readEnclosed? '}' .object (readMembers? depth) rest
      | _ =>
        if c.toNat = 0x22 then (readString? rest).map fun (text, rest) => (.string text, rest)
        else (readNumeral? (c :: rest)).map fun (x, rest) => (.number x, rest)

/-- The items of an array up to its closing bracket, at least one. -/
def readItems? : Nat → List Char → Option (List Form × List Char)
  | 0, _ => none
  | depth + 1, cs => do
    let (item, cs) ← readForm? depth cs
    match skipSpace cs with
    | ',' :: cs =>
      let (items, cs) ← readItems? depth cs
      return (item :: items, cs)
    | ']' :: cs => return ([item], cs)
    | _ => none

/-- The members of an object up to its closing brace, at least one. -/
def readMembers? : Nat → List Char → Option (List (Option String × Form) × List Char)
  | 0, _ => none
  | depth + 1, cs => do
    match skipSpace cs with
    | q :: cs =>
      if q.toNat ≠ 0x22 then none
      else
        let (name, cs) ← readString? cs
        match skipSpace cs with
        | ':' :: cs =>
          let (value, cs) ← readForm? depth cs
          match skipSpace cs with
          | ',' :: cs =>
            let (members, cs) ← readMembers? depth cs
            return ((name, value) :: members, cs)
          | '}' :: cs => return ([(name, value)], cs)
          | _ => none
        | _ => none
    | [] => none

end

/-- **The form of a text**, if it is JSON.  Each step of the reader but the first is behind at
least one character, so twice the length is depth enough. -/
def Form.parseChars? (cs : List Char) : Option Form := do
  let (form, rest) ← readForm? (2 * cs.length + 2) cs
  if (skipSpace rest).isEmpty then return form else none

/-- The form of a text, if it is JSON. -/
def Form.parse? (text : String) : Option Form := Form.parseChars? text.toList

/-- **The value of a text**, if it is JSON and has one. -/
def Value.parse? (text : String) : Option Value := (Form.parse? text).bind Form.value?

end AddressTrace.Json
