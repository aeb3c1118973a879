import AddressTrace.Text.Hex
import AddressTrace.Toml.Value

/-!
# TOML scalars

Strings, numbers, dates and times.  Each reader takes the text at the place of a value and gives
what it read and the rest.

## Main definitions

* `readBasic?`, `readLiteral?`, `readString?` — strings;
* `readInteger?`, `readFloat?` — numbers;
* `readDateTime?` — dates and times.
-/

namespace AddressTrace.Toml

open Text

/-- Is this a blank inside a line? -/
def isBlankChar (c : Char) : Bool := c == ' ' || c == '\t'

/-- May this character stand in a comment or a string?  Control characters may not, the tab
apart. -/
def isPlain (c : Char) : Bool := c == '\t' || (0x20 ≤ c.toNat && c.toNat != 0x7F)

/-- The text behind a line break at its front. -/
def afterNewline? : List Char → Option (List Char)
  | '\n' :: cs => some cs
  | '\r' :: '\n' :: cs => some cs
  | _ => none

/-- The text behind a line break, if there is one. -/
def skipNewline (cs : List Char) : List Char := (afterNewline? cs).getD cs

/-! ### Strings -/

/-- The character that a short escape stands for. -/
def shortEscape? (c : Char) : Option Char :=
  match c with
  | 'b' => some '\x08'
  | 't' => some '\t'
  | 'n' => some '\n'
  | 'f' => some '\x0c'
  | 'r' => some '\r'
  | '\x22' => some '\x22'
  | '\\' => some '\\'
  | _ => none

/-- The character with the code that some hexadecimal digits give. -/
def codeChar? (digits : List Char) : Option Char := do
  let n ← hexNat? digits
  if n.isValidChar then return Char.ofNat n else none

/-- The character that an escape stands for, behind its backslash. -/
def readEscape? : List Char → Option (Char × List Char)
  | 'u' :: a :: b :: c :: d :: rest => (codeChar? [a, b, c, d]).map (·, rest)
  | 'U' :: a :: b :: c :: d :: e :: f :: g :: h :: rest =>
    (codeChar? [a, b, c, d, e, f, g, h]).map (·, rest)
  | c :: rest => (shortEscape? c).map (·, rest)
  | [] => none

/-- A string on one line with escapes, behind its opening quote, at most so long. -/
def readBasic? : Nat → List Char → Option (List Char × List Char)
  | 0, _ => none
  | _, [] => none
  | fuel + 1, c :: rest =>
    if c = '\x22' then some ([], rest)
    else if c = '\\' then do
      let (e, rest) ← readEscape? rest
      let (cs, rest) ← readBasic? fuel rest
      return (e :: cs, rest)
    else if isPlain c then do
      let (cs, rest) ← readBasic? fuel rest
      return (c :: cs, rest)
    else none

/-- A string on one line without escapes, behind its opening quote. -/
def readLiteral? : List Char → Option (List Char × List Char)
  | [] => none
  | c :: rest =>
    if c = '\x27' then some ([], rest)
    else if isPlain c then do
      let (cs, rest) ← readLiteral? rest
      return (c :: cs, rest)
    else none

/-- The end of a string in triple quotes, behind three quotes: up to two more belong to it. -/
def closingQuotes (quote : Char) : List Char → List Char × List Char
  | a :: b :: rest =>
    if a = quote ∧ b = quote then ([quote, quote], rest)
    else if a = quote then ([quote], b :: rest)
    else ([], a :: b :: rest)
  | [a] => if a = quote then ([quote], []) else ([], [a])
  | [] => ([], [])

/-- The text behind an escaped line break and the white space that follows it. -/
def afterEscapedNewline? (cs : List Char) : Option (List Char) := do
  let rest ← afterNewline? (cs.dropWhile isBlankChar)
  return skipSpace rest.length rest
where
  /-- The text behind blanks and line breaks, at most so many. -/
  skipSpace : Nat → List Char → List Char
    | 0, cs => cs
    | fuel + 1, cs =>
      match afterNewline? (cs.dropWhile isBlankChar) with
      | some rest => skipSpace fuel rest
      | none => cs.dropWhile isBlankChar

/-- A string in triple quotes, behind them, at most so long.  With escapes the quote is double. -/
def readMultiline? (quote : Char) (escapes : Bool) : Nat → List Char →
    Option (List Char × List Char)
  | 0, _ => none
  | _, [] => none
  | fuel + 1, c :: rest =>
    if c = quote ∧ rest.take 2 = [quote, quote] then some (closingQuotes quote (rest.drop 2))
    else if escapes ∧ c = '\\' then
      match afterEscapedNewline? rest with
      | some rest => readMultiline? quote escapes fuel rest
      | none => do
        let (e, rest) ← readEscape? rest
        let (cs, rest) ← readMultiline? quote escapes fuel rest
        return (e :: cs, rest)
    else if isPlain c then do
      let (cs, rest) ← readMultiline? quote escapes fuel rest
      return (c :: cs, rest)
    else do
      let rest ← afterNewline? (c :: rest)
      let (cs, rest) ← readMultiline? quote escapes fuel rest
      return ('\n' :: cs, rest)

/-- **A string** of any of the four sorts.  A line break right behind triple quotes is dropped. -/
def readString? (cs : List Char) : Option (String × List Char) :=
  let found :=
    match cs with
    | '\x22' :: '\x22' :: '\x22' :: rest =>
      readMultiline? '\x22' true (rest.length + 1) (skipNewline rest)
    | '\x22' :: rest => readBasic? (rest.length + 1) rest
    | '\x27' :: '\x27' :: '\x27' :: rest =>
      readMultiline? '\x27' false (rest.length + 1) (skipNewline rest)
    | '\x27' :: rest => readLiteral? rest
    | _ => none
  found.map fun (text, rest) => (String.ofList text, rest)

/-! ### Numbers -/

/-- Digits with single underscores between them, at least one, without the underscores. -/
def readDigits? (isDigit : Char → Bool) : List Char → Option (List Char × List Char)
  | [] => none
  | c :: cs =>
    if !isDigit c then none
    else
      match cs with
      | '_' :: rest => (readDigits? isDigit rest).map fun (ds, rest) => (c :: ds, rest)
      | d :: rest =>
        if isDigit d then (readDigits? isDigit (d :: rest)).map fun (ds, rest) => (c :: ds, rest)
        else some ([c], cs)
      | [] => some ([c], [])

/-- The sign at the front of a text, negative or not, and the rest. -/
def readSign : List Char → Bool × List Char
  | '-' :: cs => (true, cs)
  | '+' :: cs => (false, cs)
  | cs => (false, cs)

/-- The digits of a decimal number, in which a zero in front stands alone. -/
def readWhole? (cs : List Char) : Option (List Char × List Char) :=
  match cs with
  | '0' :: rest => some (['0'], rest)
  | _ => readDigits? Char.isDigit cs

/-- The value of some digits in a base. -/
def digitsValue (base : Nat) (digits : List Char) : Nat :=
  digits.foldl (fun n c => base * n + (hexValue? c).getD 0) 0

/-- An integer if it fits into 64 bits. -/
def integer? (n : Int) : Option Item :=
  if -(Nat.pow 2 63 : Nat) ≤ n ∧ n < (Nat.pow 2 63 : Nat) then some (.integer n) else none

/-- The digits of a number in a base, behind its marker. -/
def readBased? (base : Nat) (cs : List Char) : Option (Item × List Char) := do
  let (ds, rest) ← readDigits? (fun c => (hexValue? c).any (· < base)) cs
  return (← integer? (digitsValue base ds), rest)

/-- **An integer**, in decimal with or without a sign, or in another base behind its marker. -/
def readInteger? (cs : List Char) : Option (Item × List Char) :=
  match cs with
  | '0' :: 'x' :: rest => readBased? 16 rest
  | '0' :: 'o' :: rest => readBased? 8 rest
  | '0' :: 'b' :: rest => readBased? 2 rest
  | _ => do
    let (negative, rest) := readSign cs
    let (ds, rest) ← readWhole? rest
    let n : Int := digitsValue 10 ds
    return (← integer? (if negative then -n else n), rest)

/-- The exponent at the front of a text. -/
def readExponent? : List Char → Option (Int × List Char)
  | c :: cs =>
    if c = 'e' ∨ c = 'E' then do
      let (negative, rest) := readSign cs
      let (ds, rest) ← readDigits? Char.isDigit rest
      let n : Int := digitsValue 10 ds
      return (if negative then -n else n, rest)
    else none
  | [] => none

/-- Half a unit above the greatest finite double: what is not below it rounds to infinity. -/
def doubleLimit : Nat := Nat.pow 2 1024 - Nat.pow 2 970

/-- **Is a number of `digits` times a power of ten too great for a double?** -/
def isTooGreat (digits : Nat) (exponent : Int) : Bool :=
  if digits = 0 then false
  else if 400 < exponent then true
  else if 0 ≤ exponent then doubleLimit ≤ digits * Nat.pow 10 exponent.toNat
  else
    -- With fewer digits than places the number is below one.
    digits.log2 ≥ 4 * (-exponent).toNat + 1100
      || ((-exponent).toNat ≤ digits.log2
        && doubleLimit * Nat.pow 10 (-exponent).toNat ≤ digits)

/-- **A floating-point number**, which has a fraction or an exponent, or is infinite or no number.
A positive number that is too great is refused. -/
def readFloat? (cs : List Char) : Option (Item × List Char) :=
  let (negative, rest) := readSign cs
  match ("inf".toList.isPrefixOf? rest).or ("nan".toList.isPrefixOf? rest) with
  | some rest => some (.float, rest)
  | none => do
    let (whole, rest) ← readWhole? rest
    let finish (fraction : List Char) (exponent : Int) (rest : List Char) :
        Option (Item × List Char) :=
      let tooGreat :=
        isTooGreat (digitsValue 10 (whole ++ fraction)) (exponent - (fraction.length : Int))
      if !negative && tooGreat then none else some (.float, rest)
    match rest with
    | '.' :: rest =>
      let (fraction, rest) ← readDigits? Char.isDigit rest
      match rest with
      | c :: _ =>
        if c = 'e' ∨ c = 'E' then do
          let (exponent, rest) ← readExponent? rest
          finish fraction exponent rest
        else finish fraction 0 rest
      | [] => finish fraction 0 rest
    | _ =>
      let (exponent, rest) ← readExponent? rest
      finish [] exponent rest

/-! ### Dates and times -/

/-- A number of exactly so many digits, within bounds. -/
def readField? (size low high : Nat) (cs : List Char) : Option (Nat × List Char) :=
  let ds := cs.take size
  if ds.length = size ∧ ds.all Char.isDigit then
    let n := digitsValue 10 ds
    if low ≤ n ∧ n ≤ high then some (n, cs.drop size) else none
  else none

/-- The text behind a character at its front. -/
def afterChar? (c : Char) : List Char → Option (List Char)
  | d :: cs => if d = c then some cs else none
  | [] => none

/-- How many days a month has. -/
def daysIn (year month : Nat) : Nat :=
  if month = 2 then
    if year % 4 = 0 ∧ (year % 100 ≠ 0 ∨ year % 400 = 0) then 29 else 28
  else if month = 4 ∨ month = 6 ∨ month = 9 ∨ month = 11 then 30
  else 31

/-- The text behind a date. -/
def afterDate? (cs : List Char) : Option (List Char) := do
  let (year, cs) ← readField? 4 0 9999 cs
  let (month, cs) ← readField? 2 1 12 (← afterChar? '-' cs)
  let (_, cs) ← readField? 2 1 (daysIn year month) (← afterChar? '-' cs)
  return cs

/-- The text behind the fraction of a second, if there is one. -/
def skipFraction (cs : List Char) : List Char :=
  match cs with
  | '.' :: d :: rest => if d.isDigit then rest.dropWhile Char.isDigit else cs
  | _ => cs

/-- The text behind a time of day.  A minute may have a leap second. -/
def afterTime? (cs : List Char) : Option (List Char) := do
  let (_, cs) ← readField? 2 0 23 cs
  let (_, cs) ← readField? 2 0 59 (← afterChar? ':' cs)
  let (_, cs) ← readField? 2 0 60 (← afterChar? ':' cs)
  return skipFraction cs

/-- The text behind the distance from universal time, if there is one. -/
def skipOffset (cs : List Char) : List Char :=
  let offset : Option (List Char) :=
    match cs with
    | c :: rest =>
      if c = 'Z' ∨ c = 'z' then some rest
      else if c = '+' ∨ c = '-' then do
        let (_, rest) ← readField? 2 0 23 rest
        let (_, rest) ← readField? 2 0 59 (← afterChar? ':' rest)
        return rest
      else none
    | [] => none
  offset.getD cs

/-- **A date, a time, or both**, with or without an offset. -/
def readDateTime? (cs : List Char) : Option (Item × List Char) :=
  match afterDate? cs with
  | some rest =>
    let time : Option (List Char) :=
      match rest with
      | c :: rest => if c = 'T' ∨ c = 't' ∨ c = ' ' then afterTime? rest else none
      | [] => none
    some (.dateTime, (time.map skipOffset).getD rest)
  | none => (afterTime? cs).map (.dateTime, ·)

end AddressTrace.Toml
