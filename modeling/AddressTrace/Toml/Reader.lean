import AddressTrace.Toml.Scalar

/-!
# Reading TOML

The grammar of TOML documents over a list of characters.

## Main definitions

* `readKey?` — a dotted key;
* `readValue?` — a value;
* `parse?` — the entries of a whole document.
-/

namespace AddressTrace.Toml

/-- The text behind blanks at its front. -/
def skipBlanks (cs : List Char) : List Char := cs.dropWhile isBlankChar

/-- May this character stand in a key without quotes? -/
def isKeyChar (c : Char) : Bool := c.isAlphanum || c == '_' || c == '-'

/-- The greatest number of parts of a key, and of arrays and tables around a value. -/
def maxNesting : Nat := 79

/-! ### Keys -/

/-- One part of a key. -/
def readKeyPart? (cs : List Char) : Option (String × List Char) :=
  match cs with
  | '\x22' :: rest =>
    (readBasic? (rest.length + 1) rest).map fun (text, rest) => (String.ofList text, rest)
  | '\x27' :: rest => (readLiteral? rest).map fun (text, rest) => (String.ofList text, rest)
  | _ =>
    let (text, rest) := cs.span isKeyChar
    if text.isEmpty then none else some (String.ofList text, rest)

/-- The parts of a key, at most so many, with blanks around each. -/
def readKeyParts? : Nat → List Char → Option (List String × List Char)
  | 0, _ => none
  | fuel + 1, cs => do
    let (part, cs) ← readKeyPart? (skipBlanks cs)
    match skipBlanks cs with
    | '.' :: rest =>
      let (parts, rest) ← readKeyParts? fuel rest
      return (part :: parts, rest)
    | rest => return ([part], rest)

/-- **A dotted key**, as its path and its last part. -/
def readKey? (cs : List Char) : Option (List String × String × List Char) := do
  let (parts, rest) ← readKeyParts? maxNesting cs
  let key ← parts.getLast?
  return (parts.dropLast, key, rest)

/-! ### Values -/

/-- The text behind a comment at its front, if there is one; a comment ends with its line. -/
def skipComment? (cs : List Char) : Option (List Char) :=
  match cs with
  | '#' :: rest =>
    match rest.dropWhile isPlain with
    | [] => some []
    | rest => (afterNewline? rest).map fun _ => rest
  | _ => some cs

/-- The text behind blanks, comments and line breaks, of which there are at most so many. -/
def skipLines? : Nat → List Char → Option (List Char)
  | 0, cs => some cs
  | fuel + 1, cs => do
    let rest ← skipComment? (skipBlanks cs)
    match afterNewline? rest with
    | some rest => skipLines? fuel rest
    | none => return rest

/-- A value that is no array and no table. -/
def readScalar? (cs : List Char) : Option (Item × List Char) :=
  match cs with
  | [] => none
  | c :: rest =>
    if c = '\x22' ∨ c = '\x27' then (readString? cs).map fun (text, rest) => (.string text, rest)
    else if c = 't' then ("rue".toList.isPrefixOf? rest).map (.boolean true, ·)
    else if c = 'f' then ("alse".toList.isPrefixOf? rest).map (.boolean false, ·)
    else ((readDateTime? cs).or (readFloat? cs)).or (readInteger? cs)

mutual

/-- **A value** with at most so many arrays and tables around the values in it. -/
def readValue? (levels : Nat) : Nat → List Char → Option (Item × List Char)
  | 0, _ => none
  | fuel + 1, cs =>
    match cs with
    | '[' :: rest => do
      if levels = 0 then none
      else
        let (items, rest) ← readItems? (levels - 1) fuel rest
        return (.array items, rest)
    | c :: rest =>
      if c.toNat = 0x7B then
        if levels = 0 then none
        else
          match skipBlanks rest with
          | d :: after =>
            if d.toNat = 0x7D then some (.table .inline [], after)
            else do
              let (assignments, rest) ← readInline? (levels - 1) fuel rest
              return (.table .inline (← assign? assignments []), rest)
          | [] => none
      else readScalar? cs
    | [] => none

/-- The items of an array up to its closing bracket; a comma may follow the last one. -/
def readItems? (levels : Nat) : Nat → List Char → Option (List Item × List Char)
  | 0, _ => none
  | fuel + 1, cs => do
    let cs ← skipLines? cs.length cs
    match cs with
    | ']' :: rest => return ([], rest)
    | _ =>
      let (item, cs) ← readValue? levels fuel cs
      let cs ← skipLines? cs.length cs
      match cs with
      | ',' :: rest =>
        let (items, rest) ← readItems? levels fuel rest
        return (item :: items, rest)
      | ']' :: rest => return ([item], rest)
      | _ => none

/-- The assignments of a table in braces up to its closing brace, all on one line. -/
def readInline? (levels : Nat) : Nat → List Char → Option (List Assignment × List Char)
  | 0, _ => none
  | fuel + 1, cs => do
    let (path, key, cs) ← readKey? cs
    let cs ← afterChar? '=' cs
    let (item, cs) ← readValue? levels fuel (skipBlanks cs)
    match skipBlanks cs with
    | c :: rest =>
      if c = ',' then
        let (more, rest) ← readInline? levels fuel rest
        return (⟨path, key, item⟩ :: more, rest)
      else if c.toNat = 0x7D then return ([⟨path, key, item⟩], rest)
      else none
    | [] => none

end

/-! ### Documents -/

/-- A line: an assignment or a header. -/
inductive Line
  | assignment (a : Assignment)
  | header (repeated : Bool) (path : List String)

/-- The text behind the end of a line: blanks, a comment, and a line break unless the text ends. -/
def afterLine? (cs : List Char) : Option (List Char) := do
  match ← skipComment? (skipBlanks cs) with
  | [] => return []
  | rest => afterNewline? rest

/-- A line with something on it. -/
def readLine? (cs : List Char) : Option (Line × List Char) :=
  match cs with
  | '[' :: '[' :: rest => do
    let (path, key, rest) ← readKey? rest
    let rest ← afterChar? ']' (← afterChar? ']' rest)
    return (.header true (path ++ [key]), rest)
  | '[' :: rest => do
    let (path, key, rest) ← readKey? rest
    return (.header false (path ++ [key]), ← afterChar? ']' rest)
  | _ => do
    let (path, key, rest) ← readKey? cs
    let rest := skipBlanks (← afterChar? '=' rest)
    let (item, rest) ← readValue? maxNesting (2 * rest.length + 2) rest
    return (.assignment ⟨path, key, item⟩, rest)

/-- The lines of a text, at most so many. -/
def readLines? : Nat → List Char → Option (List Line)
  | 0, _ => none
  | fuel + 1, cs => do
    match ← skipLines? cs.length cs with
    | [] => return []
    | rest =>
      let (line, rest) ← readLine? rest
      return line :: (← readLines? fuel (← afterLine? rest))

/-- Some lines as the assignments in front and the sections behind them. -/
def sections : List Line → List Assignment × List Section
  | [] => ([], [])
  | .assignment a :: rest =>
    let (first, later) := sections rest
    (a :: first, later)
  | .header repeated path :: rest =>
    let (first, later) := sections rest
    ([], ⟨repeated, path, first⟩ :: later)

/-- **The entries of a document.**  A byte order mark in front is passed over. -/
def parse? (text : String) : Option Entries := do
  let cs :=
    match text.toList with
    | c :: rest => if c.toNat = 0xFEFF then rest else c :: rest
    | [] => []
  let (first, later) := sections (← readLines? (cs.length + 1) cs)
  document? first later

end AddressTrace.Toml
