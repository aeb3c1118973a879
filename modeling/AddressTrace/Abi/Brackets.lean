/-!
# Cutting lists into items

How the text of an array or a tuple is cut into the texts of its items.  Quotes protect brackets
and commas, and so do brackets of the other sort.

## Main definitions

* `Brackets` — the two sorts of brackets, seen from the list that is cut;
* `Cut` — the items that were cut out, and whether the text was well formed to its end;
* `Brackets.cut` — the items of a list.

Places are counted in characters and cut in bytes, so a character of several bytes moves the cuts
behind it to the left.
-/

namespace AddressTrace.Abi

/-- **The brackets around a list**, and those of the other sort, which a nested item may have. -/
structure Brackets where
  opening : Char
  closing : Char
  innerOpening : Char
  innerClosing : Char
  /-- Is a nested item cut out where it closes, and not only where the next item begins? -/
  eager : Bool
deriving Repr, DecidableEq

/-- The brackets of arrays. -/
def Brackets.array : Brackets := ⟨'[', ']', '(', ')', true⟩

/-- The brackets of tuples. -/
def Brackets.tuple : Brackets := ⟨'(', ')', '[', ']', false⟩

/-- **A cut list.**  The items before the first fault count even where the text has one. -/
structure Cut where
  items : List (List UInt8)
  complete : Bool
deriving Repr, DecidableEq

/-- **Where a cutter stands.** -/
structure Cutter where
  /-- How many brackets are open. -/
  depth : Int
  /-- How many brackets of the other sort are open. -/
  innerDepth : Int
  quoted : Bool
  /-- Has a nested item been cut out that no comma or bracket has followed yet? -/
  afterInner : Bool
  /-- Where the next item begins. -/
  start : Nat
  /-- Where the nested item began. -/
  innerStart : Nat
deriving Repr, DecidableEq

/-- The cutter before the first character. -/
def Cutter.initial : Cutter := ⟨0, 0, false, false, 1, 1⟩

/-- What a character does: it is a fault, or it leads on and may end an item, given by its two
ends. -/
inductive CutStep
  | fault
  | go (next : Cutter) (item : Option (Nat × Nat))
deriving Repr, DecidableEq

namespace Brackets

/-- A bracket of the other sort that closes at a place. -/
def closeInner (b : Brackets) (s : Cutter) (i : Nat) : CutStep :=
  let s := { s with innerDepth := s.innerDepth - 1 }
  if !b.eager ∧ 0 < s.depth then .go s none
  else if s.innerDepth < 0 then .fault
  else if s.innerDepth = 0 then
    .go { s with afterInner := !s.afterInner } (some (s.innerStart, i + 1))
  else .go s none

/-- A bracket that closes at a place. -/
def close (s : Cutter) (i : Nat) : CutStep :=
  let s := { s with depth := s.depth - 1 }
  if s.afterInner then .go { s with afterInner := false } none
  else if s.depth < 0 then .fault
  else if s.depth = 0 then .go { s with start := i + 1 } (some (s.start, i))
  else .go s none

/-- A comma at a place. -/
def comma (s : Cutter) (i : Nat) : CutStep :=
  if s.depth ≠ 1 then .go s none
  else if s.afterInner then .go { s with afterInner := false } none
  else .go { s with start := i + 1 } (some (s.start, i))

/-- Is this the character that quotes text? -/
def isQuote (c : Char) : Bool := c.toNat == 0x22

/-- **What the character at a place does.** -/
def step (b : Brackets) (s : Cutter) (i : Nat) (c : Char) : CutStep :=
  if s.quoted then .go { s with quoted := !isQuote c } none
  else if c = b.innerOpening then
    let innerStart := if s.innerDepth = 0 then i else s.innerStart
    .go { s with innerDepth := s.innerDepth + 1, innerStart } none
  else if c = b.innerClosing then b.closeInner s i
  else if s.innerDepth ≠ 0 then .go s none
  else if c = b.opening then .go { s with depth := s.depth + 1 } none
  else if c = b.closing then close s i
  else if isQuote c then .go { s with quoted := true } none
  else if c = ',' then comma s i
  else .go s none

/-- The bytes from one place up to another. -/
def between (bytes : List UInt8) (ends : Nat × Nat) : List UInt8 :=
  (bytes.drop ends.1).take (ends.2 - ends.1)

/-- Cuts what is left of a text; `i` is the place of the next character. -/
def cutFrom (b : Brackets) (bytes : List UInt8) (s : Cutter) (i : Nat) : List Char → Cut
  | [] => ⟨[], !s.quoted⟩
  | c :: cs =>
    match b.step s i c with
    | .fault => ⟨[], false⟩
    | .go s item =>
      let rest := b.cutFrom bytes s (i + 1) cs
      ⟨(item.map (between bytes)).toList ++ rest.items, rest.complete⟩

/-- **The items of a list.**  The text must begin and end with the brackets; with nothing between
them there is no item. -/
def cut (b : Brackets) (text : String) : Cut :=
  let cs := text.toList
  if cs.head? ≠ some b.opening ∨ cs.getLast? ≠ some b.closing then ⟨[], false⟩
  else if cs.length = 2 then ⟨[], true⟩
  else b.cutFrom text.toUTF8.toList .initial 0 cs

end Brackets

end AddressTrace.Abi
