import AddressTrace.Text.Span

/-!
# Lines and columns

Byte offsets of a text turned into lines and columns.  A newline character ends a line and
belongs to it; a carriage return is a character like any other.

## Main definitions

* `LineIndex` — the offsets at which the second and later lines of a text begin;
* `LineIndex.lineColumn` — line and column of an offset, both counted from zero;
* `LineIndex.position` — the same with lines counted from one;
* `LineIndex.positions` — the positions of the two ends of a span.
-/

namespace AddressTrace.Text

/-- **A place in a text.**  Lines are counted from one, columns in bytes from zero. -/
structure Position where
  line : Nat
  column : Nat
deriving Repr, DecidableEq, Inhabited

/-- **Where the lines of a text begin.**  The first line begins at zero and is left out. -/
structure LineIndex where
  /-- Offsets just after each newline, ascending. -/
  starts : List Nat
deriving Repr, DecidableEq

namespace LineIndex

/-- The offsets just after the newlines of a text that begins at offset `offset`. -/
def startsFrom (offset : Nat) : List Char → List Nat
  | [] => []
  | c :: cs =>
    let next := offset + c.utf8Size
    if c = '\n' then next :: startsFrom next cs else startsFrom next cs

/-- The line index of a text. -/
def ofText (text : String) : LineIndex :=
  ⟨startsFrom 0 text.toList⟩

/-- **Line and column, both from zero.**  The line is the number of lines that begin at or
before the offset, the column the distance to the last of those beginnings.  An offset beyond
the text lies on its last line. -/
def lineColumn (index : LineIndex) (offset : Nat) : Nat × Nat :=
  let before := index.starts.takeWhile (· ≤ offset)
  (before.length, offset - before.getLastD 0)

/-- The place of an offset. -/
def position (index : LineIndex) (offset : Nat) : Position :=
  let (line, column) := index.lineColumn offset
  ⟨line + 1, column⟩

/-- The places of the two ends of a span. -/
def positions (index : LineIndex) (span : Span) : Position × Position :=
  (index.position span.start, index.position span.stop)

end LineIndex

end AddressTrace.Text
