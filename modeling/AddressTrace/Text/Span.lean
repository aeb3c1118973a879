/-!
# Spans

Ranges of a text, counted in bytes of its UTF-8 form.  The end of a range is the offset of the
first byte that is no longer part of it.

## Main definitions

* `Span` — a range of bytes;
* `Span.join` — the range from the start of one span to the end of another;
* `widthOf` — the number of bytes that some characters take.
-/

namespace AddressTrace.Text

/-- **A range of bytes**, its end exclusive. -/
structure Span where
  /-- Offset of the first byte. -/
  start : Nat
  /-- Offset just after the last byte. -/
  stop : Nat
deriving Repr, DecidableEq, Inhabited

/-- From the start of the first span to the end of the second. -/
def Span.join (first last : Span) : Span :=
  ⟨first.start, last.stop⟩

/-- The bytes that these characters take in UTF-8. -/
def widthOf : List Char → Nat
  | [] => 0
  | c :: cs => c.utf8Size + widthOf cs

@[simp] theorem widthOf_nil : widthOf [] = 0 := rfl

@[simp] theorem widthOf_cons (c : Char) (cs : List Char) :
    widthOf (c :: cs) = c.utf8Size + widthOf cs := rfl

@[simp] theorem widthOf_append (cs ds : List Char) :
    widthOf (cs ++ ds) = widthOf cs + widthOf ds := by
  induction cs with
  | nil => simp
  | cons c cs ih => simp [ih, Nat.add_assoc]

end AddressTrace.Text
