import AddressTrace.Json.Value
import AddressTrace.Text.Hex

/-!
# Writing JSON

The text of a value, compact or laid out over lines.  Members are written in the order in which
they stand.

## Main definitions

* `quote` — a string with its quotes and escapes;
* `Layout` — the white space between the parts of a text;
* `Value.compact` — the text without any white space;
* `Value.pretty` — the text with two blanks of indentation for each level.
-/

namespace AddressTrace.Json

open Text

/-- The character that opens and closes a string. -/
def quoteMark : Char := Char.ofNat 0x22

/-- **A character inside a string.**  Quote, backslash and the control characters are escaped, the
latter by a letter where there is one. -/
def escapeChar (c : Char) : List Char :=
  if c = quoteMark then ['\\', quoteMark]
  else if c = '\\' then ['\\', '\\']
  else if c.toNat < 0x20 then
    match c.toNat with
    | 8 => ['\\', 'b']
    | 9 => ['\\', 't']
    | 10 => ['\\', 'n']
    | 12 => ['\\', 'f']
    | 13 => ['\\', 'r']
    | n => ['\\', 'u', '0', '0', hexDigit (n / 16), hexDigit (n % 16)]
  else [c]

/-- **A string with its quotes.** -/
def quote (s : String) : List Char :=
  quoteMark :: (s.toList.flatMap escapeChar ++ [quoteMark])

/-- The text of a number. -/
def Number.text : Number → String
  | .integer n => toString n
  | .double d => d.text

/-- The opening and closing braces of an object. -/
def openBrace : Char := Char.ofNat 0x7B

@[inherit_doc openBrace]
def closeBrace : Char := Char.ofNat 0x7D

/-! ### Layouts -/

/-- **What sets the parts of a text apart**, all of it white space: what stands in front of an
element or a closing bracket at a level, and what stands behind the colon of a member. -/
structure Layout where
  line : Nat → List Char
  gap : List Char
  isWhitespace_of_mem_line : ∀ level, ∀ c ∈ line level, c.isWhitespace = true
  isWhitespace_of_mem_gap : ∀ c ∈ gap, c.isWhitespace = true

namespace Layout

/-- No white space at all. -/
def compact : Layout := ⟨fun _ => [], [], by simp, by simp⟩

/-- A line for each element, with two blanks of indentation for each level. -/
def pretty : Layout :=
  ⟨fun level => '\n' :: List.replicate (2 * level) ' ', [' '], by simp [Char.isWhitespace],
    by simp [Char.isWhitespace]⟩

/-- Elements between brackets, of which the closing one is at a level.  What is empty stays on one
line. -/
def enclose (layout : Layout) (level : Nat) (opening closing : Char) :
    List (List Char) → List Char
  | [] => [opening, closing]
  | elements => opening :: (List.intercalate [','] elements ++ layout.line level) ++ [closing]

end Layout

/-! ### Values -/

mutual

/-- The characters of a value, its last line being at a level. -/
def Value.render (layout : Layout) (level : Nat) : Value → List Char
  | .null => "null".toList
  | .bool b => (if b then "true" else "false").toList
  | .number n => n.text.toList
  | .string s => quote s
  | .array items => layout.enclose level '[' ']' (renderItems layout (level + 1) items)
  | .object members =>
    layout.enclose level openBrace closeBrace (renderMembers layout (level + 1) members)

/-- The characters of each item, on a line of its own. -/
def renderItems (layout : Layout) (level : Nat) : List Value → List (List Char)
  | [] => []
  | v :: vs => (layout.line level ++ v.render layout level) :: renderItems layout level vs

/-- The characters of each member, on a line of its own. -/
def renderMembers (layout : Layout) (level : Nat) : List (String × Value) → List (List Char)
  | [] => []
  | (name, v) :: ms =>
    (layout.line level ++ quote name ++ ':' :: (layout.gap ++ v.render layout level)) ::
      renderMembers layout level ms

end

/-- **The compact text of a value.** -/
def Value.compact (v : Value) : String := String.ofList (v.render .compact 0)

/-- **The text of a value laid out over lines.** -/
def Value.pretty (v : Value) : String := String.ofList (v.render .pretty 0)

end AddressTrace.Json
