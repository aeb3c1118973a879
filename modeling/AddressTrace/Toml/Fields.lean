import AddressTrace.Toml.Value

/-!
# Reading records from TOML

How an item is read as a record with known fields.  A record is written as a table, in which
unknown keys are passed over, or as an array of its fields in order.

## Main definitions

* `Item.fields?` — the fields of a record, in the order of their names;
* `Item.text?`, `Item.natural?`, `Item.alternative?` — the types of a field.
-/

namespace AddressTrace.Toml

namespace Item

/-- So many fields from the items of an array: what is missing is nothing, what is too much is
passed over. -/
def positional (count : Nat) (items : List Item) : List (Option Item) :=
  (items.map some ++ List.replicate (count - items.length) none).take count

/-- **The fields of a record**, in the order of their names, missing ones as nothing.  A date is a
record without any of them. -/
def fields? (names : List String) : Item → Option (List (Option Item))
  | table _ entries => some (names.map fun name => entries.lookup name)
  | array items => some (positional names.length items)
  | tables all => some (positional names.length (all.map (table .header)))
  | dateTime => some (names.map fun _ => none)
  | _ => none

/-- The text of a string. -/
def text? : Item → Option String
  | string text => some text
  | _ => none

/-- The value of an integer that is not negative. -/
def natural? : Item → Option Nat
  | integer n => if 0 ≤ n then some n.toNat else none
  | _ => none

/-- Is this an array or a table with nothing in it? -/
def isVoid : Item → Bool
  | array items => items.isEmpty
  | table _ entries => entries.isEmpty
  | tables all => all.isEmpty
  | _ => false

/-- **An alternative**, written as a word or as the key of an item with nothing in it. -/
def alternative? : Item → Option String
  | string word => some word
  | table .inline [(word, item)] => if item.isVoid then some word else none
  | table .inline _ => none
  | table _ ((word, item) :: _) => if item.isVoid then some word else none
  | _ => none

end Item

end AddressTrace.Toml
