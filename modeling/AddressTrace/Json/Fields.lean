import AddressTrace.Json.Reader

/-!
# Reading records from JSON

How a form is read as a record with known fields.  A record is written as an object, in which
unknown members are passed over and a known one may not occur twice; or as an array of its fields
in order, of which the last ones may be missing.

## Main definitions

* `Form.fields?` — the fields of a record, in the order of their names;
* `Form.text?`, `Form.list?`, `Form.entries?` — the commonest types of a field;
* `required`, `optional` — a field that must be there, and one that may be missing;
* `Value.fields?`, `Value.text?` — the same for a record that is kept as a value.
-/

namespace AddressTrace.Json

variable {α : Type}

/-- The value of the only member of this name; nothing if there are two. -/
def onlyMember? (name : String) (members : List (Option String × Form)) : Option (Option Form) :=
  match members.filter fun m => m.1 == some name with
  | [] => some none
  | [m] => some (some m.2)
  | _ => none

/-- **The fields of a record**, in the order of their names, missing ones as nothing. -/
def Form.fields? (names : List String) : Form → Option (List (Option Form))
  | .object members =>
    if members.all fun m => m.1.isSome then names.mapM fun name => onlyMember? name members
    else none
  | .array items =>
    if items.length ≤ names.length then
      some (items.map some ++ List.replicate (names.length - items.length) none)
    else none
  | _ => none

/-- A field that must be there. -/
def required {φ : Type} (read : φ → Option α) (field : Option φ) : Option α := field.bind read

/-- A field that may be missing. -/
def optional {φ : Type} (default : α) (read : φ → Option α) : Option φ → Option α
  | none => some default
  | some f => read f

/-- The text of a string. -/
def Form.text? : Form → Option String
  | .string text => text
  | _ => none

/-- What a reader finds, where null stands for nothing. -/
def Form.nullable? (read : Form → Option α) : Form → Option (Option α)
  | .null => some none
  | f => (read f).map some

/-- The items of an array, all read alike. -/
def Form.list? (read : Form → Option α) : Form → Option (List α)
  | .array items => items.mapM read
  | _ => none

/-- The members of an object, all read alike, in ascending order of their names.  Of members with
one name the last counts, but all are read. -/
def Form.entries? (read : Form → Option α) : Form → Option (SortedMap String α)
  | .object members => do
    let pairs ← members.mapM fun (name, f) => do
      let name ← name
      let value ← read f
      return (name, value)
    return SortedMap.ofList pairs
  | _ => none

/-- The value of the member of this name. -/
def memberOf? (name : String) (members : List (String × Value)) : Option Value :=
  SortedMap.findIn name members

/-- **The fields of a record that is kept as a value**, in the order of their names. -/
def Value.fields? (names : List String) : Value → Option (List (Option Value))
  | .object members => some (names.map fun name => memberOf? name members)
  | .array items =>
    if items.length ≤ names.length then
      some (items.map some ++ List.replicate (names.length - items.length) none)
    else none
  | _ => none

/-- The text of a string. -/
def Value.text? : Value → Option String
  | .string text => some text
  | _ => none

end AddressTrace.Json
