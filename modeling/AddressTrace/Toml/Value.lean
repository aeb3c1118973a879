import AddressTrace.Data.Entries

/-!
# TOML values

The values of a TOML document, and how keys and headers put them into tables.  How a table came
into being decides what may be added to it later.

## Main definitions

* `Item` — a value or a table;
* `Entries.addDotted?` — a table with the value of a dotted key added;
* `Entries.update?` — a document with the table of a header changed.
-/

namespace AddressTrace.Toml

/-- **How a table came into being.** -/
inductive Origin
  /-- It was written in braces; nothing can be added to it. -/
  | inline
  /-- It is part of a dotted key. -/
  | dotted
  /-- It is part of the header of another table. -/
  | implied
  /-- It has a header of its own. -/
  | header
deriving Repr, DecidableEq

/-- **A value or a table.**  Entries stand in the order in which they were added.  Of floating-point
numbers and dates only the sort is kept. -/
inductive Item
  | string (text : String)
  | integer (value : Int)
  | float
  | boolean (value : Bool)
  | dateTime
  | array (items : List Item)
  | table (origin : Origin) (entries : List (String × Item))
  /-- Tables that share one header, in their order. -/
  | tables (all : List (List (String × Item)))

instance : Inhabited Item := ⟨.dateTime⟩

/-- The entries of a table. -/
abbrev Entries := List (String × Item)

namespace Entries

/-- The last of some tables changed. -/
def updateLast? (change : Entries → Option Entries) : List Entries → Option (List Entries)
  | [] => none
  | [last] => (change last).map fun last => [last]
  | first :: rest => (updateLast? change rest).map (first :: ·)

/-- **A table with the value of a dotted key added.**  The key must be new.  A dotted key opens
tables of its own and may add to tables that dotted keys opened; it passes through tables that are
only part of a header, but does not add to them. -/
def addDotted? (key : String) (item : Item) : List String → Entries → Option Entries
  | [], entries => if (entries.lookup key).isSome then none else some (entries ++ [(key, item)])
  | k :: path, entries =>
    match entries.lookup k with
    | none =>
      (addDotted? key item path []).map fun inner => Entries.set k (.table .dotted inner) entries
    | some (.table .dotted inner) =>
      (addDotted? key item path inner).map fun inner => Entries.set k (.table .dotted inner) entries
    | some (.table .implied inner) =>
      if path.isEmpty then none
      else (addDotted? key item path inner).map fun inner =>
        Entries.set k (.table .implied inner) entries
    | some (.tables all) =>
      if path.isEmpty then none
      else (updateLast? (addDotted? key item path) all).map fun all =>
        Entries.set k (.tables all) entries
    | some _ => none

/-- **A document with the table of a header changed.**  The tables on the way are opened where they
are missing; of tables that share a header the last one is entered. -/
def update? (change : Option Item → Option Item) : List String → Entries → Option Entries
  | [], _ => none
  | [key], entries => (change (entries.lookup key)).map fun item => Entries.set key item entries
  | k :: path, entries =>
    match entries.lookup k with
    | none =>
      (update? change path []).map fun inner => Entries.set k (.table .implied inner) entries
    | some (.table .inline _) => none
    | some (.table origin inner) =>
      (update? change path inner).map fun inner => Entries.set k (.table origin inner) entries
    | some (.tables all) =>
      (updateLast? (update? change path) all).map fun all => Entries.set k (.tables all) entries
    | some _ => none

end Entries

/-! ### Documents -/

/-- **A key and its value**; the key is the path before its last part, and the last part. -/
structure Assignment where
  path : List String
  key : String
  item : Item

/-- The entries with some assignments made. -/
def assign? : List Assignment → Entries → Option Entries
  | [], entries => some entries
  | a :: rest, entries => (entries.addDotted? a.key a.item a.path).bind (assign? rest)

/-- **A header and the assignments below it.** -/
structure Section where
  /-- Does the header open one of several tables? -/
  repeated : Bool
  path : List String
  assignments : List Assignment

/-- What a section makes of the item that its header names.  A table must be new, or only part of
other headers so far. -/
def Section.change? (s : Section) : Option Item → Option Item
  | none =>
    (assign? s.assignments []).map fun entries =>
      if s.repeated then .tables [entries] else .table .header entries
  | some (.table .implied inner) =>
    if s.repeated then none else (assign? s.assignments inner).map (.table .header)
  | some (.tables all) =>
    if s.repeated then (assign? s.assignments []).map fun entries => .tables (all ++ [entries])
    else none
  | some _ => none

/-- The document with some sections added. -/
def addSections? : List Section → Entries → Option Entries
  | [], entries => some entries
  | s :: rest, entries => (entries.update? s.change? s.path).bind (addSections? rest)

/-- **The document of its parts**: the assignments before the first header, and the sections. -/
def document? (first : List Assignment) (sections : List Section) : Option Entries :=
  (assign? first []).bind (addSections? sections)

end AddressTrace.Toml
