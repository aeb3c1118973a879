import AddressTrace.Data.Assoc
import AddressTrace.Declaration.Basic

/-!
# Local variables

The table of local variables, by name and block.  Of two declarations of a name in one block the
later one counts for the whole block.  A declaration that does not stand directly in a block,
such as one in the head of a loop, is known as a declaration but is not in the table.

## Main definitions

* `LocalTable` — the table;
* `LocalTable.find?` — the variable that governs an identifier;
* `localDeclarations`, `LocalTable.ofTree` — the local declarations of a tree and their table.
-/

namespace AddressTrace

open Text

/-- **A local variable**: its address and the bytes of its declaring identifier. -/
structure LocalVariable where
  address : String
  declaration : Span
deriving Repr, DecidableEq

/-- **Local variables by name and block**, a block being known by the offset at which it
begins. -/
structure LocalTable where
  entries : Assoc (String × Nat) LocalVariable
deriving Repr, DecidableEq

namespace LocalTable

/-- The table without variables. -/
def empty : LocalTable := ⟨.empty⟩

/-- The number of variables. -/
def size (table : LocalTable) : Nat := table.entries.size

/-- Is there no variable at all? -/
def isEmpty (table : LocalTable) : Bool := table.entries.isEmpty

/-- Enters a variable, in place of one of the same name in the same block. -/
def add (table : LocalTable) (name : String) (block : Nat) (var : LocalVariable) : LocalTable :=
  ⟨table.entries.insert (name, block) var⟩

/-- The variable of a name in the block that begins at an offset. -/
def get? (table : LocalTable) (name : String) (block : Nat) : Option LocalVariable :=
  table.entries.find? (name, block)

/-- The variable of a name in the block that a node is, if it is one with a known place. -/
def inBlock? (table : LocalTable) (t : SyntaxTree) (name : String) (id : NodeId) :
    Option LocalVariable :=
  if t.kind? id = some .block then
    (t.span? id).bind fun span => table.get? name span.start
  else none

/-- **The variable that governs an identifier**: that of the innermost block around it which has
a variable of the name.  The declaring identifier is governed by its own variable. -/
def find? (table : LocalTable) (t : SyntaxTree) (id : NodeId) (name : String) :
    Option LocalVariable :=
  (t.ancestors id).findSome? (table.inBlock? t name)

/-- Enters a declaration that stands directly in a block, if block and identifier have a known
place. -/
def addDeclaration (t : SyntaxTree) (table : LocalTable) (d : Declaration) : LocalTable :=
  match d.parent with
  | some block =>
    if t.kind? block = some .block then
      match t.span? block, t.span? d.identifier with
      | some place, some declaration => table.add d.name place.start ⟨d.address, declaration⟩
      | _, _ => table
    else table
  | none => table

end LocalTable

/-- The declaration that a node is, if it is a local one of an address. -/
def localDeclaration? (t : SyntaxTree) (id : NodeId) : Option Declaration :=
  match t.kind? id with
  | some (.localDeclaration declared value) =>
    addressDeclaration? t (t.parent? id) declared value
  | _ => none

/-- **The local declarations of addresses**, in the order of a walk. -/
def localDeclarations (t : SyntaxTree) : List Declaration :=
  t.walk.filterMap (localDeclaration? t)

/-- **The table of the local variables of a tree.** -/
def LocalTable.ofTree (t : SyntaxTree) : LocalTable :=
  (localDeclarations t).foldl (LocalTable.addDeclaration t) .empty

end AddressTrace
