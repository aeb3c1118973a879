import AddressTrace.Text.Span

/-!
# Syntax trees

The tree that references are collected from: a small, closed set of node kinds, those that can
produce an address or decide what a name stands for.  The nodes lie in one array and refer to
each other by their index in it, so that a reference can point back at its node.

## Main definitions

* `NodeKind`, `Node`, `SyntaxTree` — the tree;
* `SyntaxTree.push`, `SyntaxTree.setKind` — the two operations that build a tree;
* `SyntaxTree.ancestors` — the nodes around a node, nearest first;
* `SyntaxTree.walkFrom` — a node and all below it, parents before children.

A kind may mention any nodes; what is below a node is decided by its list of children alone.

## Main statements

`node?_push_new`, `node?_push_of_lt` and `node?_setKind` say what the two operations change.
-/

namespace AddressTrace

open Text

/-- **The number of a node** in its tree.  Nodes are numbered in the order they are added. -/
abbrev NodeId := Nat

/-- **What a node stands for.** -/
inductive NodeKind
  /-- The whole file. -/
  | sourceUnit
  | contract (name : Option String)
  | function (name : Option String)
  | block
  /-- A statement that declares local variables, several of them if it takes a value apart. -/
  | localDeclaration (declared : List NodeId) (value : Option NodeId)
  /-- The declaration of a variable in the storage of a contract. -/
  | stateDeclaration (declared : NodeId) (value : Option NodeId)
  /-- One declared variable and the identifier that declares it. -/
  | declared (name : Option String) (identifier : Option NodeId)
  | identifier (name : String)
  /-- A decimal or hexadecimal number. -/
  | number (text : String)
  | string (value : String)
  | call (callee : NodeId) (arguments : List NodeId)
  | member (object : NodeId) (name : String)
  /-- Any other expression. -/
  | expression
  /-- Any other statement. -/
  | statement
deriving Repr, DecidableEq, Inhabited

/-- **A node**: its kind, the bytes it stands on if that is known, and its neighbours. -/
structure Node where
  kind : NodeKind
  span : Option Span
  parent : Option NodeId
  children : List NodeId
deriving Repr, DecidableEq, Inhabited

/-- **A tree** as the array of its nodes; the first one is the root. -/
structure SyntaxTree where
  nodes : Array Node
deriving Repr, DecidableEq

namespace SyntaxTree

/-- The tree with nothing but its root. -/
def empty : SyntaxTree := ⟨#[⟨.sourceUnit, none, none, []⟩]⟩

/-- The root. -/
def root : NodeId := 0

/-- The number of nodes. -/
def size (t : SyntaxTree) : Nat := t.nodes.size

/-- A node of the tree. -/
def node? (t : SyntaxTree) (id : NodeId) : Option Node := t.nodes[id]?

/-- The kind of a node. -/
def kind? (t : SyntaxTree) (id : NodeId) : Option NodeKind := (t.node? id).map (·.kind)

/-- The bytes that a node stands on. -/
def span? (t : SyntaxTree) (id : NodeId) : Option Span := (t.node? id).bind (·.span)

/-- The node that a node was added to. -/
def parent? (t : SyntaxTree) (id : NodeId) : Option NodeId := (t.node? id).bind (·.parent)

/-- The nodes that were added to a node, in that order. -/
def children (t : SyntaxTree) (id : NodeId) : List NodeId :=
  ((t.node? id).map (·.children)).getD []

/-! ### Building a tree -/

/-- **Adds a node as the last child of another**, and tells its number. -/
def push (t : SyntaxTree) (parent : NodeId) (span : Option Span) (kind : NodeKind) :
    NodeId × SyntaxTree :=
  let id := t.size
  let nodes := t.nodes.modify parent fun n => { n with children := n.children ++ [id] }
  (id, ⟨nodes.push ⟨kind, span, some parent, []⟩⟩)

/-- **Gives a node its kind**, once the nodes which the kind mentions are there. -/
def setKind (t : SyntaxTree) (id : NodeId) (kind : NodeKind) : SyntaxTree :=
  ⟨t.nodes.modify id fun n => { n with kind := kind }⟩

@[simp] theorem size_push (t : SyntaxTree) (parent : NodeId) (span : Option Span)
    (kind : NodeKind) : (t.push parent span kind).2.size = t.size + 1 := by
  simp [push, size]

@[simp] theorem size_setKind (t : SyntaxTree) (id : NodeId) (kind : NodeKind) :
    (t.setKind id kind).size = t.size := by
  simp [setKind, size]

/-- The new node is the last one and has no children. -/
theorem node?_push_new (t : SyntaxTree) (parent : NodeId) (span : Option Span)
    (kind : NodeKind) :
    (t.push parent span kind).2.node? t.size = some ⟨kind, span, some parent, []⟩ := by
  simp only [push, node?, size, Array.getElem?_push, Array.size_modify, if_true]

/-- Of the nodes that were there only the parent changes: it has one more child. -/
theorem node?_push_of_lt (t : SyntaxTree) (parent : NodeId) (span : Option Span)
    (kind : NodeKind) {id : NodeId} (h : id < t.size) :
    (t.push parent span kind).2.node? id =
      (t.node? id).map fun n =>
        if id = parent then { n with children := n.children ++ [t.size] } else n := by
  have hid : id ≠ t.nodes.size := Nat.ne_of_lt h
  simp only [push, node?, size, Array.getElem?_push, Array.size_modify, if_neg hid,
    Array.getElem?_modify]
  by_cases hp : parent = id
  · subst hp
    simp
  · simp [hp, Ne.symm hp]

/-- Setting a kind changes nothing but the kind of one node. -/
theorem node?_setKind (t : SyntaxTree) (id : NodeId) (kind : NodeKind) (other : NodeId) :
    (t.setKind id kind).node? other =
      (t.node? other).map fun n => if other = id then { n with kind := kind } else n := by
  simp only [setKind, node?, Array.getElem?_modify]
  by_cases hp : id = other
  · subst hp
    simp
  · simp [hp, Ne.symm hp]

/-! ### Moving through a tree -/

/-- The chain of parents of a node, at most so many of them. -/
def ancestorsWithin (t : SyntaxTree) : Nat → NodeId → List NodeId
  | 0, _ => []
  | steps + 1, id =>
    match t.parent? id with
    | none => []
    | some p => p :: ancestorsWithin t steps p

/-- **The nodes around a node**, nearest first.  A chain is no longer than the tree. -/
def ancestors (t : SyntaxTree) (id : NodeId) : List NodeId :=
  t.ancestorsWithin t.size id

/-- Visits the nodes of a stack: the top one, then its children in order, then the rest. -/
def walkStack (t : SyntaxTree) : Nat → List NodeId → List NodeId
  | 0, _ => []
  | _ + 1, [] => []
  | steps + 1, id :: stack => id :: walkStack t steps (t.children id ++ stack)

/-- **A node and all below it**, parents before children.  A walk visits no node twice, so it
has no more steps than the tree has nodes. -/
def walkFrom (t : SyntaxTree) (start : NodeId) : List NodeId :=
  t.walkStack t.size [start]

/-- All nodes in the order of a walk from the root. -/
def walk (t : SyntaxTree) : List NodeId := t.walkFrom root

end SyntaxTree

end AddressTrace
