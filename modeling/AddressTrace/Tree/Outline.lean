import AddressTrace.Tree.Basic

/-!
# Outlines

A tree written as nested nodes, before its nodes are numbered.  A node of an outline says how its
kind refers to its own children, by their places; numbering the nodes in the order of a walk
turns the places into numbers.

## Main definitions

* `Form` — a kind whose references are places among the node's own children;
* `Outline` — nested nodes;
* `SyntaxTree.ofOutlines` — the tree of the parts of a file.
-/

namespace AddressTrace

open Text

/-- **A kind that refers to its own children by their places.** -/
inductive Form
  | contract (name : Option String)
  | function (name : Option String)
  | block
  /-- So many children are variables; the next one, if there is one, is their value. -/
  | localDeclaration (declared : Nat)
  /-- The first child is the variable, the next one, if there is one, its value. -/
  | stateDeclaration
  /-- The first child, if there is one, is the declaring identifier. -/
  | declared (name : Option String)
  | identifier (name : String)
  | number (text : String)
  | string (value : String)
  /-- The first child is called with the others. -/
  | call
  /-- The first child is the object. -/
  | member (name : String)
  | expression
  | statement
deriving Repr, DecidableEq

/-- **The kind of a node whose children have these numbers.** -/
def Form.kind : Form → List NodeId → NodeKind
  | .contract name, _ => .contract name
  | .function name, _ => .function name
  | .block, _ => .block
  | .localDeclaration n, ids => .localDeclaration (ids.take n) ids[n]?
  | .stateDeclaration, first :: rest => .stateDeclaration first rest.head?
  | .stateDeclaration, [] => .statement
  | .declared name, ids => .declared name ids.head?
  | .identifier name, _ => .identifier name
  | .number text, _ => .number text
  | .string value, _ => .string value
  | .call, callee :: arguments => .call callee arguments
  | .call, [] => .expression
  | .member name, object :: _ => .member object name
  | .member _, [] => .expression
  | .expression, _ => .expression
  | .statement, _ => .statement

/-- **Nested nodes.** -/
inductive Outline
  | node (form : Form) (span : Option Span) (children : List Outline)

namespace SyntaxTree

mutual

/-- Adds an outline below a node and tells the number of its top node, which gets its kind once
its children have their numbers. -/
def graft (parent : NodeId) : Outline → SyntaxTree → NodeId × SyntaxTree
  | .node form span children, t =>
    let (id, t) := t.push parent span .statement
    let (ids, t) := graftAll id children t
    (id, t.setKind id (form.kind ids))

/-- Adds outlines below a node, one after the other, and tells the numbers of their tops. -/
def graftAll (parent : NodeId) : List Outline → SyntaxTree → List NodeId × SyntaxTree
  | [], t => ([], t)
  | o :: os, t =>
    let (id, t) := graft parent o t
    let (ids, t) := graftAll parent os t
    (id :: ids, t)

end

/-- **The tree of the parts of a file.** -/
def ofOutlines (parts : List Outline) : SyntaxTree :=
  (graftAll root parts empty).2

end SyntaxTree

end AddressTrace
