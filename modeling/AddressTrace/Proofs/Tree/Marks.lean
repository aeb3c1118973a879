import AddressTrace.Proofs.Tree.Numbering

/-!
# The marks of a tree

Identifiers, numbers and blocks are the nodes of a source that begin with a lexeme of their own.
Their marks, in the order of the nodes, say what begins where.  A tree whose marks begin one behind
the other, and in which all these nodes have a known place, has its blocks and its identifiers at
places of their own.

## Main definitions

* `Mark` — what begins at a place;
* `Outline.marks`, `SyntaxTree.mark?` — the marks of outlines and of the nodes of a tree;
* `SyntaxTree.InOrder` — the marks of a tree begin one behind the other.

## Main statements

* `SyntaxTree.marks_ofOutlines` — the tree of some outlines has their marks;
* `SyntaxTree.inOrder_of_marks` — marks that begin one behind the other put the nodes in order.
-/

namespace AddressTrace

open Text

/-- **What begins at a place** of a source. -/
inductive Mark
  /-- An identifier, on its bytes. -/
  | identifier (name : String) (span : Span)
  /-- A number, from this offset on. -/
  | number (text : String) (start : Nat)
  /-- A block, from this offset on. -/
  | block (start : Nat)
deriving Repr, DecidableEq

/-- The offset at which a mark begins. -/
def Mark.start : Mark → Nat
  | .identifier _ span => span.start
  | .number _ start => start
  | .block start => start

/-- The mark of a node of this form and place. -/
@[simp] def Form.mark? : Form → Option Span → Option Mark
  | .identifier name, some span => some (.identifier name span)
  | .number text, some span => some (.number text span.start)
  | .block, some span => some (.block span.start)
  | _, _ => none

namespace Outline

mutual

/-- **The marks of an outline**, in the order of its nodes. -/
def marks : Outline → List Mark
  | .node form span children => (form.mark? span).toList ++ marksAll children

/-- The marks of some outlines. -/
def marksAll : List Outline → List Mark
  | [] => []
  | o :: os => o.marks ++ marksAll os

end

@[simp] theorem marksAll_nil : marksAll [] = [] := rfl

@[simp] theorem marksAll_cons (o : Outline) (os : List Outline) :
    marksAll (o :: os) = o.marks ++ marksAll os := rfl

@[simp] theorem marks_node (form : Form) (span : Option Span) (children : List Outline) :
    (node form span children).marks = (form.mark? span).toList ++ marksAll children := rfl

@[simp] theorem marksAll_append (os ps : List Outline) :
    marksAll (os ++ ps) = marksAll os ++ marksAll ps := by
  induction os with
  | nil => rfl
  | cons o os ih => simp [ih]

@[simp] theorem marksAll_map {α : Type} (f : α → Outline) (as : List α) :
    marksAll (as.map f) = as.flatMap fun a => (f a).marks := by
  induction as with
  | nil => rfl
  | cons a as ih => simp [ih]

@[simp] theorem marksAll_flatMap {α : Type} (f : α → List Outline) (as : List α) :
    marksAll (as.flatMap f) = as.flatMap fun a => marksAll (f a) := by
  induction as with
  | nil => rfl
  | cons a as ih => simp [ih]

end Outline

open Outline

namespace SyntaxTree

/-- **The mark of a node**, if it is an identifier, a number or a block with a known place. -/
def mark? (t : SyntaxTree) (id : NodeId) : Option Mark :=
  match t.kind? id, t.span? id with
  | some (.identifier name), some span => some (.identifier name span)
  | some (.number text), some span => some (.number text span.start)
  | some .block, some span => some (.block span.start)
  | _, _ => none

theorem mark?_of_form {t : SyntaxTree} {id : NodeId} {form : Form} {ids : List NodeId}
    {span : Option Span} (hkind : t.kind? id = some (form.kind ids)) (hspan : t.span? id = span) :
    t.mark? id = form.mark? span := by
  rw [mark?, hkind, hspan]
  cases form with
  | stateDeclaration => cases ids <;> rfl
  | call => cases ids <;> rfl
  | member name => cases ids <;> rfl
  | identifier name => cases span <;> rfl
  | number text => cases span <;> rfl
  | block => cases span <;> rfl
  | contract name => rfl
  | function name => rfl
  | localDeclaration n => rfl
  | declared name => rfl
  | string value => rfl
  | expression => rfl
  | statement => rfl

mutual

theorem Shows.marks_eq {t : SyntaxTree} : ∀ {o : Outline} {id : Nat}, t.Shows o id →
    (List.range' id o.count).filterMap t.mark? = o.marks
  | .node form span children, id, h => by
    rw [Shows] at h
    obtain ⟨hkind, hspan, -, hbelow⟩ := h
    rw [count, List.range'_succ, List.filterMap_cons, mark?_of_form hkind hspan,
      ShowsAll.marks_eq hbelow, marks]
    cases form.mark? span <;> rfl

/-- Outlines that stand in a tree give its nodes their marks. -/
theorem ShowsAll.marks_eq {t : SyntaxTree} : ∀ {os : List Outline} {start : Nat},
    t.ShowsAll os start → (List.range' start (countAll os)).filterMap t.mark? = marksAll os
  | [], _, _ => rfl
  | o :: os, start, h => by
    rw [ShowsAll] at h
    rw [countAll, ← List.range'_append_1, List.filterMap_append, Shows.marks_eq h.1,
      ShowsAll.marks_eq h.2, marksAll_cons]

end

/-- **The tree of some outlines has their marks**, in their order. -/
theorem marks_ofOutlines (parts : List Outline) :
    (List.range (ofOutlines parts).size).filterMap (ofOutlines parts).mark? = marksAll parts := by
  have hroot : (ofOutlines parts).mark? 0 = none := by
    have hnode := node?_root_ofOutlines parts
    simp only [root] at hnode
    simp [mark?, kind?, hnode]
  rw [size_ofOutlines, List.range_eq_range', List.range'_succ, List.filterMap_cons, hroot]
  exact (showsAll_ofOutlines parts).marks_eq

/-- Only nodes of the tree have marks. -/
theorem lt_size_of_mark? {t : SyntaxTree} {id : NodeId} {m : Mark} (h : t.mark? id = some m) :
    id < t.size := by
  by_contra hge
  have hnone : t.mark? id = none := by
    simp [mark?, kind?, node?_eq_none (Nat.le_of_not_lt hge)]
  rw [hnone] at h
  cases h

/-- The mark of a node is one of the marks of the outlines. -/
theorem mem_marksAll_of_mark? {parts : List Outline} {id : NodeId} {m : Mark}
    (h : (ofOutlines parts).mark? id = some m) : m ∈ marksAll parts := by
  rw [← marks_ofOutlines]
  exact List.mem_filterMap.2 ⟨id, List.mem_range.2 (lt_size_of_mark? h), h⟩

/-! ### Nodes in the order of their places -/

/-- **A tree whose marks begin one behind the other**, in the order of its nodes. -/
def InOrder (t : SyntaxTree) : Prop :=
  ∀ ⦃a b : NodeId⦄ ⦃m n : Mark⦄, a < b → t.mark? a = some m → t.mark? b = some n → m.start < n.start

/-- Marks that begin one behind the other put the nodes in order. -/
theorem inOrder_of_marks {t : SyntaxTree}
    (h : ((List.range t.size).filterMap t.mark?).Pairwise fun m n => m.start < n.start) :
    t.InOrder := by
  intro a b m n hab ha hb
  rw [List.pairwise_filterMap] at h
  have ha' : a < t.size := lt_size_of_mark? ha
  have hb' : b < t.size := lt_size_of_mark? hb
  rw [List.pairwise_iff_getElem] at h
  have hpair := h a b (by simpa using ha') (by simpa using hb') hab
  simp only [List.getElem_range] at hpair
  exact hpair m ha n hb

/-- Two nodes whose marks begin at one place are one node. -/
theorem InOrder.eq_of_start_eq {t : SyntaxTree} (h : t.InOrder) {a b : NodeId} {m n : Mark}
    (ha : t.mark? a = some m) (hb : t.mark? b = some n) (heq : m.start = n.start) : a = b := by
  rcases Nat.lt_trichotomy a b with hlt | rfl | hlt
  · exact absurd heq (Nat.ne_of_lt (h hlt ha hb))
  · rfl
  · exact absurd heq.symm (Nat.ne_of_lt (h hlt hb ha))

end SyntaxTree

end AddressTrace
