import AddressTrace.Proofs.Tree.Marks
import AddressTrace.Tree.OfSource

/-!
# The outlines of syntax

The nodes of lists of expressions, items, arguments and statements are those of their elements, and
so are their marks.

## Main definitions

* `Name.mark`, `Item.marks` — the marks of a name and of an item.

## Main statements

* `Stmt.outline_expression` — the nodes of an expression that is a statement;
* `marksAll_parametersOutline_sublist` — declared variables have only the marks of their names.
-/

namespace AddressTrace.Solidity

open Text Outline

/-! ### Lists of parts -/

@[simp] theorem Expr.optionalOutline_eq (e : Option Expr) :
    Expr.optionalOutline e = e.toList.map Expr.outline := by
  cases e <;> rfl

@[simp] theorem Stmt.optionalOutline_eq (s : Option Stmt) :
    Stmt.optionalOutline s = s.toList.map Stmt.outline := by
  cases s <;> rfl

@[simp] theorem Expr.outlines_eq (es : List Expr) : Expr.outlines es = es.map Expr.outline := by
  induction es with
  | nil => rfl
  | cons e es ih => rw [Expr.outlines, ih, List.map_cons]

@[simp] theorem Stmt.outlines_eq (ss : List Stmt) : Stmt.outlines ss = ss.map Stmt.outline := by
  induction ss with
  | nil => rfl
  | cons s ss ih => rw [Stmt.outlines, ih, List.map_cons]

@[simp] theorem Item.outlines_eq (is : List (Option Item)) :
    Item.outlines is = is.flatMap Item.optionalOutline := by
  induction is with
  | nil => rfl
  | cons i is ih => rw [Item.outlines, ih, List.flatMap_cons]

@[simp] theorem Argument.outlines_eq (as : List Argument) :
    Argument.outlines as = as.map fun a => a.value.outline := by
  induction as with
  | nil => rfl
  | cons a as ih =>
      obtain ⟨name, value⟩ := a
      rw [Argument.outlines, ih, List.map_cons]
      rfl

/-- **An expression as a statement**: a declaration if it assigns to a list that declares variables,
else a statement with the node of the expression. -/
theorem Stmt.outline_expression (span : Span) (value : Expr) :
    (∃ whole place items right, value = .binary whole "=" (.tuple place items) right ∧
      declaresAny items = true ∧ (Stmt.expression span value).outline =
        .node (.localDeclaration (parametersOutline items).length) (some span)
          (parametersOutline items ++ [right.outline])) ∨
    (Stmt.expression span value).outline = .node .statement (some span) [value.outline] := by
  generalize hs : Stmt.expression span value = s
  fun_cases Stmt.outline s
  case case4 whole place items right declares declared =>
    cases hs
    exact .inl ⟨whole, place, items, right, rfl, declares, rfl⟩
  case case5 =>
    cases hs
    right
    simp [Expr.outline]
  case case6 =>
    cases hs
    exact .inr rfl
  all_goals cases hs

/-! ### Marks -/

/-- The mark of a name. -/
def Name.mark (n : Name) : Mark := .identifier n.text n.span

/-- The marks of an item: those of its value, and the name declared with it. -/
def Item.marks (i : Item) : List Mark :=
  i.value.outline.marks ++ i.name.toList.map Name.mark

@[simp] theorem Name.marks_outline (n : Name) : n.outline.marks = [n.mark] := rfl

@[simp] theorem flatMap_mark (names : List Name) :
    (names.flatMap fun n => [n.mark]) = names.map Name.mark :=
  List.map_eq_flatMap.symm

@[simp] theorem marks_declared (i : Item) : i.declared.marks = i.name.toList.map Name.mark := by
  simp [Item.declared, declared]

@[simp] theorem marksAll_item (i : Option Item) :
    marksAll (Item.optionalOutline i) = i.elim [] Item.marks := by
  rcases i with _ | ⟨span, value, name⟩
  · rfl
  · simp [Item.optionalOutline, Item.marks, Item.value, Item.name]

/-- Declared variables have only the marks of their names. -/
theorem marksAll_parametersOutline_sublist (items : List (Option Item)) :
    (marksAll (parametersOutline items)).Sublist (items.flatMap fun i => i.elim [] Item.marks) := by
  induction items with
  | nil => exact List.Sublist.refl _
  | cons i is ih =>
      rw [parametersOutline] at ih ⊢
      cases i with
      | none => simpa using ih
      | some i =>
          simp only [List.filterMap_cons, id_eq, List.map_cons, marksAll_cons, List.flatMap_cons,
            marks_declared, Option.elim_some, Item.marks]
          exact (List.sublist_append_right _ _).append ih

/-- An expression as a statement has marks of the expression only, in their order. -/
theorem marks_expression_sublist (span : Span) (value : Expr) :
    (Stmt.expression span value).outline.marks.Sublist value.outline.marks := by
  rcases Stmt.outline_expression span value with ⟨whole, place, items, right, rfl, -, h⟩ | h
  · simp only [h, Expr.outline, marks_node, marksAll_append, marksAll_cons, marksAll_nil,
      Form.mark?, Option.toList_none, List.nil_append, Item.outlines_eq, marksAll_flatMap,
      marksAll_item]
    exact (marksAll_parametersOutline_sublist items).append_right _
  · simp [h]

end AddressTrace.Solidity
