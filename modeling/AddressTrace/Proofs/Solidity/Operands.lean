import AddressTrace.Proofs.Solidity.Outlines

/-!
# Operands

The expressions and statements that stand directly in a part of a file, for every form that the
grammar has, and the literals that are found by going from part to operand.  Types, inline assembly
and annotations have no operands.  Not all operands become nodes: those of a revert with named
arguments do not, nor do the slots of a list that declares variables.

## Main definitions

* `Part`, `Part.operands` — parts of a file and what stands directly in them;
* `Part.lowered` — the operands that become nodes;
* `Part.literalAt` — the literal at a position, a list of operands to go down to.

## Main statements

* `Part.marks_lowered_sublist` — operands that become nodes have marks of the part, in their order;
* `Part.mark_mem_of_literalAt` — a literal that is reached by way of operands which become nodes has
  a mark in the file.
-/

namespace AddressTrace.Solidity

open Text Outline

/-- **A part of a file** in which expressions may stand. -/
inductive Part
  | expr (e : Expr)
  | stmt (s : Stmt)
  | function (f : FunctionDef)
  | state (v : VariableDef)
  | contract (c : ContractDef)
  | file (unit : SourceUnit)

/-- The operands of an expression. -/
def Expr.operands : Expr → List Part
  | .name _ | .bareRevert _ | .number .. | .hexNumber .. | .rational .. | .strings .. => []
  | .literal _ | .elementaryType _ | .functionType _ => []
  | .paren _ inner => [.expr inner]
  | .tuple _ items => (items.filterMap id).map fun i => .expr i.value
  | .array _ items => items.map .expr
  | .call _ callee arguments => .expr callee :: arguments.map .expr
  | .namedCall _ callee arguments => .expr callee :: arguments.map fun a => .expr a.value
  | .blockCall _ callee block => [.expr callee, .stmt block]
  | .member _ object _ => [.expr object]
  | .subscript _ object index => .expr object :: index.toList.map .expr
  | .slice _ object first last => .expr object :: (first.toList.map .expr ++ last.toList.map .expr)
  | .unary _ _ operand => [.expr operand]
  | .binary _ _ left right => [.expr left, .expr right]
  | .conditional _ condition whenTrue whenFalse =>
    [.expr condition, .expr whenTrue, .expr whenFalse]

/-- The operands of a statement. -/
def Stmt.operands : Stmt → List Part
  | .block _ statements => statements.map .stmt
  | .options _ arguments => arguments.map fun a => .expr a.value
  | .declaration _ _ value => value.toList.map .expr
  | .expression _ value => [.expr value]
  | .ifElse _ condition whenTrue whenFalse =>
    .expr condition :: .stmt whenTrue :: whenFalse.toList.map .stmt
  | .whileLoop _ condition body => [.expr condition, .stmt body]
  | .doWhile _ body condition => [.stmt body, .expr condition]
  | .forLoop _ first condition step body =>
    first.toList.map .stmt ++ condition.toList.map .expr ++ step.toList.map .expr
      ++ body.toList.map .stmt
  | .ret _ value => value.toList.map .expr
  | .emit _ event => [.expr event]
  | .revert _ _ arguments => arguments.map .expr
  | .revertNamed _ _ arguments => arguments.map fun a => .expr a.value
  | .tryCatch _ call _ body handlers =>
    .expr call :: (body.toList.map .stmt ++ handlers.map .stmt)
  | .assembly _ | .jump _ => []

/-- The arguments given to bases and modifiers. -/
def invocationOperands (invocations : List Invocation) : List Part :=
  invocations.flatMap fun i => (i.arguments.getD []).map .expr

/-- The operands of a part of a contract. -/
def ContractPart.operands : ContractPart → List Part
  | .state v => [.state v]
  | .function f => [.function f]
  | .other => []

/-- The operands of a part of a file. -/
def SourcePart.operands : SourcePart → List Part
  | .contract c => [.contract c]
  | .function f => [.function f]
  | .constant v => [.state v]
  | .other => []

namespace Part

/-- **What stands directly in a part.** -/
def operands : Part → List Part
  | .expr e => e.operands
  | .stmt s => s.operands
  | .function f => invocationOperands f.invocations ++ f.body.toList.map .stmt
  | .state v => v.value.toList.map .expr
  | .contract c => invocationOperands c.bases ++ c.parts.flatMap ContractPart.operands
  | .file unit => unit.flatMap SourcePart.operands

/-- **The operands that become nodes.**  The arguments of a revert with named arguments do not, and
of an assignment to a list that declares variables only the value does. -/
def lowered : Part → List Part
  | .stmt (.revertNamed ..) => []
  | .stmt (.expression _ (.binary whole "=" (.tuple place items) right)) =>
    if declaresAny items then [.expr right]
    else [.expr (.binary whole "=" (.tuple place items) right)]
  | p => p.operands

/-- The text of a number literal and the bytes it stands on. -/
def literal? : Part → Option (String × Span)
  | .expr (.number span digits exponent _) => some (decimalText digits exponent, span)
  | .expr (.hexNumber span text _) => some (text, span)
  | _ => none

/-- **The literal at a position**, by way of the operands that `below` gives. -/
def literalAt (below : Part → List Part) (p : Part) : List Nat → Option (String × Span)
  | [] => p.literal?
  | i :: position => (below p)[i]?.bind fun q => q.literalAt below position

/-- The marks of a part. -/
def marks : Part → List Mark
  | .expr e => e.outline.marks
  | .stmt s => s.outline.marks
  | .function f => f.outline.marks
  | .state v => marksAll v.parts
  | .contract c => c.outline.marks
  | .file unit => marksAll (outlines unit)

@[simp] theorem marks_expr (e : Expr) : (expr e).marks = e.outline.marks := rfl

@[simp] theorem marks_stmt (s : Stmt) : (stmt s).marks = s.outline.marks := rfl

/-- The marks of the operands of an expression are among its own, in their order. -/
theorem marks_operands_expr (e : Expr) :
    (e.operands.flatMap marks).Sublist e.outline.marks := by
  cases e with
  | tuple span items =>
      simp only [Expr.operands, Expr.outline, marks_node, Form.mark?, Option.toList_none,
        List.nil_append, Item.outlines_eq, marksAll_flatMap, marksAll_item, List.flatMap_map]
      induction items with
      | nil => exact List.Sublist.refl _
      | cons slot items ih =>
          cases slot with
          | none => exact ih
          | some i => exact (List.sublist_append_left _ _).append ih
  | subscript span object index => cases index <;> simp [Expr.operands, Expr.outline]
  | slice span object first last =>
      cases first <;> cases last <;> simp [Expr.operands, Expr.outline]
  | _ => simp [Expr.operands, Expr.outline, List.flatMap_map]

/-- The marks of the operands of a statement that become nodes are among its own, in their order. -/
theorem marks_lowered_stmt (s : Stmt) :
    ((stmt s).lowered.flatMap marks).Sublist s.outline.marks := by
  cases s with
  | expression span value =>
      generalize hp : stmt (.expression span value) = p
      fun_cases lowered p
      · cases hp
      · next whole place items right hdeclares =>
          cases hp
          simp [Stmt.outline, hdeclares]
      · next whole place items right hdeclares =>
          cases hp
          simp [Stmt.outline, Expr.outline, hdeclares]
      · next hassign =>
          cases hp
          rcases Stmt.outline_expression span value with ⟨whole, place, items, right, rfl, -, -⟩ | h
          · exact absurd rfl (hassign _ _ _ _ _)
          · simp [operands, Stmt.operands, h]
  | declaration span item value =>
      cases value <;> simp [lowered, operands, Stmt.operands, Stmt.outline]
  | _ => simp [lowered, operands, Stmt.operands, Stmt.outline, List.flatMap_map]

theorem marks_invocationOperands (invocations : List Invocation) :
    (invocationOperands invocations).flatMap marks = marksAll (invocationsOutline invocations) := by
  simp [invocationOperands, invocationsOutline, List.flatMap_assoc, List.flatMap_map]

/-- A contract has the marks of its operands. -/
theorem marks_lowered_contract (c : ContractDef) :
    (contract c).lowered.flatMap marks = (contract c).marks := by
  have hparts : (c.parts.flatMap ContractPart.operands).flatMap marks
      = marksAll (c.parts.flatMap ContractPart.outlines) := by
    rw [List.flatMap_assoc, marksAll_flatMap]
    refine List.flatMap_congr fun p _ => ?_
    cases p <;> simp [ContractPart.operands, ContractPart.outlines, marks]
  simp [lowered, operands, marks, ContractDef.outline, marks_invocationOperands, hparts]

/-- A file has the marks of its operands. -/
theorem marks_lowered_file (unit : SourceUnit) :
    (file unit).lowered.flatMap marks = (file unit).marks := by
  have hparts : (unit.flatMap SourcePart.operands).flatMap marks = marksAll (outlines unit) := by
    rw [List.flatMap_assoc, outlines, marksAll_flatMap]
    refine List.flatMap_congr fun p _ => ?_
    cases p <;> simp [SourcePart.operands, SourcePart.outlines, marks]
  simp [lowered, operands, marks, hparts]

/-- **The marks of the operands that become nodes are among those of the part, in their order.** -/
theorem marks_lowered_sublist (p : Part) : (p.lowered.flatMap marks).Sublist p.marks := by
  cases p with
  | expr e => exact marks_operands_expr e
  | stmt s => exact marks_lowered_stmt s
  | function f =>
      have hbody : (f.body.toList.map stmt).flatMap marks =
          marksAll (f.body.toList.map Stmt.outline) := by
        simp [List.flatMap_map]
      simp only [lowered, operands, List.flatMap_append, marks_invocationOperands, hbody, marks,
        FunctionDef.outline, marks_node, Form.mark?, Option.toList_none, List.nil_append,
        marksAll_append, Stmt.optionalOutline_eq]
      refine List.Sublist.append ?_ (List.Sublist.refl _)
      exact (List.sublist_append_right _ _).trans (List.sublist_append_left _ _)
  | state v =>
      have hvalue : (v.value.toList.map expr).flatMap marks =
          marksAll (v.value.toList.map Expr.outline) := by
        simp [List.flatMap_map]
      simp only [lowered, operands, hvalue, marks, VariableDef.parts, marksAll_cons,
        Expr.optionalOutline_eq]
      exact List.sublist_append_right _ _
  | contract c =>
      rw [marks_lowered_contract]
  | file unit =>
      rw [marks_lowered_file]

/-- A literal has a mark of its own. -/
theorem mark_mem_of_literal? {p : Part} {text : String} {span : Span}
    (h : p.literal? = some (text, span)) : .number text span.start ∈ p.marks := by
  unfold literal? at h
  split at h
  · cases h
    simp [Expr.outline]
  · cases h
    simp [Expr.outline]
  · cases h

/-- **A literal that is reached by way of operands which become nodes has a mark.** -/
theorem mark_mem_of_literalAt {p : Part} {position : List Nat} {text : String} {span : Span}
    (h : p.literalAt lowered position = some (text, span)) :
    .number text span.start ∈ p.marks := by
  induction position generalizing p with
  | nil => exact mark_mem_of_literal? h
  | cons i position ih =>
      obtain ⟨q, hq, h⟩ := Option.bind_eq_some_iff.1 h
      exact (marks_lowered_sublist p).subset
        (List.mem_flatMap.2 ⟨q, List.mem_of_getElem? hq, ih h⟩)

end Part

end AddressTrace.Solidity
