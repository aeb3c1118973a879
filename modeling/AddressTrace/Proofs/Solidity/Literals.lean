import AddressTrace.Proofs.Solidity.Operands

/-!
# The literals that numbers come from

Each number among the marks of a file comes from a number literal.  It is an expression that is
reached by going from part to operand, by way of operands that become nodes.  A number that is not
the part itself is in an operand, and operands are smaller than the part, so the way down ends.

## Main definitions

* `Part.partAt` — the part at a position, a list of operands to go down to;
* `Part.unit?` — the unit of a number literal.

## Main statements

* `Part.literal?_or_mem_lowered` — one step on the way down;
* `Part.exists_partAt_of_mem_marks` — the literal that a number comes from;
* `Part.eq_of_partAt_of_start_eq` — there is one literal at a place.
-/

namespace AddressTrace.Solidity

open Text Outline

namespace Part

/-- **The part at a position**, by way of the operands that `below` gives. -/
def partAt (below : Part → List Part) (p : Part) : List Nat → Option Part
  | [] => some p
  | i :: position => (below p)[i]?.bind fun q => q.partAt below position

/-- The unit of a number literal, if it has one. -/
def unit? : Part → Option Name
  | .expr (.number _ _ _ suffix) => suffix
  | .expr (.hexNumber _ _ suffix) => suffix
  | _ => none

/-! ### One step down -/

/-- A number among the marks of an expression is the expression itself, or it is in an operand. -/
theorem literal?_or_mem_operands {e : Expr} {text : String} {start : Nat}
    (h : .number text start ∈ e.outline.marks) :
    (∃ span, (expr e).literal? = some (text, span) ∧ span.start = start) ∨
      .number text start ∈ e.operands.flatMap marks := by
  cases e with
  | number span digits exponent suffix =>
      left
      simp only [Expr.outline, marks_node, Form.mark?, marksAll_nil, List.append_nil] at h
      simp at h
      obtain ⟨rfl, rfl⟩ := h
      exact ⟨span, rfl, rfl⟩
  | hexNumber span digits suffix =>
      left
      simp [Expr.outline] at h
      obtain ⟨rfl, rfl⟩ := h
      exact ⟨span, rfl, rfl⟩
  | tuple span items =>
      right
      simp only [Expr.outline, marks_node, Form.mark?, Option.toList_none, List.nil_append,
        Item.outlines_eq, marksAll_flatMap, marksAll_item, List.mem_flatMap] at h
      obtain ⟨slot, hslot, h⟩ := h
      cases slot with
      | none => cases h
      | some i =>
          -- The other mark of an item is the name that it declares.
          have hvalue : .number text start ∈ i.value.outline.marks := by
            simpa [Item.marks, Name.mark] using h
          have hi : i ∈ items.filterMap id := List.mem_filterMap.2 ⟨some i, hslot, rfl⟩
          exact List.mem_flatMap.2 ⟨.expr i.value, List.mem_map.2 ⟨i, hi, rfl⟩, hvalue⟩
  | subscript span object index =>
      right
      cases index <;> simpa [Expr.operands, Expr.outline] using h
  | slice span object first last =>
      right
      cases first <;> cases last <;> simpa [Expr.operands, Expr.outline] using h
  | name id => simp [Expr.outline, Name.mark] at h
  | bareRevert id => simp [Expr.outline, Name.mark] at h
  | rational | strings | literal | elementaryType | functionType => simp [Expr.outline] at h
  | _ =>
      right
      simpa [Expr.operands, Expr.outline, List.flatMap_map] using h

/-- The declared variables of a list have no numbers. -/
theorem not_mem_marksAll_parametersOutline {items : List (Option Item)} {text : String}
    {start : Nat} : .number text start ∉ marksAll (parametersOutline items) := by
  intro h
  simp [parametersOutline, Name.mark] at h

/-- A number among the marks of a statement is in an operand that becomes a node. -/
theorem mem_lowered_stmt {s : Stmt} {text : String} {start : Nat}
    (h : .number text start ∈ s.outline.marks) :
    .number text start ∈ (stmt s).lowered.flatMap marks := by
  cases s with
  | expression span value =>
      generalize hp : stmt (.expression span value) = p
      fun_cases lowered p
      · cases hp
      · next whole place items right hdeclares =>
          cases hp
          simp [Stmt.outline, hdeclares, not_mem_marksAll_parametersOutline] at h
          simpa using h
      · next whole place items right hdeclares =>
          cases hp
          simpa [Stmt.outline, Expr.outline, hdeclares] using h
      · next hassign =>
          cases hp
          rcases Stmt.outline_expression span value with
            ⟨whole, place, items, right, rfl, -, -⟩ | h'
          · exact absurd rfl (hassign _ _ _ _ _)
          · simpa [operands, Stmt.operands, h'] using h
  | declaration span item value =>
      cases value <;> simp [lowered, operands, Stmt.operands, Stmt.outline, Name.mark] at h ⊢
      exact h
  | block span statements =>
      simp [Stmt.outline] at h
      simpa [lowered, operands, Stmt.operands, List.flatMap_map] using h
  | tryCatch span call returns body handlers =>
      simp [Stmt.outline, not_mem_marksAll_parametersOutline] at h
      simpa [lowered, operands, Stmt.operands, List.flatMap_map] using h
  | revertNamed | assembly | jump => simp [Stmt.outline] at h
  | _ => simpa [lowered, operands, Stmt.operands, Stmt.outline, List.flatMap_map] using h

/-- **A number among the marks of a part** is the part itself, or it is in an operand that becomes a
node. -/
theorem literal?_or_mem_lowered {p : Part} {text : String} {start : Nat}
    (h : .number text start ∈ p.marks) :
    (∃ span, p.literal? = some (text, span) ∧ span.start = start) ∨
      .number text start ∈ p.lowered.flatMap marks := by
  cases p with
  | expr e => exact literal?_or_mem_operands h
  | stmt s => exact .inr (mem_lowered_stmt h)
  | function f =>
      right
      simp only [marks, FunctionDef.outline, marks_node, marksAll_append, List.mem_append] at h
      simp only [lowered, operands, List.flatMap_append, marks_invocationOperands, List.mem_append]
      rcases h with h | ((h | h) | h) | h
      · cases h
      · exact absurd h not_mem_marksAll_parametersOutline
      · exact .inl h
      · exact absurd h not_mem_marksAll_parametersOutline
      · right
        simpa [List.flatMap_map] using h
  | state v =>
      right
      simp only [marks, VariableDef.parts, declared, marksAll_cons, List.mem_append] at h
      rcases h with h | h
      · simp [Name.mark] at h
      · simpa [lowered, operands, List.flatMap_map] using h
  | contract c =>
      right
      rw [marks_lowered_contract]
      exact h
  | file unit =>
      right
      rw [marks_lowered_file]
      exact h

/-! ### Operands are smaller -/

theorem sizeOf_item_value (i : Item) : sizeOf i.value < sizeOf i := by
  cases i
  simp only [Item.value, Item.mk.sizeOf_spec]
  omega

theorem sizeOf_argument_value (a : Argument) : sizeOf a.value < sizeOf a := by
  cases a
  simp only [Argument.value, Argument.mk.sizeOf_spec]
  omega

/-- Parts made of the elements of a list are no greater than the list. -/
theorem sizeOf_le_of_mem_map {α : Type} [SizeOf α] {g : α → Part}
    (hg : ∀ a, sizeOf (g a) ≤ 1 + sizeOf a) {l : List α} {q : Part} (h : q ∈ l.map g) :
    sizeOf q ≤ sizeOf l := by
  obtain ⟨a, ha, rfl⟩ := List.mem_map.1 h
  have hlt := List.sizeOf_lt_of_mem ha
  have hle := hg a
  omega

theorem sizeOf_expr_le (e : Expr) : sizeOf (expr e) ≤ 1 + sizeOf e := by simp

theorem sizeOf_stmt_le (s : Stmt) : sizeOf (stmt s) ≤ 1 + sizeOf s := by simp

theorem sizeOf_expr_argument_le (a : Argument) : sizeOf (expr a.value) ≤ 1 + sizeOf a := by
  have hvalue := sizeOf_argument_value a
  simp
  omega

/-- The operands of an expression are smaller than the expression. -/
theorem sizeOf_lt_of_mem_operands_expr {e : Expr} {q : Part} (h : q ∈ e.operands) :
    sizeOf q < sizeOf (expr e) := by
  cases e with
  | tuple span items =>
      simp only [Expr.operands, List.mem_map, List.mem_filterMap, id_eq, exists_eq_right] at h
      obtain ⟨i, hi, rfl⟩ := h
      have hlt := List.sizeOf_lt_of_mem hi
      have hvalue := sizeOf_item_value i
      simp at hlt ⊢
      omega
  | array span items =>
      have hle := sizeOf_le_of_mem_map sizeOf_expr_le h
      simp
      omega
  | call span callee arguments =>
      rcases List.mem_cons.1 h with rfl | h
      · simp
        omega
      · have hle := sizeOf_le_of_mem_map sizeOf_expr_le h
        simp
        omega
  | namedCall span callee arguments =>
      rcases List.mem_cons.1 h with rfl | h
      · simp
        omega
      · have hle := sizeOf_le_of_mem_map sizeOf_expr_argument_le h
        simp
        omega
  | name | bareRevert | number | hexNumber | rational | strings | literal | elementaryType
  | functionType => cases h
  | _ =>
      simp [Expr.operands] at h ⊢
      grind

/-- The operands of a statement are smaller than the statement. -/
theorem sizeOf_lt_of_mem_operands_stmt {s : Stmt} {q : Part} (h : q ∈ s.operands) :
    sizeOf q < sizeOf (stmt s) := by
  cases s with
  | block span statements =>
      have hle := sizeOf_le_of_mem_map sizeOf_stmt_le h
      simp
      omega
  | options span arguments =>
      have hle := sizeOf_le_of_mem_map sizeOf_expr_argument_le h
      simp
      omega
  | revert span error arguments =>
      have hle := sizeOf_le_of_mem_map sizeOf_expr_le h
      simp
      omega
  | revertNamed span error arguments =>
      have hle := sizeOf_le_of_mem_map sizeOf_expr_argument_le h
      simp
      omega
  | tryCatch span call returns body handlers =>
      rcases List.mem_cons.1 h with rfl | h
      · simp
        omega
      rcases List.mem_append.1 h with h | h
      · simp at h
        obtain ⟨s, rfl, rfl⟩ := h
        simp
        omega
      · have hle := sizeOf_le_of_mem_map sizeOf_stmt_le h
        simp
        omega
  | assembly | jump => cases h
  | _ =>
      simp [Stmt.operands] at h ⊢
      grind

/-- The arguments of bases and modifiers are smaller than these. -/
theorem sizeOf_lt_of_mem_invocationOperands {invocations : List Invocation} {q : Part}
    (h : q ∈ invocationOperands invocations) : sizeOf q < sizeOf invocations := by
  obtain ⟨i, hi, h⟩ := List.mem_flatMap.1 h
  have hlt := List.sizeOf_lt_of_mem hi
  have hle := sizeOf_le_of_mem_map sizeOf_expr_le h
  obtain ⟨path, arguments⟩ := i
  cases arguments with
  | none => cases h
  | some arguments =>
      simp at hlt hle
      omega

/-- **The operands of a part that become nodes are smaller than the part.** -/
theorem sizeOf_lt_of_mem_lowered {p q : Part} (h : q ∈ p.lowered) : sizeOf q < sizeOf p := by
  unfold lowered at h
  split at h
  · cases h
  · split at h
    · rw [List.mem_singleton.1 h]
      simp
      omega
    · rw [List.mem_singleton.1 h]
      simp only [expr.sizeOf_spec, stmt.sizeOf_spec, Stmt.expression.sizeOf_spec]
      omega
  · cases p with
    | expr e => exact sizeOf_lt_of_mem_operands_expr h
    | stmt s => exact sizeOf_lt_of_mem_operands_stmt h
    | function f =>
        obtain ⟨span, name, parameters, invocations, returns, body⟩ := f
        rcases List.mem_append.1 h with h | h
        · have hlt := sizeOf_lt_of_mem_invocationOperands h
          simp at hlt ⊢
          omega
        · simp at h
          obtain ⟨s, rfl, rfl⟩ := h
          simp
          omega
    | state v =>
        obtain ⟨span, name, value⟩ := v
        simp [operands] at h
        obtain ⟨e, rfl, rfl⟩ := h
        simp
        omega
    | contract c =>
        obtain ⟨span, name, bases, parts⟩ := c
        rcases List.mem_append.1 h with h | h
        · have hlt := sizeOf_lt_of_mem_invocationOperands h
          simp at hlt ⊢
          omega
        · obtain ⟨part, hpart, h⟩ := List.mem_flatMap.1 h
          have hlt := List.sizeOf_lt_of_mem hpart
          cases part with
          | state | function =>
              rw [List.mem_singleton.1 h]
              simp at hlt ⊢
              omega
          | other => cases h
    | file unit =>
        obtain ⟨part, hpart, h⟩ := List.mem_flatMap.1 h
        have hlt := List.sizeOf_lt_of_mem hpart
        cases part with
        | contract | function | constant =>
            rw [List.mem_singleton.1 h]
            simp at hlt ⊢
            omega
        | other => cases h

/-! ### The literal of a number -/

/-- **Each number of a part comes from a literal** at some position. -/
theorem exists_partAt_of_mem_marks {p : Part} {text : String} {start : Nat}
    (h : .number text start ∈ p.marks) :
    ∃ position q span, p.partAt lowered position = some q ∧ q.literal? = some (text, span) ∧
      span.start = start := by
  induction hn : sizeOf p using Nat.strongRecOn generalizing p with
  | ind n ih =>
      rcases literal?_or_mem_lowered h with ⟨span, hliteral, hstart⟩ | h
      · exact ⟨[], p, span, rfl, hliteral, hstart⟩
      · obtain ⟨q, hq, h⟩ := List.mem_flatMap.1 h
        obtain ⟨position, r, span, hr, hliteral, hstart⟩ :=
          ih (sizeOf q) (hn ▸ sizeOf_lt_of_mem_lowered hq) h rfl
        obtain ⟨i, hi⟩ := List.mem_iff_getElem?.1 hq
        refine ⟨i :: position, r, span, ?_, hliteral, hstart⟩
        rw [partAt, hi, Option.bind_some]
        exact hr

/-! ### One literal at a place -/

/-- The literal at a position is that of the part there. -/
theorem literalAt_eq (below : Part → List Part) (p : Part) (position : List Nat) :
    p.literalAt below position = (p.partAt below position).bind literal? := by
  induction position generalizing p with
  | nil => rfl
  | cons i position ih =>
      rw [literalAt, partAt, Option.bind_assoc]
      exact Option.bind_congr fun q _ => ih q

theorem mark_mem_of_partAt {p q : Part} {position : List Nat} {text : String} {span : Span}
    (h : p.partAt lowered position = some q) (hq : q.literal? = some (text, span)) :
    .number text span.start ∈ p.marks := by
  have hfound : p.literalAt lowered position = some (text, span) := by
    rw [literalAt_eq, h, Option.bind_some, hq]
  exact mark_mem_of_literalAt hfound

/-- A literal has no operands. -/
theorem lowered_eq_nil_of_literal? {p : Part} {found : String × Span}
    (h : p.literal? = some found) : p.lowered = [] := by
  unfold literal? at h
  split at h
  · rfl
  · rfl
  · cases h

/-- **Two literals of a part that begin at the same place are the same**, as long as the marks of
the part begin at places of their own. -/
theorem eq_of_partAt_of_start_eq {p q q' : Part}
    (hp : p.marks.Pairwise fun m n => m.start < n.start) {position position' : List Nat}
    {text text' : String} {span span' : Span}
    (hq : p.partAt lowered position = some q) (hliteral : q.literal? = some (text, span))
    (hq' : p.partAt lowered position' = some q') (hliteral' : q'.literal? = some (text', span'))
    (hstart : span.start = span'.start) : q = q' := by
  induction position generalizing p position' with
  | nil =>
      cases hq
      cases position' with
      | nil => exact Option.some.inj hq'
      | cons j position' =>
          rw [partAt, lowered_eq_nil_of_literal? hliteral] at hq'
          cases hq'
  | cons i position ih =>
      obtain ⟨a, ha, hq⟩ := Option.bind_eq_some_iff.1 hq
      cases position' with
      | nil =>
          cases hq'
          rw [lowered_eq_nil_of_literal? hliteral'] at ha
          cases ha
      | cons j position' =>
          obtain ⟨b, hb, hq'⟩ := Option.bind_eq_some_iff.1 hq'
          obtain ⟨hwithin, hacross⟩ :=
            List.pairwise_flatMap.1 (hp.sublist (marks_lowered_sublist p))
          have hm := mark_mem_of_partAt hq hliteral
          have hm' := mark_mem_of_partAt hq' hliteral'
          obtain ⟨hi, rfl⟩ := List.getElem?_eq_some_iff.1 ha
          obtain ⟨hj, rfl⟩ := List.getElem?_eq_some_iff.1 hb
          -- In two operands one of the literals would begin in front of the other.
          have hsame : i = j := by
            rcases Nat.lt_trichotomy i j with hlt | heq | hlt
            · have hbefore := List.pairwise_iff_getElem.1 hacross i j hi hj hlt _ hm _ hm'
              exact absurd hstart (Nat.ne_of_lt hbefore)
            · exact heq
            · have hbefore := List.pairwise_iff_getElem.1 hacross j i hj hi hlt _ hm' _ hm
              exact absurd hstart.symm (Nat.ne_of_lt hbefore)
          subst hsame
          exact ih (hwithin _ (List.getElem_mem hi)) hq hq'

end Part

end AddressTrace.Solidity
