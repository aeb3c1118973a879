import AddressTrace.Proofs.Solidity.Reading.Basic

/-!
# What is found in expressions

The rules for expressions and lists of parameters find the identifiers, numbers and blocks of what
they return among the lexemes they read, provided that the parsers for nested parts do.

## Main definitions

* `Nested.Finds` — the parsers for nested parts find the marks of these parts.

## Main statements

* `Parser.finds_operand`, `Parser.finds_expression` — so do the rules for operands and expressions.
-/

namespace AddressTrace.Solidity

open Text Outline

/-- **Parsers for nested parts that find the marks of these parts.** -/
structure Nested.Finds (r : Nested) : Prop where
  expr : Parser.Finds r.expr fun e => e.outline.marks
  type : Parser.Finds r.type fun e => e.outline.marks
  stmt : Parser.Finds r.stmt fun s => s.outline.marks

namespace Parser

variable {r : Nested}

/-! ### Named arguments -/

theorem stays_argumentAhead : Stays argumentAhead :=
  stays_peek.bind fun _ => stays_peekSecond.bind fun _ => .pure _

theorem finds_argument (h : r.Finds) : Finds (argument r) fun a => a.value.outline.marks := by
  intro c
  refine .pass (passes_nameBy _) fun _ _ => .pass (passes_symbol _) fun _ _ => ?_
  exact .bind h.expr fun e _ => .pure (List.Sublist.refl _)

theorem finds_namedArguments (h : r.Finds) :
    Finds (namedArguments r) fun as => as.flatMap fun a => a.value.outline.marks :=
  finds_listUntil closeBrace (finds_argument h) r.rounds

/-! ### Items and parameter lists -/

theorem stays_storageAhead : Stays storageAhead := stays_peek.bind fun _ => .pure _

theorem passes_tryStorage : Passes tryStorage :=
  stays_storageAhead.passes.bind fun _ => .ite ((passes_lexeme _).bind fun _ => .pure _) (.pure _)

theorem finds_parameter (h : r.Finds) : Finds (parameter r) Item.marks := by
  intro c
  refine .start (.pass (passes_trial _) fun _ _ => .bind h.type fun type _ => ?_)
  refine .pass passes_tryStorage fun _ _ => .bind finds_optionalName fun name _ => ?_
  exact .spanFrom (.pure (List.Sublist.refl _))

theorem finds_item (h : r.Finds) : Finds (item r) Item.marks := by
  intro c
  refine .start (.bind h.expr fun value _ => ?_)
  refine .stay stays_storageAhead fun _ => .stay stays_nameAhead fun _ => .ite (fun _ => ?_) ?_
  · refine .pass passes_tryStorage fun _ _ => .bind finds_name fun name _ => ?_
    exact .spanFrom (.pure (List.Sublist.refl _))
  · intro _
    refine .spanFrom (.pure ?_)
    simp [Item.marks, Item.value, Item.name]

theorem finds_slot {p : Parser Item} (hp : Finds p Item.marks) :
    Finds (slot p) fun i => i.elim [] Item.marks := by
  intro c
  refine .stay (stays_nextIs _) fun _ => .stay (stays_nextIs _) fun _ => .ite (fun _ => ?_) ?_
  · exact .pure (List.nil_sublist _)
  · exact fun _ => .bind hp fun i _ => .pure (List.Sublist.refl _)

/-- **A list of slots finds the marks of the items in it.** -/
theorem finds_slots {p : Parser Item} (hp : Finds p Item.marks) (rounds : Nat) :
    Finds (slots p rounds) fun items => items.flatMap fun i => i.elim [] Item.marks := by
  intro c
  refine .pass (passes_symbol _) fun _ _ => .pass (passes_trySymbol _) fun _ _ => ?_
  refine .ite (fun _ => ?_) ?_
  · exact .pure (List.nil_sublist _)
  · intro _
    refine .bind (finds_slot hp) fun first _ => ?_
    refine .bind (finds_manyAfter "," (finds_slot hp) rounds) fun more _ => ?_
    exact .pass (passes_symbol _) fun _ _ => .pure (List.Sublist.refl _)

theorem finds_parameters (h : r.Finds) :
    Finds (parameters r) fun items => items.flatMap fun i => i.elim [] Item.marks :=
  finds_slots (finds_parameter h) r.rounds

/-! ### Types -/

theorem passes_oneWordOf (words : List String) : Passes (oneWordOf words) := by
  refine stays_peek.passes.bind fun t => ?_
  split
  · exact .ite ((passes_keyword _).bind fun _ => .pure _) (.pure _)
  · exact .pure _

theorem finds_functionTypeTail (h : r.Finds) : Finds (functionTypeTail r) fun lists =>
    (lists.1 ++ lists.2).flatMap fun i => i.elim [] Item.marks := by
  intro c
  refine .bind (finds_parameters h) fun params _ => ?_
  refine .pass (passes_many (passes_oneWordOf _) _) fun _ _ => ?_
  refine .pass (passes_tryKeyword _) fun _ _ => .ite (fun _ => ?_) fun _ => ?_
  · refine .bind (finds_parameters h) fun results _ => ?_
    refine .pass (passes_many (passes_oneWordOf _) _) fun _ _ => .pure ?_
    rw [List.flatMap_append]
    exact List.Sublist.refl _
  · refine .pure ?_
    rw [List.append_nil]
    exact List.Sublist.refl _

theorem passes_functionTypeTail (h : r.Finds) : Passes (functionTypeTail r) :=
  (finds_functionTypeTail h).passes

theorem passes_mappingTail (h : r.Finds) : Passes (mappingTail r) := by
  refine (passes_symbol _).bind fun _ => h.type.passes.bind fun _ => ?_
  refine passes_optionalName.bind fun _ => (passes_symbol _).bind fun _ => ?_
  exact h.type.passes.bind fun _ => passes_optionalName.bind fun _ => passes_symbol _

/-! ### Operands -/

theorem finds_parenthesized (h : r.Finds) (s : Nat) :
    Finds (parenthesized r s) fun e => e.outline.marks := by
  intro c
  refine .bind (finds_slots (finds_item h) _) fun items _ => .spanFrom ?_
  split
  · refine .pure ?_
    simp [Expr.outline, Item.marks, Item.value, Item.name]
  · refine .pure ?_
    simp [Expr.outline]

theorem passes_tryString : Passes tryString := by
  refine stays_peek.passes.bind fun t => ?_
  split
  · exact (passes_lexeme _).bind fun _ => .pure _
  · exact .pure _

theorem passes_suffix : Passes suffix := by
  refine stays_valueNameAhead.passes.bind fun _ => .ite ?_ (.pure _)
  exact finds_valueName.passes.bind fun _ => .pure _

/-- An operand that begins with a reserved word: the word is a mark if it serves as a name. -/
theorem reads_keywordOperand (h : r.Finds) (word : String) (c : Cursor) :
    Reads (keywordOperand r c.ahead word) c [] fun e => e.outline.marks := by
  refine .lexeme (fun l _ => [.identifier word l.span]) ?_ ?_
  · intro l _ hread
    obtain ⟨token, span⟩ := l
    split at hread
    · next ht =>
        cases ht
        exact .singleton (.identifier span rfl)
    · cases hread
  · intro l rest _ hrest _
    split
    · exact .spanFrom (.pure (List.nil_sublist _))
    · exact .spanFrom (.pure (List.nil_sublist _))
    · exact .spanFrom (.pure (List.nil_sublist _))
    · exact .pass (passes_tryKeyword _) fun _ _ => .spanFrom (.pure (List.nil_sublist _))
    · exact .pass (passes_mappingTail h) fun _ _ => .spanFrom (.pure (List.nil_sublist _))
    · exact .pass (passes_functionTypeTail h) fun _ _ => .spanFrom (.pure (List.nil_sublist _))
    · refine .spanFrom (.stay (stays_nextIs _) fun _ => .stay (stays_nextIs _) fun _ => ?_)
      rw [Cursor.ahead_eq hrest]
      exact .ite (fun _ => .pure (List.Sublist.refl _)) fun _ => .refuse
    · split
      · exact .spanFrom (.pure (List.nil_sublist _))
      · exact .refuse

/-- **An operand finds its marks.** -/
theorem finds_atom (h : r.Finds) : Finds (atom r) fun e => e.outline.marks := by
  intro c
  refine .start (.peek ?_)
  split
  · -- a decimal number
    refine .token (.number _ _) fun _ => .pass passes_suffix fun _ _ => ?_
    exact .spanFrom (.pure (List.Sublist.refl _))
  · -- a hexadecimal number
    refine .token (.hexNumber _) fun _ => .pass passes_suffix fun _ _ => ?_
    exact .spanFrom (.pure (List.Sublist.refl _))
  · refine .pass (passes_token _) fun _ _ => .pass passes_suffix fun _ _ => ?_
    exact .spanFrom (.pure (List.nil_sublist _))
  · refine .pass (passes_many passes_tryString _) fun parts _ => ?_
    split
    · exact .pure (List.nil_sublist _)
    · exact .refuse
  · refine .pass (passes_many ?_ _) fun _ _ => .spanFrom (.pure (List.nil_sublist _))
    exact (passes_trial _).bind fun _ => .ite (.pure _) (.pure _)
  · exact .pass (passes_token _) fun _ _ => .spanFrom (.pure (List.nil_sublist _))
  · exact finds_parenthesized h _ c
  · refine .pass (passes_symbol _) fun _ _ => ?_
    refine .bind (finds_listUntil "]" h.expr _) fun items _ => .spanFrom (.pure ?_)
    simp [Expr.outline]
  · next word _ =>
      refine .stay stays_valueNameAhead fun _ => .ite (fun _ => ?_) fun _ => ?_
      · exact .bind finds_valueName fun name _ => .pure (List.Sublist.refl _)
      · exact reads_keywordOperand h word c
  · exact .bind finds_valueName fun name _ => .pure (List.Sublist.refl _)

theorem finds_exprUnless (h : r.Finds) (marks : List String) :
    Finds (exprUnless r marks) fun e => e.elim [] fun e => e.outline.marks := by
  intro c
  refine .stay stays_peek fun _ => ?_
  split
  · split
    · exact .pure (List.nil_sublist _)
    · exact .bind h.expr fun e _ => .pure (List.Sublist.refl _)
  · exact .bind h.expr fun e _ => .pure (List.Sublist.refl _)

/-! ### What follows an operand -/

theorem reads_subscriptTail (h : r.Finds) (s : Nat) (array : Expr) (c : Cursor) :
    Reads (subscriptTail r s array) c array.outline.marks fun e => e.outline.marks := by
  refine .bind (finds_exprUnless h _) fun first _ => ?_
  refine .pass (passes_trySymbol _) fun _ _ => .ite (fun _ => ?_) fun _ => ?_
  · refine .bind (finds_exprUnless h _) fun last _ => .pass (passes_symbol _) fun _ _ => ?_
    refine .spanFrom (.pure ?_)
    cases first <;> cases last <;> simp [Expr.outline]
  · refine .pass (passes_symbol _) fun _ _ => .spanFrom (.pure ?_)
    cases first <;> simp [Expr.outline]

theorem reads_callTail (h : r.Finds) (s : Nat) (callee : Expr) (c : Cursor) :
    Reads (callTail r s callee) c callee.outline.marks fun e => e.outline.marks := by
  refine .pass (passes_trySymbol _) fun _ _ => .ite (fun _ => ?_) fun _ => ?_
  · refine .bind (finds_namedArguments h) fun arguments _ => .pass (passes_symbol _) fun _ _ => ?_
    refine .spanFrom (.pure ?_)
    simp [Expr.outline]
  · refine .bind (finds_listUntil ")" h.expr _) fun arguments _ => .spanFrom (.pure ?_)
    simp [Expr.outline]

/-- **A step to the right of an operand** goes on after the marks of the operand. -/
theorem reads_operandStep (h : r.Finds) (s : Nat) (e : Expr) (c : Cursor) :
    Reads (operandStep r s e) c e.outline.marks fun e' => (e'.getD e).outline.marks := by
  refine .stay stays_peek fun _ => ?_
  split
  · refine .pass (passes_symbol _) fun _ _ => .spanFrom (.pure ?_)
    simp [Expr.outline]
  · refine .pass (passes_symbol _) fun _ _ => .spanFrom (.pure ?_)
    simp [Expr.outline]
  · refine .pass (passes_symbol _) fun _ _ => ?_
    exact (reads_subscriptTail h s e _).andThen fun e' _ => .pure (List.Sublist.refl _)
  · refine .pass (passes_symbol _) fun _ _ => .pass (passes_nameBy _) fun _ _ => ?_
    refine .spanFrom (.pure ?_)
    simp [Expr.outline]
  · refine .ite (fun _ => ?_) fun _ => .pure (List.Sublist.refl _)
    refine .pass (passes_symbol _) fun _ _ => ?_
    exact (reads_callTail h s e _).andThen fun e' _ => .pure (List.Sublist.refl _)
  · refine .ite (fun _ => ?_) fun _ => .pure (List.Sublist.refl _)
    refine .bind h.stmt fun block _ => .spanFrom (.pure ?_)
    simp [Expr.outline]
  · exact .pure (List.Sublist.refl _)

theorem reads_operandSteps (h : r.Finds) (s rounds : Nat) (e : Expr) (c : Cursor) :
    Reads (operandSteps r s rounds e) c e.outline.marks fun e' => e'.outline.marks := by
  induction rounds generalizing e c with
  | zero => exact .refuse
  | succ rounds ih =>
      refine (reads_operandStep h s e c).andThen fun e' c => ?_
      cases e' with
      | none => exact .pure (List.Sublist.refl _)
      | some e' => exact ih e' c

/-- **An operand with what follows it finds its marks.** -/
theorem finds_operand (h : r.Finds) : Finds (operand r) fun e => e.outline.marks :=
  fun _ => .start (.bind (finds_atom h) fun _ _ => reads_operandSteps h _ _ _ _)

theorem finds_typeName (h : r.Finds) : Finds (typeName r) fun e => e.outline.marks := by
  intro c
  refine .bind (finds_operand h) fun e _ => .ite (fun _ => ?_) fun _ => .refuse
  exact .pure (List.Sublist.refl _)

theorem finds_callOperand (h : r.Finds) : Finds (callOperand r) fun e => e.outline.marks := by
  intro c
  refine .bind (finds_operand h) fun e _ => .ite (fun _ => ?_) fun _ => .refuse
  exact .pure (List.Sublist.refl _)

/-! ### Operators -/

theorem finds_leading (h : r.Finds) (rounds : Nat) :
    Finds (leading r rounds) fun e => e.outline.marks := by
  induction rounds with
  | zero => exact Finds.refuse
  | succ rounds ih =>
      intro c
      refine .start (.stay stays_peek fun t => ?_)
      split
      · exact .bind finds_name fun name _ => .pure (List.Sublist.refl _)
      · split
        · refine .pass (passes_lexeme _) fun _ _ => .bind ih fun e _ => .spanFrom (.pure ?_)
          simp [Expr.outline]
        · exact finds_operand h _

theorem finds_power (h : r.Finds) (rounds : Nat) :
    Finds (power r rounds) fun e => e.outline.marks := by
  induction rounds with
  | zero => exact Finds.refuse
  | succ rounds ih =>
      intro c
      refine .start (.bind (finds_leading h _) fun l _ => ?_)
      refine .pass (passes_trySymbol _) fun _ _ => .ite (fun _ => ?_) fun _ => ?_
      · refine .bind ih fun e _ => .spanFrom (.pure ?_)
        simp [Expr.outline]
      · exact .pure (List.Sublist.refl _)

theorem reads_levelSteps {p : Parser Expr} (hp : Finds p fun e => e.outline.marks)
    (ops : List String) (s rounds : Nat) (l : Expr) (c : Cursor) :
    Reads (levelSteps ops p s rounds l) c l.outline.marks fun e => e.outline.marks := by
  induction rounds generalizing l c with
  | zero => exact .refuse
  | succ rounds ih =>
      refine .stay stays_peek fun t => ?_
      split
      · refine .ite (fun _ => ?_) fun _ => .pure (List.Sublist.refl _)
        refine .pass (passes_symbol _) fun _ _ => .bind hp fun e c => .spanFrom ?_
        simpa [Expr.outline] using ih (.binary ⟨s, c.stop⟩ _ l e) c
      · exact .pure (List.Sublist.refl _)

theorem finds_level {p : Parser Expr} (hp : Finds p fun e => e.outline.marks) (rounds : Nat)
    (ops : List String) : Finds (level rounds p ops) fun e => e.outline.marks :=
  fun _ => .start (.bind hp fun _ _ => reads_levelSteps hp ops _ rounds _ _)

theorem finds_operators (h : r.Finds) : Finds (operators r) fun e => e.outline.marks := by
  unfold operators
  generalize levels = ops
  have hpower := finds_power h r.rounds
  generalize power r r.rounds = p at hpower ⊢
  induction ops generalizing p with
  | nil => exact hpower
  | cons op ops ih => exact ih _ (finds_level hpower _ op)

/-- **An expression finds its marks.** -/
theorem finds_expression (h : r.Finds) : Finds (expression r) fun e => e.outline.marks := by
  intro c
  refine .start (.bind (finds_operators h) fun l _ => .stay stays_peek fun t => ?_)
  split
  · refine .ite (fun _ => ?_) fun _ => .ite (fun _ => ?_) fun _ => ?_
    · refine .pass (passes_symbol _) fun _ _ => .bind h.expr fun e _ => .spanFrom (.pure ?_)
      simp [Expr.outline]
    · refine .pass (passes_symbol _) fun _ _ => .bind h.expr fun whenTrue _ => ?_
      refine .pass (passes_symbol _) fun _ _ => .bind h.expr fun whenFalse _ => ?_
      refine .spanFrom (.pure ?_)
      simp [Expr.outline]
    · exact .pure (List.Sublist.refl _)
  · exact .pure (List.Sublist.refl _)

end Parser

end AddressTrace.Solidity
