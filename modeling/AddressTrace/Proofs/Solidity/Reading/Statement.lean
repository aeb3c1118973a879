import AddressTrace.Proofs.Solidity.Reading.Expression

/-!
# What is found in statements

The rules for statements find the identifiers, numbers and blocks of what they return among the
lexemes they read.  Inline assembly is only passed over.

## Main statements

* `Parser.passes_assemblyBlock` — assembly is read and nothing of it is found;
* `Parser.finds_block`, `Parser.finds_statement` — blocks and statements find their marks.
-/

namespace AddressTrace.Solidity.Parser

open Text Outline

/-! ### Assembly -/

theorem passes_assemblyName : Passes assemblyName := passes_lexeme _

theorem passes_assemblyType : Passes assemblyType :=
  (passes_after ":" passes_assemblyName).bind fun _ => .pure _

theorem passes_assemblyPath (rounds : Nat) : Passes (assemblyPath rounds) :=
  (passes_separated "." passes_assemblyName rounds).bind fun _ => .pure _

theorem passes_typedNames (rounds : Nat) : Passes (typedNames rounds) := by
  refine (passes_separated "," ?_ rounds).bind fun _ => .pure _
  exact passes_assemblyName.bind fun _ => passes_assemblyType

theorem passes_assemblyLiteral : Passes assemblyLiteral :=
  (passes_lexeme _).bind fun _ => passes_assemblyType

theorem passes_assemblyExpr (rounds depth : Nat) : Passes (assemblyExpr rounds depth) := by
  induction depth with
  | zero => exact .refuse
  | succ depth ih =>
      refine stays_peek.passes.bind fun _ => .ite passes_assemblyLiteral ?_
      refine passes_assemblyName.bind fun _ => (passes_trySymbol _).bind fun _ => .ite ?_ ?_
      · exact (passes_listUntil ")" ih rounds).bind fun _ => .pure _
      · exact (passes_manyAfter "." passes_assemblyName rounds).bind fun _ => .pure _

theorem passes_assemblyCases {block : Parser Unit} (hblock : Passes block) (rounds : Nat) :
    Passes (assemblyCases block rounds) := by
  refine (passes_many ?_ rounds).bind fun cases => ?_
  · refine (passes_tryKeyword _).bind fun _ => .ite ?_ (.pure _)
    exact passes_assemblyLiteral.bind fun _ => hblock.bind fun _ => .pure _
  · exact (passes_tryKeyword _).bind fun _ => .ite hblock (.ite .refuse (.pure _))

theorem passes_assemblyStatement {block : Parser Unit} (hblock : Passes block)
    (rounds depth : Nat) : Passes (assemblyStatement block rounds depth) := by
  have hexpr := passes_assemblyExpr rounds depth
  refine stays_peek.passes.bind fun _ => ?_
  split
  · exact hblock
  · refine (passes_keyword _).bind fun _ => (passes_typedNames rounds).bind fun _ => ?_
    exact (passes_after ":=" hexpr).bind fun _ => .pure _
  · exact (passes_keyword _).bind fun _ => hexpr.bind fun _ => hblock
  · refine (passes_keyword _).bind fun _ => hblock.bind fun _ => ?_
    exact hexpr.bind fun _ => hblock.bind fun _ => hblock
  · refine (passes_keyword _).bind fun _ => hexpr.bind fun _ => ?_
    exact passes_assemblyCases hblock rounds
  · refine (passes_keyword _).bind fun _ => passes_assemblyName.bind fun _ => ?_
    refine (passes_symbol _).bind fun _ => (passes_trySymbol _).bind fun _ => ?_
    have hrest : Passes (do
        let _ ← after "->" (typedNames rounds)
        block) :=
      (passes_after "->" (passes_typedNames rounds)).bind fun _ => hblock
    refine .ite ?_ hrest
    exact (passes_typedNames rounds).bind fun _ => (passes_symbol _).bind fun _ => hrest
  · exact passes_keyword _
  · exact passes_keyword _
  · exact passes_keyword _
  · refine passes_assemblyName.bind fun _ => (passes_trySymbol _).bind fun _ => .ite ?_ ?_
    · exact (passes_listUntil ")" hexpr rounds).bind fun _ => .pure _
    · refine (passes_manyAfter "." passes_assemblyName rounds).bind fun _ => ?_
      refine (passes_manyAfter "," (passes_assemblyPath rounds) rounds).bind fun _ => ?_
      exact (passes_symbol _).bind fun _ => hexpr

/-- **Assembly is passed over.** -/
theorem passes_assemblyBlock (rounds depth : Nat) : Passes (assemblyBlock rounds depth) := by
  induction depth with
  | zero => exact .refuse
  | succ depth ih =>
      refine (passes_symbol _).bind fun _ => ?_
      refine (passes_allUntil closeBrace ?_ rounds).bind fun _ => .pure _
      exact passes_assemblyStatement ih rounds depth

/-! ### Simple statements -/

variable {r : Nested}

theorem finds_statementsTail (h : r.Finds) :
    Finds (statementsTail r) fun ss => ss.flatMap fun s => s.outline.marks :=
  finds_allUntil closeBrace h.stmt _

/-- **A block finds its marks**, its own one at its opening brace. -/
theorem finds_block (h : r.Finds) : Finds (block r) fun s => s.outline.marks := by
  intro c
  refine .start (.token .block fun _ => .stay stays_argumentAhead fun _ => .ite (fun _ => ?_) ?_)
  · refine .bind (finds_namedArguments h) fun arguments _ => .spanFrom (.pure ?_)
    simp [Stmt.outline]
  · intro _
    refine .bind (finds_statementsTail h) fun statements _ => .spanFrom (.pure ?_)
    simp [Stmt.outline]

theorem finds_initializer (h : r.Finds) :
    Finds (initializer r) fun e => e.elim [] fun e => e.outline.marks :=
  finds_after "=" (finds_expression h)

theorem finds_simple (h : r.Finds) : Finds (simple r) fun s => s.outline.marks := by
  intro c
  refine .start (.bind (finds_expression h) fun value _ => ?_)
  refine .stay stays_storageAhead fun _ => .stay stays_nameAhead fun _ => .ite (fun _ => ?_) ?_
  · refine .pass passes_tryStorage fun _ _ => .bind finds_name fun name _ => .spanFrom ?_
    refine .bind (finds_initializer h) fun value _ => .spanFrom (.pure ?_)
    cases value <;> simp [Stmt.outline, Item.name]
  · exact fun _ => .spanFrom (.pure (marks_expression_sublist _ _))

theorem reads_closed {p : Parser Stmt} {c : Cursor} {before : List Mark}
    (hp : Reads p c before fun s => s.outline.marks) :
    Reads (closed p) c before fun s => s.outline.marks :=
  hp.andThen fun _ _ => .pass (passes_symbol _) fun _ _ => .pure (List.Sublist.refl _)

/-- A closed statement as the outcome of a rule that may find none. -/
theorem reads_someClosed {p : Parser Stmt} {c : Cursor} {before : List Mark}
    (hp : Reads p c before fun s => s.outline.marks) :
    Reads (do return some (← closed p)) c before fun s => s.elim [] fun s => s.outline.marks :=
  (reads_closed hp).andThen fun _ _ => .pure (List.Sublist.refl _)

/-! ### Parts of statements -/

theorem finds_condition (h : r.Finds) : Finds (condition r) fun e => e.outline.marks := by
  intro c
  refine .pass (passes_symbol _) fun _ _ => .bind (finds_expression h) fun e _ => ?_
  exact .pass (passes_symbol _) fun _ _ => .pure (List.Sublist.refl _)

theorem finds_alternative (h : r.Finds) :
    Finds (alternative r) fun s => s.elim [] fun s => s.outline.marks := by
  intro c
  refine .pass (passes_tryKeyword _) fun _ _ => .ite (fun _ => ?_) fun _ => ?_
  · exact .bind h.stmt fun s _ => .pure (List.Sublist.refl _)
  · exact .pure (List.nil_sublist _)

theorem finds_unlessMark {α : Type} (mark : String) {p : Parser α} {found : α → List Mark}
    (hp : Finds p found) : Finds (unlessMark mark p) fun a => a.elim [] found := by
  intro c
  refine .stay (stays_nextIs _) fun _ => .ite (fun _ => ?_) fun _ => ?_
  · exact .pure (List.nil_sublist _)
  · exact .bind hp fun a _ => .pure (List.Sublist.refl _)

theorem finds_forTail (h : r.Finds) (s : Nat) : Finds (forTail r s) fun s => s.outline.marks := by
  intro c
  refine .pass (passes_symbol _) fun _ _ => .bind (finds_unlessMark _ (finds_simple h)) ?_
  refine fun first _ => .pass (passes_symbol _) fun _ _ => ?_
  refine .bind (finds_unlessMark _ (finds_expression h)) fun test _ => ?_
  refine .pass (passes_symbol _) fun _ _ => ?_
  refine .bind (finds_unlessMark _ (finds_expression h)) fun step _ => ?_
  refine .pass (passes_symbol _) fun _ _ => .spanFrom (.pass (passes_trySymbol _) fun _ _ => ?_)
  refine .ite (fun _ => .pure ?_) fun _ => ?_
  · cases first <;> cases test <;> cases step <;> simp [Stmt.outline]
  · refine .bind h.stmt fun body _ => .spanFrom (.pure ?_)
    cases first <;> cases test <;> cases step <;> simp [Stmt.outline]

theorem passes_singleParameter (h : r.Finds) : Passes (singleParameter r) :=
  (passes_symbol _).bind fun _ => (finds_parameter h).passes.bind fun _ => passes_symbol _

theorem finds_handler (h : r.Finds) :
    Finds (handler r) fun s => s.elim [] fun s => s.outline.marks := by
  intro c
  have hbody (c : Cursor) : Reads (do return some (← block r)) c []
      fun s => s.elim [] fun s => s.outline.marks :=
    .bind (finds_block h) fun s _ => .pure (List.Sublist.refl _)
  refine .pass (passes_tryKeyword _) fun _ _ => .ite (fun _ => ?_) fun _ => ?_
  · refine .stay stays_nameAhead fun _ => .ite (fun _ => ?_) fun _ => ?_
    · exact .pass passes_name fun _ _ => .pass (passes_singleParameter h) fun _ c => hbody c
    · refine .stay (stays_nextIs _) fun _ => .ite (fun _ => ?_) fun _ => hbody _
      exact .pass (passes_singleParameter h) fun _ c => hbody c
  · exact .pure (List.nil_sublist _)

theorem finds_guardedCall (h : r.Finds) : Finds (guardedCall r) fun e => e.outline.marks := by
  intro c
  refine .start (.pass (passes_tryKeyword _) fun _ _ => .ite (fun _ => ?_) fun _ => ?_)
  · refine .bind (finds_callOperand h) fun call _ => .spanFrom (.pure ?_)
    simp [Expr.outline]
  · exact finds_callOperand h _

theorem finds_tryTail (h : r.Finds) (s : Nat) : Finds (tryTail r s) fun s => s.outline.marks := by
  intro c
  refine .bind (finds_guardedCall h) fun call _ => ?_
  refine .pass (passes_tryKeyword _) fun _ _ => .ite (fun _ => ?_) fun _ => ?_
  · refine .bind (finds_parameters h) fun returns _ => .bind (finds_block h) fun body _ => ?_
    refine .given (.bind (finds_many (finds_handler h) _) fun handlers _ => ?_)
    split
    · exact .refuse
    · refine .spanFrom (.pure ?_)
      simpa [Stmt.outline] using marksAll_parametersOutline_sublist returns
  · refine .given (.bind (finds_many (finds_handler h) _) fun handlers _ => ?_)
    split
    · exact .refuse
    · refine .spanFrom (.pure ?_)
      simp [Stmt.outline, parametersOutline]

theorem finds_revertTail (h : r.Finds) (s : Nat) :
    Finds (revertTail r s) fun s => s.outline.marks := by
  intro c
  have harguments (error : List Name) (c : Cursor) :
      Reads (do
        symbol "("
        if ← trySymbol openBrace then
          let arguments ← namedArguments r
          symbol ")"
          return Stmt.revertNamed (← spanFrom s) error arguments
        let arguments ← listUntil ")" r.expr r.rounds
        return Stmt.revert (← spanFrom s) error arguments) c [] fun s => s.outline.marks := by
    refine .pass (passes_symbol _) fun _ _ => .pass (passes_trySymbol _) fun _ _ => .ite ?_ ?_
    · refine fun _ => .pass (finds_namedArguments h).passes fun _ _ => ?_
      refine .pass (passes_symbol _) fun _ _ => .spanFrom (.pure ?_)
      simp [Stmt.outline]
    · refine fun _ => .bind (finds_listUntil ")" h.expr _) fun arguments _ => .spanFrom (.pure ?_)
      simp [Stmt.outline]
  refine .stay stays_nameAhead fun _ => .ite (fun _ => ?_) fun _ => ?_
  · exact .pass (passes_path _) fun error c => harguments error c
  · exact harguments [] c

theorem passes_assemblyTail : Passes (assemblyTail r) := by
  refine passes_tryString.bind fun _ => (passes_trySymbol _).bind fun _ => .ite ?_ ?_
  · refine (passes_separated "," ?_ _).bind fun _ => (passes_symbol _).bind fun _ => ?_
    · refine passes_tryString.bind fun part => ?_
      cases part with
      | none => exact .refuse
      | some part => exact .pure _
    · exact passes_assemblyBlock _ _
  · exact passes_assemblyBlock _ _

/-! ### Statements -/

/-- A statement that begins with a reserved word: an unchecked block has its mark at this word. -/
theorem reads_keywordStatement (h : r.Finds) (word : String) (c : Cursor) :
    Reads (keywordStatement r c.ahead word) c [] fun s => s.elim [] fun s => s.outline.marks := by
  unfold keywordStatement
  split
  · refine .pass (passes_keyword _) fun _ _ => .bind (finds_condition h) fun test _ => ?_
    refine .bind h.stmt fun whenTrue _ => .bind (finds_alternative h) fun whenFalse _ => ?_
    refine .spanFrom (.pure ?_)
    cases whenFalse <;> simp [Stmt.outline]
  · refine .pass (passes_keyword _) fun _ _ => .bind (finds_condition h) fun test _ => ?_
    refine .bind h.stmt fun body _ => .spanFrom (.pure ?_)
    simp [Stmt.outline]
  · refine .pass (passes_keyword _) fun _ _ => .bind (finds_forTail h _) fun s _ => .pure ?_
    exact List.Sublist.refl _
  · refine .pass (passes_keyword _) fun _ _ => .bind h.stmt fun body _ => ?_
    refine .pass (passes_keyword _) fun _ _ => .bind (finds_condition h) fun test _ => ?_
    refine reads_someClosed (.spanFrom (.pure ?_))
    simp [Stmt.outline]
  · refine .token .unchecked fun _ => .pass (passes_symbol _) fun _ _ => ?_
    refine .bind (finds_statementsTail h) fun statements _ => .spanFrom (.pure ?_)
    simp [Stmt.outline]
  · refine .pass (passes_keyword _) fun _ _ => .pass passes_assemblyTail fun _ _ => ?_
    refine .spanFrom (.pure ?_)
    simp [Stmt.outline]
  · refine .pass (passes_keyword _) fun _ _ => ?_
    refine reads_someClosed (.spanFrom (.pure ?_))
    simp [Stmt.outline]
  · refine .pass (passes_keyword _) fun _ _ => ?_
    refine reads_someClosed (.spanFrom (.pure ?_))
    simp [Stmt.outline]
  · refine .pass (passes_keyword _) fun _ _ => ?_
    refine .bind (finds_unlessMark _ (finds_expression h)) fun value _ => ?_
    refine reads_someClosed (.spanFrom (.pure ?_))
    cases value <;> simp [Stmt.outline]
  · refine .pass (passes_keyword _) fun _ _ => .bind (finds_tryTail h _) fun s _ => .pure ?_
    exact List.Sublist.refl _
  · refine .pass (passes_keyword _) fun _ _ => .bind (finds_callOperand h) fun event _ => ?_
    refine reads_someClosed (.spanFrom (.pure ?_))
    simp [Stmt.outline]
  · refine .stay (stays_peekSecond.bind fun _ => .pure _) fun _ => .ite (fun _ => ?_) fun _ => ?_
    · refine .pass (passes_keyword _) fun _ _ => ?_
      exact reads_someClosed (finds_revertTail h _ _)
    · exact .pure (List.nil_sublist _)
  · exact .pure (List.nil_sublist _)

/-- **A statement finds its marks.** -/
theorem finds_statement (h : r.Finds) : Finds (statement r) fun s => s.outline.marks := by
  intro c
  refine .start (.peek ?_)
  split
  · exact finds_block h c
  · next word _ =>
      refine (reads_keywordStatement h word c).andThen fun s _ => ?_
      cases s with
      | none => exact reads_closed (finds_simple h _)
      | some s => exact .pure (List.Sublist.refl _)
  · exact reads_closed (finds_simple h c)

end AddressTrace.Solidity.Parser
