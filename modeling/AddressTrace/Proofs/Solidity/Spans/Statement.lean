import AddressTrace.Proofs.Solidity.Reading.Statement
import AddressTrace.Proofs.Solidity.Spans.Expression

/-!
# The bytes of statements

The rules for statements give nodes in the text.  A block takes at least the bytes of its opening
brace, or of the word in front of it.

## Main statements

* `Parser.gives_block`, `Parser.keeps_keywordStatement` — blocks;
* `Parser.gives_statement` — statements.
-/

namespace AddressTrace.Solidity

open Text Outline

variable {source : List Char}

/-! ### Declared variables -/

theorem sized_declared (span : Span) (name : Option Name) :
    (declared span name).Everywhere (Outline.Sized source) :=
  ⟨trivial, sized_names name.toList⟩

theorem sized_parametersOutline (items : List (Option Item)) :
    EverywhereAll (Outline.Sized source) (parametersOutline items) := by
  rw [parametersOutline, everywhereAll_map]
  exact fun i _ => sized_declared i.span i.name

/-- An expression as a statement has nodes of the expression, and declared variables. -/
theorem sized_expression (span : Span) {value : Expr} (h : value.Sized source) :
    (Stmt.expression span value).Sized source := by
  rcases Stmt.outline_expression span value with ⟨whole, place, items, right, rfl, -, heq⟩ | heq
  · have hright : right.Sized source := h.2.2.1
    rw [Stmt.Sized, heq]
    refine ⟨trivial, ?_⟩
    rw [everywhereAll_append]
    exact ⟨sized_parametersOutline items, hright, trivial⟩
  · rw [Stmt.Sized, heq]
    exact ⟨trivial, h, trivial⟩

namespace Parser

variable {r : Nested}

/-! ### Simple statements -/

theorem gives_statementsTail (h : r.Gives source) :
    Gives source (statementsTail r) fun ss => ∀ s ∈ ss, s.Sized source :=
  gives_allUntil closeBrace h.stmt _

/-- **A block gives nodes in the text**, and takes at least the bytes of its opening brace. -/
theorem gives_block (h : r.Gives source) : Gives source (block r) (Stmt.Sized source) := by
  intro c
  refine .start (.token fun c₁ _ hscanned => .stay stays_argumentAhead fun _ => ?_)
  refine .ite (fun _ => ?_) ?_
  · refine .bind (gives_namedArguments h) fun arguments _ harguments => .spanFrom fun _ => ?_
    exact .pure ⟨trivial, by simpa using harguments⟩
  · intro _
    refine (gives_statementsTail h c₁).andThen fun statements _ hreach hstatements => ?_
    refine .spanFrom fun hspan => .pure ⟨⟨_, rfl, ?_⟩, by simpa using hstatements⟩
    exact hspan (hscanned.inText.start_lt_stop.trans_le hreach.stop_le_stop)

theorem gives_initializer (h : r.Gives source) :
    Gives source (initializer r) fun e => ∀ x ∈ e, x.Sized source :=
  gives_after "=" (gives_expression h)

theorem gives_simple (h : r.Gives source) : Gives source (simple r) (Stmt.Sized source) := by
  intro c
  refine .start (.bind (gives_expression h) fun value _ hvalue => ?_)
  refine .stay stays_storageAhead fun _ => .stay stays_nameAhead fun _ => .ite (fun _ => ?_) ?_
  · refine .pass passes_tryStorage fun _ _ _ => .pass passes_name fun name _ _ => ?_
    refine .spanFrom fun _ => .bind (gives_initializer h) fun value _ hvalue => ?_
    refine .spanFrom fun _ => .pure ⟨trivial, sized_declared _ _, ?_⟩
    simpa using hvalue
  · exact fun _ => .spanFrom fun _ => .pure (sized_expression _ hvalue)

theorem keeps_closed {p : Parser Stmt} {c : Cursor} (hp : Keeps source p c (Stmt.Sized source)) :
    Keeps source (closed p) c (Stmt.Sized source) :=
  hp.andThen fun _ _ _ hs => .pass (passes_symbol _) fun _ _ _ => .pure hs

/-- A statement at hand is the outcome of a rule that may find none. -/
theorem keeps_found {s : Stmt} {c : Cursor} (hs : s.Sized source) :
    Keeps source (pure (some s)) c fun s => ∀ x ∈ s, x.Sized source :=
  .pure (by simpa using hs)

/-- A statement to be read is the outcome of such a rule. -/
theorem keeps_some {p : Parser Stmt} {c : Cursor} (hp : Keeps source p c (Stmt.Sized source)) :
    Keeps source (do return some (← p)) c fun s => ∀ x ∈ s, x.Sized source :=
  hp.andThen fun _ _ _ hs => keeps_found hs

/-! ### Parts of statements -/

theorem gives_condition (h : r.Gives source) : Gives source (condition r) (Expr.Sized source) := by
  intro c
  refine .pass (passes_symbol _) fun _ _ _ => .bind (gives_expression h) fun e _ he => ?_
  exact .pass (passes_symbol _) fun _ _ _ => .pure he

theorem gives_alternative (h : r.Gives source) :
    Gives source (alternative r) fun s => ∀ x ∈ s, x.Sized source := by
  intro c
  refine .pass (passes_tryKeyword _) fun _ _ _ => .ite (fun _ => ?_) fun _ => .pure (by simp)
  exact keeps_some (h.stmt _)

theorem gives_unlessMark {α : Type} (mark : String) {p : Parser α} {good : α → Prop}
    (hp : Gives source p good) : Gives source (unlessMark mark p) fun a => ∀ x ∈ a, good x := by
  intro c
  refine .stay (stays_nextIs _) fun _ => .ite (fun _ => .pure (by simp)) fun _ => ?_
  exact .bind hp fun a _ ha => .pure (by simpa using ha)

theorem gives_forTail (h : r.Gives source) (s : Nat) :
    Gives source (forTail r s) (Stmt.Sized source) := by
  intro c
  refine .pass (passes_symbol _) fun _ _ _ => .bind (gives_unlessMark _ (gives_simple h)) ?_
  refine fun first _ hfirst => .pass (passes_symbol _) fun _ _ _ => ?_
  refine .bind (gives_unlessMark _ (gives_expression h)) fun test _ htest => ?_
  refine .pass (passes_symbol _) fun _ _ _ => ?_
  refine .bind (gives_unlessMark _ (gives_expression h)) fun step _ hstep => ?_
  refine .pass (passes_symbol _) fun _ _ _ => .spanFrom fun _ => ?_
  refine .pass (passes_trySymbol _) fun _ _ _ => .ite (fun _ => ?_) fun _ => ?_
  · exact .pure ⟨trivial, by simpa using ⟨hfirst, htest, hstep⟩⟩
  · refine .bind h.stmt fun body _ hbody => .spanFrom fun _ => ?_
    exact .pure ⟨trivial, by simpa using ⟨hfirst, htest, hstep, hbody, trivial⟩⟩

theorem gives_handler (h : r.Gives source) :
    Gives source (handler r) fun s => ∀ x ∈ s, x.Sized source := by
  intro c
  refine .pass (passes_tryKeyword _) fun _ _ _ => .ite (fun _ => ?_) fun _ => .pure (by simp)
  refine .stay stays_nameAhead fun _ => .ite (fun _ => ?_) fun _ => ?_
  · refine .pass passes_name fun _ _ _ => .pass (passes_singleParameter h.finds) fun _ _ _ => ?_
    exact keeps_some (gives_block h _)
  · refine .stay (stays_nextIs _) fun _ => .ite (fun _ => ?_) fun _ => keeps_some (gives_block h _)
    exact .pass (passes_singleParameter h.finds) fun _ _ _ => keeps_some (gives_block h _)

theorem gives_guardedCall (h : r.Gives source) :
    Gives source (guardedCall r) (Expr.Sized source) := by
  intro c
  refine .start (.pass (passes_tryKeyword _) fun _ _ _ => .ite (fun _ => ?_) fun _ => ?_)
  · refine .bind (gives_callOperand h) fun call _ hcall => .spanFrom fun _ => ?_
    exact .pure (sized_unary hcall)
  · exact gives_callOperand h _

theorem gives_tryTail (h : r.Gives source) (s : Nat) :
    Gives source (tryTail r s) (Stmt.Sized source) := by
  intro c
  have hend {call : Expr} (hcall : call.Sized source) (returns : List (Option Item))
      {body : Option Stmt} (hbody : ∀ x ∈ body, x.Sized source) {handlers : List Stmt}
      (hhandlers : ∀ x ∈ handlers, x.Sized source) (c : Cursor) :
      Keeps source (do return Stmt.tryCatch (← spanFrom s) call returns body handlers) c
        (Stmt.Sized source) := by
    refine .spanFrom fun _ => .pure ⟨trivial, hcall, ?_⟩
    simpa using ⟨sized_parametersOutline returns, hbody, hhandlers⟩
  refine .bind (gives_guardedCall h) fun call _ hcall => ?_
  refine .pass (passes_tryKeyword _) fun _ _ _ => .ite (fun _ => ?_) fun _ => ?_
  · refine .pass (finds_parameters h.finds).passes fun returns _ _ => ?_
    refine .bind (gives_block h) fun body _ hbody => .given ?_
    refine .bind (gives_many (gives_handler h) _) fun handlers c hhandlers => ?_
    split
    · exact .refuse
    · exact hend hcall returns (by simpa using hbody) hhandlers c
  · refine .given (.bind (gives_many (gives_handler h) _) fun handlers c hhandlers => ?_)
    split
    · exact .refuse
    · exact hend hcall [] (by simp) hhandlers c

theorem gives_revertTail (h : r.Gives source) (s : Nat) :
    Gives source (revertTail r s) (Stmt.Sized source) := by
  intro c
  have harguments (error : List Name) (c : Cursor) : Keeps source (do
      symbol "("
      if ← trySymbol openBrace then
        let arguments ← namedArguments r
        symbol ")"
        return Stmt.revertNamed (← spanFrom s) error arguments
      let arguments ← listUntil ")" r.expr r.rounds
      return Stmt.revert (← spanFrom s) error arguments) c (Stmt.Sized source) := by
    refine .pass (passes_symbol _) fun _ _ _ => .pass (passes_trySymbol _) fun _ _ _ => .ite ?_ ?_
    · refine fun _ => .bind (gives_namedArguments h) fun arguments _ _ => ?_
      exact .pass (passes_symbol _) fun _ _ _ => .spanFrom fun _ => .pure ⟨trivial, trivial⟩
    · refine fun _ => .bind (gives_listUntil ")" h.expr _) fun arguments _ harguments => ?_
      exact .spanFrom fun _ => .pure ⟨trivial, by simpa using harguments⟩
  refine .stay stays_nameAhead fun _ => .ite (fun _ => ?_) fun _ => ?_
  · exact .pass (passes_path _) fun error c _ => harguments error c
  · exact harguments [] c

/-! ### Statements -/

/-- A statement that begins with a reserved word: an unchecked block takes at least the bytes of
this word. -/
theorem keeps_keywordStatement (h : r.Gives source) (word : String) (c : Cursor) :
    Keeps source (keywordStatement r c.ahead word) c fun s => ∀ x ∈ s, x.Sized source := by
  unfold keywordStatement
  split
  · refine .pass (passes_keyword _) fun _ _ _ => .bind (gives_condition h) fun test _ htest => ?_
    refine .bind h.stmt fun whenTrue _ htrue => ?_
    refine .bind (gives_alternative h) fun whenFalse _ hfalse => ?_
    refine .spanFrom fun _ => keeps_found ⟨trivial, htest, htrue, ?_⟩
    simpa using hfalse
  · refine .pass (passes_keyword _) fun _ _ _ => .bind (gives_condition h) fun test _ htest => ?_
    refine .bind h.stmt fun body _ hbody => .spanFrom fun _ => ?_
    exact keeps_found ⟨trivial, htest, hbody, trivial⟩
  · exact .pass (passes_keyword _) fun _ _ _ => keeps_some (gives_forTail h _ _)
  · refine .pass (passes_keyword _) fun _ _ _ => .bind h.stmt fun body _ hbody => ?_
    refine .pass (passes_keyword _) fun _ _ _ => .bind (gives_condition h) fun test _ htest => ?_
    refine keeps_some (keeps_closed (.spanFrom fun _ => ?_))
    exact .pure ⟨trivial, hbody, htest, trivial⟩
  · refine .token fun _ _ hscanned => .pass (passes_symbol _) fun _ c₂ hreach => ?_
    refine (gives_statementsTail h c₂).andThen fun statements _ hreach' hstatements => ?_
    refine .spanFrom fun hspan => keeps_found ⟨⟨_, rfl, ?_⟩, by simpa using hstatements⟩
    exact hspan (hscanned.inText.start_lt_stop.trans_le (hreach.trans hreach').stop_le_stop)
  · refine .pass (passes_keyword _) fun _ _ _ => .pass passes_assemblyTail fun _ _ _ => ?_
    exact .spanFrom fun _ => keeps_found ⟨trivial, trivial⟩
  · refine .pass (passes_keyword _) fun _ _ _ => ?_
    exact keeps_some (keeps_closed (.spanFrom fun _ => .pure ⟨trivial, trivial⟩))
  · refine .pass (passes_keyword _) fun _ _ _ => ?_
    exact keeps_some (keeps_closed (.spanFrom fun _ => .pure ⟨trivial, trivial⟩))
  · refine .pass (passes_keyword _) fun _ _ _ => ?_
    refine .bind (gives_unlessMark _ (gives_expression h)) fun value _ hvalue => ?_
    refine keeps_some (keeps_closed (.spanFrom fun _ => .pure ⟨trivial, ?_⟩))
    simpa using hvalue
  · exact .pass (passes_keyword _) fun _ _ _ => keeps_some (gives_tryTail h _ _)
  · refine .pass (passes_keyword _) fun _ _ _ => ?_
    refine .bind (gives_callOperand h) fun event _ hevent => ?_
    exact keeps_some (keeps_closed (.spanFrom fun _ => .pure ⟨trivial, hevent, trivial⟩))
  · refine .stay (stays_peekSecond.bind fun _ => .pure _) fun _ => .ite (fun _ => ?_) fun _ => ?_
    · refine .pass (passes_keyword _) fun _ _ _ => ?_
      exact keeps_some (keeps_closed (gives_revertTail h _ _))
    · exact .pure (by simp)
  · exact .pure (by simp)

/-- **A statement gives nodes in the text.** -/
theorem gives_statement (h : r.Gives source) : Gives source (statement r) (Stmt.Sized source) := by
  intro c
  refine .start (.stay stays_peek fun t => ?_)
  split
  · exact gives_block h c
  · next word =>
      refine (keeps_keywordStatement h word c).andThen fun s _ _ hs => ?_
      cases s with
      | none => exact keeps_closed (gives_simple h _)
      | some s => exact .pure (hs s rfl)
  · exact keeps_closed (gives_simple h c)

end Parser

end AddressTrace.Solidity
