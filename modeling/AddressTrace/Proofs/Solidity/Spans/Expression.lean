import AddressTrace.Proofs.Solidity.Reading.Expression
import AddressTrace.Proofs.Solidity.Spans.Basic

/-!
# The bytes of expressions

The numbers, members and blocks in what the rules for expressions return take bytes of the text,
provided that those in nested parts do.  The rules ask where they stand before they read, and for
the bytes read once a lexeme of the node itself was taken.

## Main definitions

* `IsHexText` — a number that is written in hexadecimal;
* `Outline.Sized` — a number, a member or a block takes bytes of a text;
* `Nested.Gives` — the parsers for nested parts give nodes that do.

## Main statements

* `not_isHexText_decimalText` — decimal numbers are not;
* `Parser.gives_atom`, `Parser.keeps_operandStep` — numbers and members;
* `Parser.gives_expression` — expressions.
-/

namespace AddressTrace

open Text

namespace Solidity

/-! ### Numbers -/

/-- **A number that is written in hexadecimal.** -/
def IsHexText (text : String) : Prop := text.toList.take 2 = ['0', 'x']

theorem toList_decimalText (digits exponent : String) : (decimalText digits exponent).toList =
    if exponent.isEmpty then digits.toList else digits.toList ++ 'e' :: exponent.toList := by
  unfold decimalText
  split
  · rfl
  · simp

/-- A decimal number is not written in hexadecimal: its second character is no `x`. -/
theorem not_isHexText_decimalText {source : List Char} {digits exponent : String} {span : Span}
    (h : ScannedIn source 0 ⟨.number digits exponent, span⟩) (suffix : String) :
    ¬ IsHexText (decimalText (Parser.withoutLowLines digits) suffix) := by
  obtain ⟨c, tail, rfl, hc, htail⟩ := h.digits
  have hline : c ≠ '_' := by
    rintro rfl
    cases hc
  have hdigits : (Parser.withoutLowLines (String.ofList (c :: tail))).toList
      = c :: tail.filter (· != '_') := by
    simp [Parser.withoutLowLines, hline]
  have hsecond : ∀ d ∈ tail.filter (· != '_'), d ≠ 'x' := by
    rintro d hd rfl
    have hpart := htail _ (List.mem_of_mem_filter hd)
    cases hpart
  rw [IsHexText, toList_decimalText, hdigits]
  cases hrest : tail.filter (· != '_') with
  | nil => split <;> simp
  | cons d ds =>
      have hd : d ≠ 'x' := hsecond d (by simp [hrest])
      split <;> simp [hd]

end Solidity

/-- **A number, a member or a block takes bytes of a text**, and a hexadecimal number is the text at
the front of its bytes. -/
def Outline.Sized (source : List Char) : Form → Option Span → List Outline → Prop
  | .number text, span, _ => ∃ s ∈ span, s.InText (widthOf source) ∧
      (Solidity.IsHexText text → Solidity.StandsAt source text s.start ∧
        s.start + widthOf text.toList ≤ s.stop)
  | .member _, span, _ => ∃ s ∈ span, s.InText (widthOf source)
  | .block, span, _ => ∃ s ∈ span, s.InText (widthOf source)
  | _, _, _ => True

namespace Solidity

open Outline

/-- The numbers, members and blocks of an expression take bytes of a text. -/
abbrev Expr.Sized (source : List Char) (e : Expr) : Prop :=
  e.outline.Everywhere (Outline.Sized source)

/-- Those of a statement do. -/
abbrev Stmt.Sized (source : List Char) (s : Stmt) : Prop :=
  s.outline.Everywhere (Outline.Sized source)

/-- Those of the value of an item do. -/
abbrev Item.Sized (source : List Char) (i : Item) : Prop := i.value.Sized source

variable {source : List Char}

theorem sized_names (names : List Name) :
    EverywhereAll (Outline.Sized source) (names.map Name.outline) := by
  rw [everywhereAll_map]
  exact fun _ _ => ⟨trivial, trivial⟩

@[simp] theorem sized_optionalItem {i : Option Item} :
    EverywhereAll (Outline.Sized source) (Item.optionalOutline i) ↔ ∀ x ∈ i, x.Sized source := by
  rcases i with _ | ⟨span, value, name⟩
  · simp [Item.optionalOutline, EverywhereAll]
  · simp only [Option.mem_some_iff, forall_eq']
    exact and_iff_left (sized_names name.toList)

section

variable {span : Span} {l e : Expr}

theorem sized_unary {op : UnaryOp} (he : e.Sized source) : (Expr.unary span op e).Sized source :=
  ⟨trivial, he, trivial⟩

theorem sized_binary {op : String} (hl : l.Sized source) (he : e.Sized source) :
    (Expr.binary span op l e).Sized source :=
  ⟨trivial, hl, he, trivial⟩

theorem sized_member {member : Name} (hspan : span.InText (widthOf source)) (he : e.Sized source) :
    (Expr.member span e member).Sized source :=
  ⟨⟨_, rfl, hspan⟩, he, trivial⟩

theorem sized_blockCall {block : Stmt} (he : e.Sized source) (hblock : block.Sized source) :
    (Expr.blockCall span e block).Sized source :=
  ⟨trivial, he, hblock, trivial⟩

end

/-- **Parsers for nested parts** that give nodes in the text. -/
structure Nested.Gives (source : List Char) (r : Nested) : Prop where
  finds : r.Finds
  expr : Parser.Gives source r.expr (Expr.Sized source)
  stmt : Parser.Gives source r.stmt (Stmt.Sized source)

namespace Parser

variable {r : Nested}

/-! ### Arguments and items -/

theorem gives_argument (h : r.Gives source) :
    Gives source (argument r) fun a => a.value.Sized source := by
  intro c
  refine .pass (passes_nameBy _) fun _ _ _ => .pass (passes_symbol _) fun _ _ _ => ?_
  exact .bind h.expr fun e _ he => .pure he

theorem gives_namedArguments (h : r.Gives source) :
    Gives source (namedArguments r) fun as => ∀ a ∈ as, a.value.Sized source :=
  gives_listUntil closeBrace (gives_argument h) r.rounds

theorem gives_item (h : r.Gives source) : Gives source (item r) (Item.Sized source) := by
  intro c
  refine .start (.bind h.expr fun value _ hvalue => ?_)
  refine .stay stays_storageAhead fun _ => .stay stays_nameAhead fun _ => .ite (fun _ => ?_) ?_
  · refine .pass passes_tryStorage fun _ _ _ => .pass passes_name fun name _ _ => ?_
    exact .spanFrom fun _ => .pure hvalue
  · exact fun _ => .spanFrom fun _ => .pure hvalue

theorem gives_slot {p : Parser Item} {good : Item → Prop} (hp : Gives source p good) :
    Gives source (slot p) fun i => ∀ x ∈ i, good x := by
  intro c
  refine .stay (stays_nextIs _) fun _ => .stay (stays_nextIs _) fun _ => .ite (fun _ => ?_) ?_
  · exact .pure (by simp)
  · exact fun _ => .bind hp fun i _ hi => .pure (by simpa using hi)

/-- **A list of slots gives items with the property**, in all slots that are not empty. -/
theorem gives_slots {p : Parser Item} {good : Item → Prop} (hp : Gives source p good)
    (rounds : Nat) : Gives source (slots p rounds) fun items => ∀ i ∈ items, ∀ x ∈ i, good x := by
  intro c
  refine .pass (passes_symbol _) fun _ _ _ => .pass (passes_trySymbol _) fun _ _ _ => ?_
  refine .ite (fun _ => .pure (by simp)) fun _ => ?_
  refine .bind (gives_slot hp) fun first _ hfirst => ?_
  refine .bind (gives_manyAfter "," (gives_slot hp) rounds) fun more _ hmore => ?_
  refine .pass (passes_symbol _) fun _ _ _ => .pure ?_
  exact List.forall_mem_cons.2 ⟨hfirst, hmore⟩

/-! ### Operands -/

theorem gives_parenthesized (h : r.Gives source) (s : Nat) :
    Gives source (parenthesized r s) (Expr.Sized source) := by
  intro c
  refine .bind (gives_slots (gives_item h) _) fun items _ hitems => .spanFrom fun _ => ?_
  split
  · exact .pure (hitems _ List.mem_cons_self _ rfl)
  · exact .pure ⟨trivial, by simpa using hitems⟩

/-- An operand that begins with a reserved word has one node, which is no number. -/
theorem gives_keywordOperand (h : r.Gives source) (s : Nat) (word : String) :
    Gives source (keywordOperand r s word) (Expr.Sized source) := by
  intro c
  refine .pass (passes_keyword _) fun _ _ _ => ?_
  split
  · exact .spanFrom fun _ => .pure ⟨trivial, trivial⟩
  · exact .spanFrom fun _ => .pure ⟨trivial, trivial⟩
  · exact .spanFrom fun _ => .pure ⟨trivial, trivial⟩
  · exact .pass (passes_tryKeyword _) fun _ _ _ => .spanFrom fun _ => .pure ⟨trivial, trivial⟩
  · refine .pass (passes_mappingTail h.finds) fun _ _ _ => .spanFrom fun _ => ?_
    exact .pure ⟨trivial, trivial⟩
  · refine .pass (passes_functionTypeTail h.finds) fun _ _ _ => .spanFrom fun _ => ?_
    exact .pure ⟨trivial, trivial⟩
  · refine .spanFrom fun _ => .stay (stays_nextIs _) fun _ => .stay (stays_nextIs _) fun _ => ?_
    exact .ite (fun _ => .pure ⟨trivial, trivial⟩) fun _ => .refuse
  · split
    · exact .spanFrom fun _ => .pure ⟨trivial, trivial⟩
    · exact .refuse

theorem gives_valueName : Gives source (do return .name (← valueName)) (Expr.Sized source) :=
  fun _ => .pass finds_valueName.passes fun _ _ _ => .pure ⟨trivial, trivial⟩

/-- **An operand**: a number takes at least the bytes of its own lexeme. -/
theorem gives_atom (h : r.Gives source) : Gives source (atom r) (Expr.Sized source) := by
  intro c
  refine .start (.stay stays_peek fun t => ?_)
  split
  · refine .token fun _ _ hscanned => .pass passes_suffix fun _ _ hreach => .spanFrom fun hin => ?_
    have hlt := hscanned.inText.start_lt_stop.trans_le hreach.stop_le_stop
    refine .pure ⟨⟨_, rfl, hin hlt, fun hhex => ?_⟩, trivial⟩
    exact absurd hhex (not_isHexText_decimalText hscanned _)
  · refine .token fun _ _ hscanned => .pass passes_suffix fun _ _ hreach => .spanFrom fun hin => ?_
    have hlt := hscanned.inText.start_lt_stop.trans_le hreach.stop_le_stop
    refine .pure ⟨⟨_, rfl, hin hlt, fun _ => ?_⟩, trivial⟩
    obtain ⟨hstands, hstop⟩ := hscanned.standsAt rfl
    exact ⟨hstands, hstop.symm.trans_le hreach.stop_le_stop⟩
  · refine .pass (passes_token _) fun _ _ _ => .pass passes_suffix fun _ _ _ => ?_
    exact .spanFrom fun _ => .pure ⟨trivial, trivial⟩
  · refine .pass (passes_many passes_tryString _) fun parts _ _ => ?_
    split
    · exact .pure ⟨trivial, trivial⟩
    · exact .refuse
  · refine .pass (passes_many ?_ _) fun _ _ _ => .spanFrom fun _ => .pure ⟨trivial, trivial⟩
    exact (passes_trial _).bind fun _ => .ite (.pure _) (.pure _)
  · exact .pass (passes_token _) fun _ _ _ => .spanFrom fun _ => .pure ⟨trivial, trivial⟩
  · exact gives_parenthesized h _ c
  · refine .pass (passes_symbol _) fun _ _ _ => ?_
    refine .bind (gives_listUntil "]" h.expr _) fun items _ hitems => .spanFrom fun _ => ?_
    exact .pure ⟨trivial, by simpa using hitems⟩
  · refine .stay stays_valueNameAhead fun _ => .ite (fun _ => gives_valueName c) fun _ => ?_
    exact gives_keywordOperand h _ _ c
  · exact gives_valueName c

theorem gives_exprUnless (h : r.Gives source) (marks : List String) :
    Gives source (exprUnless r marks) fun e => ∀ x ∈ e, x.Sized source := by
  have hsome (c : Cursor) : Keeps source (do return some (← r.expr)) c
      fun e => ∀ x ∈ e, x.Sized source :=
    .bind h.expr fun e _ he => .pure (by simpa using he)
  intro c
  refine .stay stays_peek fun _ => ?_
  split
  · split
    · exact .pure (by simp)
    · exact hsome c
  · exact hsome c

/-! ### What follows an operand -/

theorem gives_subscriptTail (h : r.Gives source) (s : Nat) {array : Expr}
    (harray : array.Sized source) : Gives source (subscriptTail r s array) (Expr.Sized source) := by
  intro c
  refine .bind (gives_exprUnless h _) fun first _ hfirst => ?_
  refine .pass (passes_trySymbol _) fun _ _ _ => .ite (fun _ => ?_) fun _ => ?_
  · refine .bind (gives_exprUnless h _) fun last _ hlast => .pass (passes_symbol _) fun _ _ _ => ?_
    exact .spanFrom fun _ => .pure ⟨trivial, harray, by simpa using ⟨hfirst, hlast⟩⟩
  · refine .pass (passes_symbol _) fun _ _ _ => .spanFrom fun _ => ?_
    exact .pure ⟨trivial, harray, by simpa using hfirst⟩

theorem gives_callTail (h : r.Gives source) (s : Nat) {callee : Expr}
    (hcallee : callee.Sized source) : Gives source (callTail r s callee) (Expr.Sized source) := by
  intro c
  refine .pass (passes_trySymbol _) fun _ _ _ => .ite (fun _ => ?_) fun _ => ?_
  · refine .bind (gives_namedArguments h) fun arguments _ harguments => ?_
    refine .pass (passes_symbol _) fun _ _ _ => .spanFrom fun _ => ?_
    exact .pure ⟨trivial, hcallee, by simpa using harguments⟩
  · refine .bind (gives_listUntil ")" h.expr _) fun arguments _ harguments => ?_
    exact .spanFrom fun _ => .pure ⟨trivial, hcallee, by simpa using harguments⟩

/-- **A step to the right of an operand** that began at an offset which is not ahead: a member takes
at least the bytes of its dot. -/
theorem keeps_operandStep (h : r.Gives source) {s : Nat} {e : Expr} {c : Cursor}
    (hs : s ≤ c.ahead) (he : e.Sized source) :
    Keeps source (operandStep r s e) c fun e' => ∀ x ∈ e', x.Sized source := by
  refine .stay stays_peek fun _ => ?_
  split
  · refine .pass (passes_symbol _) fun _ _ _ => .spanFrom fun _ => ?_
    exact .pure (by simpa using sized_unary he)
  · refine .pass (passes_symbol _) fun _ _ _ => .spanFrom fun _ => ?_
    exact .pure (by simpa using sized_unary he)
  · refine .pass (passes_symbol _) fun _ _ _ => ?_
    exact .bind (gives_subscriptTail h s he) fun e' _ he' => .pure (by simpa using he')
  · refine .token fun _ _ hscanned => .pass (passes_nameBy _) fun _ _ hreach => ?_
    have hlt := hscanned.inText.start_lt_stop.trans_le hreach.stop_le_stop
    refine .spanFrom fun hspan => .pure ?_
    simpa using sized_member (hspan (hs.trans_lt hlt)) he
  · refine .ite (fun _ => ?_) fun _ => .pure (by simp)
    refine .pass (passes_symbol _) fun _ _ _ => ?_
    exact .bind (gives_callTail h s he) fun e' _ he' => .pure (by simpa using he')
  · refine .ite (fun _ => ?_) fun _ => .pure (by simp)
    refine .bind h.stmt fun block _ hblock => .spanFrom fun _ => ?_
    exact .pure (by simpa using sized_blockCall he hblock)
  · exact .pure (by simp)

theorem keeps_operandSteps (h : r.Gives source) {s : Nat} (rounds : Nat) {e : Expr} {c : Cursor}
    (hs : s ≤ c.ahead) (he : e.Sized source) :
    Keeps source (operandSteps r s rounds e) c (Expr.Sized source) := by
  induction rounds generalizing e c with
  | zero => exact .refuse
  | succ rounds ih =>
      refine (keeps_operandStep h hs he).andThen fun e' c₁ hreach he' => ?_
      cases e' with
      | none => exact .pure he
      | some e' => exact ih (hs.trans hreach.ahead_le_ahead) (he' e' rfl)

/-- **An operand with what follows it**, all of which began where the operand did. -/
theorem gives_operand (h : r.Gives source) : Gives source (operand r) (Expr.Sized source) := by
  intro c
  refine .start ((gives_atom h c).andThen fun e c₁ hreach he => ?_)
  exact keeps_operandSteps h _ hreach.ahead_le_ahead he

theorem gives_callOperand (h : r.Gives source) : Gives source (callOperand r) (Expr.Sized source) :=
  fun _ => .bind (gives_operand h) fun _ _ he => .ite (fun _ => .pure he) fun _ => .refuse

/-! ### Operators -/

theorem gives_leading (h : r.Gives source) (rounds : Nat) :
    Gives source (leading r rounds) (Expr.Sized source) := by
  induction rounds with
  | zero => exact fun _ => .refuse
  | succ rounds ih =>
      intro c
      refine .start (.stay stays_peek fun t => ?_)
      split
      · exact .pass passes_name fun _ _ _ => .pure ⟨trivial, trivial⟩
      · split
        · refine .pass (passes_lexeme _) fun _ _ _ => .bind ih fun e _ he => ?_
          exact .spanFrom fun _ => .pure (sized_unary he)
        · exact gives_operand h _

theorem gives_power (h : r.Gives source) (rounds : Nat) :
    Gives source (power r rounds) (Expr.Sized source) := by
  induction rounds with
  | zero => exact fun _ => .refuse
  | succ rounds ih =>
      intro c
      refine .start (.bind (gives_leading h _) fun l _ hl => ?_)
      refine .pass (passes_trySymbol _) fun _ _ _ => .ite (fun _ => ?_) fun _ => .pure hl
      exact .bind ih fun e _ he => .spanFrom fun _ => .pure (sized_binary hl he)

theorem gives_levelSteps {p : Parser Expr} (hp : Gives source p (Expr.Sized source))
    (ops : List String) (s rounds : Nat) {l : Expr} (hl : l.Sized source) :
    Gives source (levelSteps ops p s rounds l) (Expr.Sized source) := by
  induction rounds generalizing l with
  | zero => exact fun _ => .refuse
  | succ rounds ih =>
      intro c
      refine .stay stays_peek fun t => ?_
      split
      · refine .ite (fun _ => ?_) fun _ => .pure hl
        refine .pass (passes_symbol _) fun _ _ _ => .bind hp fun e _ he => .spanFrom fun _ => ?_
        exact ih (sized_binary hl he) _
      · exact .pure hl

theorem gives_level {p : Parser Expr} (hp : Gives source p (Expr.Sized source)) (rounds : Nat)
    (ops : List String) : Gives source (level rounds p ops) (Expr.Sized source) :=
  fun _ => .start (.bind hp fun _ _ hl => gives_levelSteps hp ops _ rounds hl _)

theorem gives_operators (h : r.Gives source) : Gives source (operators r) (Expr.Sized source) := by
  unfold operators
  generalize levels = ops
  have hpower := gives_power h r.rounds
  generalize power r r.rounds = p at hpower ⊢
  induction ops generalizing p with
  | nil => exact hpower
  | cons op ops ih => exact ih _ (gives_level hpower _ op)

/-- **An expression gives nodes in the text.** -/
theorem gives_expression (h : r.Gives source) :
    Gives source (expression r) (Expr.Sized source) := by
  intro c
  refine .start (.bind (gives_operators h) fun l _ hl => .stay stays_peek fun t => ?_)
  split
  · refine .ite (fun _ => ?_) fun _ => .ite (fun _ => ?_) fun _ => .pure hl
    · refine .pass (passes_symbol _) fun _ _ _ => .bind h.expr fun e _ he => ?_
      exact .spanFrom fun _ => .pure (sized_binary hl he)
    · refine .pass (passes_symbol _) fun _ _ _ => .bind h.expr fun whenTrue _ htrue => ?_
      refine .pass (passes_symbol _) fun _ _ _ => .bind h.expr fun whenFalse _ hfalse => ?_
      exact .spanFrom fun _ => .pure ⟨trivial, hl, htrue, hfalse, trivial⟩
  · exact .pure hl

end Parser

end Solidity

end AddressTrace
