import AddressTrace.Proofs.Solidity.Outlines

/-!
# The shapes of outlines

Which children the nodes of a file have.  A node of a form that refers to its children has the
children that the form speaks of and no others, and the variables in the storage of a contract are
declared directly below the contract.  Inside a function no storage is declared, so that the nodes
of expressions and statements are treated together, in one induction over the syntax.

## Main definitions

* `Outline.Lawful` — the form of a node agrees with its place and its children;
* `Outline.Arranged` — a node has the children that its form refers to;
* `Outline.Inner` — a node that may stand inside a function;
* `Outline.Shaped` — a node that may stand in a file.

## Main statements

* `Solidity.inner_expr`, `Solidity.inner_stmt` — the nodes of expressions and statements;
* `Solidity.shaped_outlines` — the nodes of a file.
-/

namespace AddressTrace

open Text

namespace Outline

/-- The form of the top of an outline. -/
def form : Outline → Form
  | .node form _ _ => form

/-- Is this the outline of a declared variable? -/
def DeclaresVariable (o : Outline) : Prop := ∃ name, o.form = .declared name

/-- **The form of a node agrees with its place and its children.** -/
def Lawful : Form → Option Span → List Outline → Prop
  | .identifier _, span, _ => span.isSome
  | .number _, span, _ => span.isSome
  | .block, span, _ => span.isSome
  | .declared name, _, children =>
    ∃ span, children = name.toList.map fun n => .node (.identifier n) (some span) []
  | _, _, _ => True

/-- **A node has the children that its form refers to**, and no others. -/
def Arranged : Form → List Outline → Prop
  | .localDeclaration n, children =>
    ∃ (declared : List Outline) (value : Option Outline),
      children = declared ++ value.toList ∧ declared.length = n ∧
        ∀ o ∈ declared, o.DeclaresVariable
  | .stateDeclaration, children =>
    ∃ (declared : Outline) (value : Option Outline),
      children = declared :: value.toList ∧ declared.DeclaresVariable
  | .call, children => ∃ callee arguments, children = callee :: arguments
  | .member _, children => ∃ object, children = [object]
  | _, _ => True

/-- **A node that may stand inside a function**: it declares no variable in the storage of a
contract. -/
structure Inner (form : Form) (span : Option Span) (children : List Outline) : Prop where
  ne_stateDeclaration : form ≠ .stateDeclaration
  lawful : Lawful form span children
  arranged : Arranged form children

/-- **A node that may stand in a file**: only below a contract variables in storage are declared. -/
structure Shaped (form : Form) (span : Option Span) (children : List Outline) : Prop where
  lawful : Lawful form span children
  arranged : Arranged form children
  below_contract : ∀ o ∈ children, o.form = .stateDeclaration → ∃ name, form = .contract name

/-! ### From one property of all nodes to another -/

section Everywhere

variable {P Q : Form → Option Span → List Outline → Prop}

/-- What holds of all nodes holds of the top. -/
theorem Everywhere.top : ∀ {o : Outline}, o.Everywhere P → ∃ span children, P o.form span children
  | .node _ span children, h => ⟨span, children, h.1⟩

mutual

theorem Everywhere.imp (hPQ : ∀ form span children, P form span children →
    EverywhereAll P children → Q form span children) :
    ∀ {o : Outline}, o.Everywhere P → o.Everywhere Q
  | .node form span children, h =>
    ⟨hPQ form span children h.1 h.2, EverywhereAll.imp hPQ h.2⟩

/-- A property of all nodes gives another one, which may depend on all nodes below. -/
theorem EverywhereAll.imp (hPQ : ∀ form span children, P form span children →
    EverywhereAll P children → Q form span children) :
    ∀ {os : List Outline}, EverywhereAll P os → EverywhereAll Q os
  | [], _ => trivial
  | _ :: _, h => ⟨Everywhere.imp hPQ h.1, EverywhereAll.imp hPQ h.2⟩

end

/-- The nodes inside a function declare nothing in storage. -/
theorem form_ne_of_inner {o : Outline} (h : o.Everywhere Inner) : o.form ≠ .stateDeclaration := by
  obtain ⟨span, children, htop⟩ := h.top
  exact htop.ne_stateDeclaration

/-- What may stand inside a function may stand in a file. -/
theorem shaped_of_inner {os : List Outline} (h : EverywhereAll Inner os) :
    EverywhereAll Shaped os := by
  refine EverywhereAll.imp (fun form span children hnode hbelow => ?_) h
  refine ⟨hnode.lawful, hnode.arranged, fun o ho hform => ?_⟩
  exact absurd hform (form_ne_of_inner (everywhereAll_iff.1 hbelow o ho))

end Everywhere

/-! ### Nodes whose form refers to no child -/

section Plain

variable {span : Option Span} {children : List Outline}

theorem inner_expression (h : EverywhereAll Inner children) :
    (node .expression span children).Everywhere Inner :=
  ⟨⟨nofun, trivial, trivial⟩, h⟩

theorem inner_statement (h : EverywhereAll Inner children) :
    (node .statement span children).Everywhere Inner :=
  ⟨⟨nofun, trivial, trivial⟩, h⟩

end Plain

end Outline

open Outline

namespace Solidity

/-! ### Variables -/

theorem inner_name (n : Name) : n.outline.Everywhere Inner :=
  ⟨⟨nofun, rfl, trivial⟩, trivial⟩

theorem inner_names (names : List Name) : EverywhereAll Inner (names.map Name.outline) := by
  rw [everywhereAll_iff]
  intro o ho
  obtain ⟨n, -, rfl⟩ := List.mem_map.1 ho
  exact inner_name n

theorem inner_declared (span : Span) (name : Option Name) :
    (declared span name).Everywhere Inner := by
  refine ⟨⟨nofun, ?_, trivial⟩, inner_names _⟩
  cases name with
  | none => exact ⟨default, rfl⟩
  | some name => exact ⟨name.span, rfl⟩

theorem declaresVariable_declared (span : Span) (name : Option Name) :
    (declared span name).DeclaresVariable :=
  ⟨_, rfl⟩

theorem inner_parametersOutline (items : List (Option Item)) :
    EverywhereAll Inner (parametersOutline items) := by
  rw [everywhereAll_iff]
  intro o ho
  obtain ⟨i, -, rfl⟩ := List.mem_map.1 ho
  exact inner_declared i.span i.name

theorem declaresVariable_parametersOutline (items : List (Option Item)) :
    ∀ o ∈ parametersOutline items, o.DeclaresVariable := by
  intro o ho
  obtain ⟨i, -, rfl⟩ := List.mem_map.1 ho
  exact declaresVariable_declared i.span i.name

/-- A variable and its value are what a declaration in storage has below it. -/
theorem arranged_variable (v : VariableDef) : Arranged .stateDeclaration v.parts := by
  refine ⟨_, v.value.map Expr.outline, ?_, declaresVariable_declared v.span (some v.name)⟩
  cases hvalue : v.value <;> simp [VariableDef.parts, hvalue]

/-! ### Expressions and statements -/

mutual

theorem inner_expr : ∀ e : Expr, e.outline.Everywhere Inner
  | .name id => inner_name id
  | .bareRevert id => inner_name id
  | .number span digits exponent suffix => ⟨⟨nofun, rfl, trivial⟩, trivial⟩
  | .hexNumber span text suffix => ⟨⟨nofun, rfl, trivial⟩, trivial⟩
  | .strings first more => ⟨⟨nofun, trivial, trivial⟩, trivial⟩
  | .rational span suffix => inner_expression trivial
  | .literal span => inner_expression trivial
  | .elementaryType span => inner_expression trivial
  | .functionType span => inner_expression trivial
  | .paren span inner => inner_expr inner
  | .tuple span items => inner_expression (inner_items items)
  | .array span items => inner_expression (inner_exprs items)
  | .call span callee arguments =>
    ⟨⟨nofun, trivial, _, _, rfl⟩, inner_expr callee, inner_exprs arguments⟩
  | .namedCall span callee arguments =>
    inner_expression ⟨inner_expr callee, inner_arguments arguments⟩
  | .blockCall span callee block => inner_expression ⟨inner_expr callee, inner_stmt block, trivial⟩
  | .member span object member => ⟨⟨nofun, trivial, _, rfl⟩, inner_expr object, trivial⟩
  | .subscript span array index =>
    inner_expression ⟨inner_expr array, inner_optionalExpr index⟩
  | .slice span array first last => by
    refine inner_expression ⟨inner_expr array, ?_⟩
    rw [everywhereAll_append]
    exact ⟨inner_optionalExpr first, inner_optionalExpr last⟩
  | .unary span op operand => inner_expression ⟨inner_expr operand, trivial⟩
  | .binary span op left right => inner_expression ⟨inner_expr left, inner_expr right, trivial⟩
  | .conditional span condition whenTrue whenFalse =>
    inner_expression
      ⟨inner_expr condition, inner_expr whenTrue, inner_expr whenFalse, trivial⟩

theorem inner_optionalExpr : ∀ e : Option Expr, EverywhereAll Inner (Expr.optionalOutline e)
  | none => trivial
  | some e => ⟨inner_expr e, trivial⟩

theorem inner_exprs : ∀ es : List Expr, EverywhereAll Inner (Expr.outlines es)
  | [] => trivial
  | e :: es => ⟨inner_expr e, inner_exprs es⟩

theorem inner_items : ∀ is : List (Option Item), EverywhereAll Inner (Item.outlines is)
  | [] => trivial
  | i :: is => by
    rw [Item.outlines, everywhereAll_append]
    exact ⟨inner_optionalItem i, inner_items is⟩

theorem inner_optionalItem : ∀ i : Option Item, EverywhereAll Inner (Item.optionalOutline i)
  | none => trivial
  | some (.mk _ value _) => ⟨inner_expr value, inner_names _⟩

theorem inner_arguments : ∀ as : List Argument, EverywhereAll Inner (Argument.outlines as)
  | [] => trivial
  | .mk _ value :: rest => ⟨inner_expr value, inner_arguments rest⟩

theorem inner_stmt : ∀ s : Stmt, s.outline.Everywhere Inner
  | .block span statements => ⟨⟨nofun, rfl, trivial⟩, inner_stmts statements⟩
  | .options span arguments => inner_statement (inner_arguments arguments)
  | .declaration span item value => by
    refine ⟨⟨nofun, trivial, [item.declared], value.map Expr.outline, ?_, rfl, ?_⟩,
      inner_declared _ _, inner_optionalExpr value⟩
    · cases value <;> rfl
    · intro o ho
      rw [List.mem_singleton.1 ho]
      exact declaresVariable_declared item.span item.name
  | .expression span value => by
    have hvalue := inner_expr value
    rcases Stmt.outline_expression span value with ⟨whole, place, items, right, rfl, -, h⟩ | h
    · -- The list is not lowered as a value; only what is assigned to it is.
      rw [h]
      refine ⟨⟨nofun, trivial, _, some right.outline, rfl, rfl,
        declaresVariable_parametersOutline items⟩, ?_⟩
      rw [everywhereAll_append]
      exact ⟨inner_parametersOutline items, hvalue.2.2.1, trivial⟩
    · rw [h]
      exact inner_statement ⟨hvalue, trivial⟩
  | .ifElse span condition whenTrue whenFalse =>
    inner_statement ⟨inner_expr condition, inner_stmt whenTrue, inner_optionalStmt whenFalse⟩
  | .whileLoop span condition body =>
    inner_statement ⟨inner_expr condition, inner_stmt body, trivial⟩
  | .doWhile span body condition =>
    inner_statement ⟨inner_stmt body, inner_expr condition, trivial⟩
  | .forLoop span first condition step body => by
    refine inner_statement ?_
    simp only [everywhereAll_append]
    exact ⟨⟨⟨inner_optionalStmt first, inner_optionalExpr condition⟩, inner_optionalExpr step⟩,
      inner_optionalStmt body⟩
  | .ret span value => inner_statement (inner_optionalExpr value)
  | .emit span event => inner_statement ⟨inner_expr event, trivial⟩
  | .revert span error arguments => inner_statement (inner_exprs arguments)
  | .tryCatch span call returns body handlers => by
    refine inner_statement ⟨inner_expr call, ?_⟩
    simp only [everywhereAll_append]
    exact ⟨⟨inner_parametersOutline returns, inner_optionalStmt body⟩, inner_stmts handlers⟩
  | .revertNamed span error arguments => inner_statement trivial
  | .assembly span => inner_statement trivial
  | .jump span => inner_statement trivial

theorem inner_optionalStmt : ∀ s : Option Stmt, EverywhereAll Inner (Stmt.optionalOutline s)
  | none => trivial
  | some s => ⟨inner_stmt s, trivial⟩

theorem inner_stmts : ∀ ss : List Stmt, EverywhereAll Inner (Stmt.outlines ss)
  | [] => trivial
  | s :: ss => ⟨inner_stmt s, inner_stmts ss⟩

end

/-! ### Definitions -/

theorem inner_invocationsOutline (invocations : List Invocation) :
    EverywhereAll Inner (invocationsOutline invocations) := by
  rw [everywhereAll_iff]
  intro o ho
  obtain ⟨i, -, ho⟩ := List.mem_flatMap.1 ho
  exact everywhereAll_iff.1 (inner_exprs _) o ho

theorem inner_function (f : FunctionDef) : f.outline.Everywhere Inner := by
  refine ⟨⟨nofun, trivial, trivial⟩, ?_⟩
  simp only [everywhereAll_append]
  exact ⟨⟨⟨inner_parametersOutline _, inner_invocationsOutline _⟩, inner_parametersOutline _⟩,
    inner_optionalStmt _⟩

theorem inner_variable (v : VariableDef) : EverywhereAll Inner v.parts :=
  ⟨inner_declared v.span (some v.name), inner_optionalExpr v.value⟩

theorem shaped_contractPart (p : ContractPart) : EverywhereAll Shaped p.outlines := by
  cases p with
  | state v =>
      have hparts := inner_variable v
      refine ⟨⟨⟨trivial, arranged_variable v, fun o ho hform => ?_⟩, shaped_of_inner hparts⟩,
        trivial⟩
      exact absurd hform (form_ne_of_inner (everywhereAll_iff.1 hparts o ho))
  | function f => exact shaped_of_inner ⟨inner_function f, trivial⟩
  | other => trivial

theorem shaped_contract (c : ContractDef) : c.outline.Everywhere Shaped := by
  refine ⟨⟨trivial, trivial, fun _ _ _ => ⟨_, rfl⟩⟩, ?_⟩
  rw [everywhereAll_append]
  refine ⟨shaped_of_inner (inner_invocationsOutline _), everywhereAll_iff.2 fun o ho => ?_⟩
  obtain ⟨p, -, ho⟩ := List.mem_flatMap.1 ho
  exact everywhereAll_iff.1 (shaped_contractPart p) o ho

/-- Below no contract nothing is declared in storage. -/
theorem shaped_sourcePart (p : SourcePart) :
    EverywhereAll Shaped p.outlines ∧ ∀ o ∈ p.outlines, o.form ≠ .stateDeclaration := by
  cases p with
  | contract c =>
      refine ⟨⟨shaped_contract c, trivial⟩, fun o ho => ?_⟩
      rw [List.mem_singleton.1 ho]
      exact nofun
  | function f =>
      refine ⟨shaped_of_inner ⟨inner_function f, trivial⟩, fun o ho => ?_⟩
      rw [List.mem_singleton.1 ho]
      exact nofun
  | constant v =>
      refine ⟨shaped_of_inner ⟨inner_statement (inner_variable v), trivial⟩, fun o ho => ?_⟩
      rw [List.mem_singleton.1 ho]
      exact nofun
  | other => exact ⟨trivial, fun o ho => absurd ho List.not_mem_nil⟩

/-- **The nodes of a file have their shapes**, and none of those at the top declares storage. -/
theorem shaped_outlines (unit : SourceUnit) :
    EverywhereAll Shaped (outlines unit) ∧ ∀ o ∈ outlines unit, o.form ≠ .stateDeclaration := by
  rw [everywhereAll_iff, ← forall₂_and]
  intro o ho
  obtain ⟨p, -, ho⟩ := List.mem_flatMap.1 ho
  obtain ⟨hshaped, htop⟩ := shaped_sourcePart p
  exact ⟨everywhereAll_iff.1 hshaped o ho, htop o ho⟩

end Solidity

end AddressTrace
