import AddressTrace.Solidity.Parser.File
import AddressTrace.Tree.Outline

/-!
# The tree of a source file

How the syntax of a file is outlined.  Every expression becomes one node, parentheses aside, which
have none of their own; every statement becomes one node.  Types written with reserved words,
truth values, fractions and the literals that are no numbers become bare nodes without a place,
and so do assembly, jumps and reverts with named arguments.

## Main definitions

* `Solidity.Expr.outline`, `Solidity.Stmt.outline` — the nodes of an expression or statement;
* `Solidity.outlines` — the nodes of a file;
* `SyntaxTree.ofSource?` — the tree of a source text, if it follows the grammar.
-/

namespace AddressTrace.Solidity

open Text

/-- An identifier. -/
def Name.outline (name : Name) : Outline :=
  .node (.identifier name.text) (some name.span) []

/-- **A declared variable** on these bytes: its declaring identifier is its only child. -/
def declared (span : Span) (name : Option Name) : Outline :=
  .node (.declared (name.map (·.text))) (some span) (name.toList.map Name.outline)

/-- The variable that an item declares. -/
def Item.declared (i : Item) : Outline :=
  Solidity.declared i.span i.name

/-- The variables that parameters declare; an empty slot declares none. -/
def parametersOutline (items : List (Option Item)) : List Outline :=
  (items.filterMap id).map Item.declared

/-- Does a list declare a variable? -/
def declaresAny (items : List (Option Item)) : Bool :=
  items.any fun i => ((i.bind Item.name).map fun _ => true).getD false

/-- A number as it is reported: its digits, and its exponent if it has one. -/
def decimalText (digits exponent : String) : String :=
  if exponent.isEmpty then digits else digits ++ "e" ++ exponent

/-- The last of some adjacent literals. -/
def lastPart (first : StringPart) (more : List StringPart) : StringPart :=
  more.getLastD first

/-- The text of some adjacent literals. -/
def joinedText (parts : List StringPart) : String :=
  String.join (parts.map (·.value))

mutual

/-- **The nodes of an expression.** -/
def Expr.outline : Expr → Outline
  | .name id => id.outline
  | .bareRevert id => id.outline
  | .number span digits exponent _ => .node (.number (decimalText digits exponent)) (some span) []
  | .hexNumber span text _ => .node (.number text) (some span) []
  | .strings first more =>
    .node (.string (joinedText (first :: more)))
      (some (first.span.join (lastPart first more).span)) []
  | .rational .. | .literal _ | .elementaryType _ | .functionType _ => .node .expression none []
  | .paren _ inner => inner.outline
  | .tuple span items => .node .expression (some span) (Item.outlines items)
  | .array span items => .node .expression (some span) (Expr.outlines items)
  | .call span callee arguments =>
    .node .call (some span) (callee.outline :: Expr.outlines arguments)
  | .namedCall span callee arguments =>
    .node .expression (some span) (callee.outline :: Argument.outlines arguments)
  | .blockCall span callee block =>
    .node .expression (some span) [callee.outline, block.outline]
  | .member span object member => .node (.member member.text) (some span) [object.outline]
  | .subscript span array index =>
    .node .expression (some span) (array.outline :: Expr.optionalOutline index)
  | .slice span array first last =>
    .node .expression (some span)
      (array.outline :: (Expr.optionalOutline first ++ Expr.optionalOutline last))
  | .unary span _ operand => .node .expression (some span) [operand.outline]
  | .binary span _ left right => .node .expression (some span) [left.outline, right.outline]
  | .conditional span condition whenTrue whenFalse =>
    .node .expression (some span) [condition.outline, whenTrue.outline, whenFalse.outline]

/-- The nodes of an expression that may be missing. -/
def Expr.optionalOutline : Option Expr → List Outline
  | none => []
  | some e => [e.outline]

/-- The nodes of some expressions. -/
def Expr.outlines : List Expr → List Outline
  | [] => []
  | e :: es => e.outline :: Expr.outlines es

/-- The values of the items of a list, each followed by the name declared with it. -/
def Item.outlines : List (Option Item) → List Outline
  | [] => []
  | i :: is => Item.optionalOutline i ++ Item.outlines is

/-- The value of an item and its name. -/
def Item.optionalOutline : Option Item → List Outline
  | none => []
  | some (.mk _ value name) => value.outline :: name.toList.map Name.outline

/-- The values of named arguments. -/
def Argument.outlines : List Argument → List Outline
  | [] => []
  | .mk _ value :: rest => value.outline :: Argument.outlines rest

/-- **The nodes of a statement.** -/
def Stmt.outline : Stmt → Outline
  | .block span statements => .node .block (some span) (Stmt.outlines statements)
  | .options span arguments => .node .statement (some span) (Argument.outlines arguments)
  | .declaration span item value =>
    .node (.localDeclaration 1) (some span) (item.declared :: Expr.optionalOutline value)
  | .expression span (.binary whole "=" (.tuple place items) right) =>
    if declaresAny items then
      let declared := parametersOutline items
      .node (.localDeclaration declared.length) (some span) (declared ++ [right.outline])
    else
      .node .statement (some span)
        [.node .expression (some whole)
          [.node .expression (some place) (Item.outlines items), right.outline]]
  | .expression span value => .node .statement (some span) [value.outline]
  | .ifElse span condition whenTrue whenFalse =>
    .node .statement (some span)
      (condition.outline :: whenTrue.outline :: Stmt.optionalOutline whenFalse)
  | .whileLoop span condition body =>
    .node .statement (some span) [condition.outline, body.outline]
  | .doWhile span body condition =>
    .node .statement (some span) [body.outline, condition.outline]
  | .forLoop span first condition step body =>
    .node .statement (some span)
      (Stmt.optionalOutline first ++ Expr.optionalOutline condition
        ++ Expr.optionalOutline step ++ Stmt.optionalOutline body)
  | .ret span value => .node .statement (some span) (Expr.optionalOutline value)
  | .emit span event => .node .statement (some span) [event.outline]
  | .revert span _ arguments => .node .statement (some span) (Expr.outlines arguments)
  | .tryCatch span call returns body handlers =>
    .node .statement (some span)
      (call.outline :: (parametersOutline returns ++ Stmt.optionalOutline body
        ++ Stmt.outlines handlers))
  | .revertNamed .. | .assembly _ | .jump _ => .node .statement none []

/-- The nodes of a statement that may be missing. -/
def Stmt.optionalOutline : Option Stmt → List Outline
  | none => []
  | some s => [s.outline]

/-- The nodes of some statements. -/
def Stmt.outlines : List Stmt → List Outline
  | [] => []
  | s :: ss => s.outline :: Stmt.outlines ss

end

/-- The arguments given to bases and modifiers. -/
def invocationsOutline (invocations : List Invocation) : List Outline :=
  invocations.flatMap fun i => Expr.outlines (i.arguments.getD [])

/-- **The nodes of a function**: its parameters, the arguments of its modifiers, its results and
its body. -/
def FunctionDef.outline (f : FunctionDef) : Outline :=
  .node (.function (f.name.map (·.text))) (some f.span)
    (parametersOutline f.parameters ++ invocationsOutline f.invocations
      ++ parametersOutline f.returns ++ Stmt.optionalOutline f.body)

/-- The variable and the value of a definition. -/
def VariableDef.parts (v : VariableDef) : List Outline :=
  declared v.span (some v.name) :: Expr.optionalOutline v.value

/-- **The nodes of a part of a contract**, none for those that hold no value. -/
def ContractPart.outlines : ContractPart → List Outline
  | .state v => [.node .stateDeclaration (some v.span) v.parts]
  | .function f => [f.outline]
  | .other => []

/-- **The nodes of a contract**: the arguments of its bases and its parts. -/
def ContractDef.outline (c : ContractDef) : Outline :=
  .node (.contract (some c.name.text)) (some c.span)
    (invocationsOutline c.bases ++ c.parts.flatMap ContractPart.outlines)

/-- **The nodes of a part of a file.**  A variable outside all contracts is not part of the
storage of one, so it is an ordinary statement. -/
def SourcePart.outlines : SourcePart → List Outline
  | .contract c => [c.outline]
  | .function f => [f.outline]
  | .constant v => [.node .statement (some v.span) v.parts]
  | .other => []

/-- The nodes of a file. -/
def outlines (unit : SourceUnit) : List Outline :=
  unit.flatMap SourcePart.outlines

end AddressTrace.Solidity

namespace AddressTrace.SyntaxTree

/-- **The tree of a source text**, or nothing when it does not follow the grammar. -/
def ofSource? (source : String) : Option SyntaxTree :=
  (Solidity.sourceUnit? source).map fun unit => ofOutlines (Solidity.outlines unit)

end AddressTrace.SyntaxTree
