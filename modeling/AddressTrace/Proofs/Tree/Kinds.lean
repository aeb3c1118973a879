import AddressTrace.Proofs.Tree.Walk

/-!
# What kinds mention

A kind may mention any nodes.  In the trees of sources a node mentions its own children only, and a
declared variable has the name of the identifier that declares it; then a declaring identifier
tells which declaration it belongs to.  Whether the nodes that scopes depend on can be told apart by
the offsets at which they begin is a separate condition.

## Main definitions

* `NodeKind.mentioned` — the nodes that a kind mentions;
* `SyntaxTree.WellKinded` — a tree in which nodes mention their own children;
* `SyntaxTree.Located` — a tree in which blocks and identifiers begin at places of their own.

All of these can be evaluated on a given tree.
-/

namespace AddressTrace

open Text

/-- **The nodes that a kind mentions.** -/
def NodeKind.mentioned : NodeKind → List NodeId
  | .localDeclaration ids value => ids ++ value.toList
  | .stateDeclaration id value => id :: value.toList
  | .declared _ id => id.toList
  | .call callee arguments => callee :: arguments
  | .member object _ => [object]
  | _ => []

/-- Is this the kind of an identifier? -/
def NodeKind.isIdentifier : NodeKind → Bool
  | .identifier _ => true
  | _ => false

namespace SyntaxTree

/-- A variable declared with a name and an identifier has the name of the identifier. -/
def NamesAgree (t : SyntaxTree) : NodeKind → Prop
  | .declared (some name) (some identifier) => t.kind? identifier = some (.identifier name)
  | _ => True

instance (t : SyntaxTree) : DecidablePred t.NamesAgree
  | .declared (some name) (some identifier) =>
    inferInstanceAs (Decidable (t.kind? identifier = some (.identifier name)))
  | .declared none _ | .declared (some _) none => isTrue trivial
  | .sourceUnit | .contract _ | .function _ | .block | .localDeclaration _ _
  | .stateDeclaration _ _ | .identifier _ | .number _ | .string _ | .call _ _ | .member _ _
  | .expression | .statement => isTrue trivial

/-- **A tree in which nodes mention their own children**, and declared variables have the names of
their declaring identifiers. -/
structure WellKinded (t : SyntaxTree) : Prop where
  mem_children : ∀ id < t.size, ∀ k ∈ t.kind? id, ∀ c ∈ k.mentioned, c ∈ t.children id
  names_agree : ∀ id < t.size, ∀ k ∈ t.kind? id, t.NamesAgree k

instance (t : SyntaxTree) : Decidable t.WellKinded :=
  decidable_of_iff
    ((∀ id < t.size, ∀ k ∈ t.kind? id, ∀ c ∈ k.mentioned, c ∈ t.children id)
      ∧ ∀ id < t.size, ∀ k ∈ t.kind? id, t.NamesAgree k)
    ⟨fun h => ⟨h.1, h.2⟩, fun h => ⟨h.1, h.2⟩⟩

/-- The offset at which a node begins. -/
def start? (t : SyntaxTree) (id : NodeId) : Option Nat := (t.span? id).map (·.start)

/-- Is the kind of a node one of these? -/
def isKind (t : SyntaxTree) (p : NodeKind → Bool) (id : NodeId) : Bool := (t.kind? id).any p

/-- The nodes of some kinds have known places. -/
def Placed (t : SyntaxTree) (p : NodeKind → Bool) : Prop :=
  ∀ id < t.size, t.isKind p id → (t.span? id).isSome

instance (t : SyntaxTree) (p : NodeKind → Bool) : Decidable (t.Placed p) :=
  inferInstanceAs (Decidable (∀ id < t.size, t.isKind p id → (t.span? id).isSome))

/-- No two nodes of some kinds begin at one offset. -/
def Apart (t : SyntaxTree) (p : NodeKind → Bool) : Prop :=
  ∀ a < t.size, ∀ b < t.size, t.isKind p a → t.isKind p b → t.start? a = t.start? b → a = b

instance (t : SyntaxTree) (p : NodeKind → Bool) : Decidable (t.Apart p) :=
  inferInstanceAs (Decidable (∀ a < t.size, ∀ b < t.size, t.isKind p a → t.isKind p b →
    t.start? a = t.start? b → a = b))

/-- **A tree in which blocks and identifiers begin at places of their own**: each has a known
place, no two blocks begin at one offset, and no two identifiers do. -/
structure Located (t : SyntaxTree) : Prop where
  blocks_placed : t.Placed (· = .block)
  blocks_apart : t.Apart (· = .block)
  identifiers_placed : t.Placed NodeKind.isIdentifier
  identifiers_apart : t.Apart NodeKind.isIdentifier

instance (t : SyntaxTree) : Decidable t.Located :=
  decidable_of_iff
    (t.Placed (· = .block) ∧ t.Apart (· = .block) ∧ t.Placed NodeKind.isIdentifier
      ∧ t.Apart NodeKind.isIdentifier)
    ⟨fun h => ⟨h.1, h.2.1, h.2.2.1, h.2.2.2⟩, fun h => ⟨h.1, h.2, h.3, h.4⟩⟩

/-! ### Identifying nodes by their places -/

theorem isKind_of_kind? {t : SyntaxTree} {p : NodeKind → Bool} {id : NodeId} {k : NodeKind}
    (hk : t.kind? id = some k) (hp : p k) : t.isKind p id := by
  rw [isKind, hk]
  exact hp

theorem Placed.exists_span {t : SyntaxTree} {p : NodeKind → Bool} (h : t.Placed p)
    {id : NodeId} {k : NodeKind} (hk : t.kind? id = some k) (hp : p k) :
    ∃ span, t.span? id = some span :=
  Option.isSome_iff_exists.1 (h id (lt_size_of_kind? hk) (isKind_of_kind? hk hp))

/-- Two nodes of these kinds that begin at one offset are one node. -/
theorem Apart.eq_of_start_eq {t : SyntaxTree} {p : NodeKind → Bool} (h : t.Apart p)
    {a b : NodeId} {k l : NodeKind} {s s' : Span} (hk : t.kind? a = some k) (hp : p k)
    (hl : t.kind? b = some l) (hq : p l) (ha : t.span? a = some s) (hb : t.span? b = some s')
    (heq : s.start = s'.start) : a = b := by
  refine h a (lt_size_of_kind? hk) b (lt_size_of_kind? hl) (isKind_of_kind? hk hp)
    (isKind_of_kind? hl hq) ?_
  rw [start?, start?, ha, hb, Option.map_some, Option.map_some, heq]

/-! ### Declaring identifiers -/

/-- The node around the node around a node. -/
def grandparent? (t : SyntaxTree) (id : NodeId) : Option NodeId := (t.parent? id).bind t.parent?

/-- The identifier of a variable that a node mentions is an identifier of that name, two steps below
the node. -/
theorem WellKinded.declaring {t : SyntaxTree} (hl : t.Linked) (h : t.WellKinded)
    {id declared identifier : NodeId} {k : NodeKind} {name : String} (hk : t.kind? id = some k)
    (hm : declared ∈ k.mentioned)
    (hd : t.kind? declared = some (.declared (some name) (some identifier))) :
    t.kind? identifier = some (.identifier name) ∧ t.grandparent? identifier = some id := by
  have hlt := lt_size_of_kind? hd
  have hchild : identifier ∈ t.children declared :=
    h.mem_children declared hlt _ hd identifier List.mem_cons_self
  have hparent : t.parent? declared = some id :=
    hl.mem_children.1 (h.mem_children id (lt_size_of_kind? hk) k hk declared hm)
  refine ⟨h.names_agree declared hlt _ hd, ?_⟩
  rw [grandparent?, hl.mem_children.1 hchild, Option.bind_some, hparent]

end SyntaxTree

end AddressTrace
