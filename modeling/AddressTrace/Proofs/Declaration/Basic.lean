import AddressTrace.Declaration.Local
import AddressTrace.Declaration.State
import AddressTrace.Proofs.Tree.Kinds
import AddressTrace.Reference.Basic

/-!
# Declarations and their identifiers

In a tree whose nodes mention their own children a declaration is made by the node two steps above
its identifier.  So no two declarations of a tree share an identifier, be they local or in the
storage of a contract.  Both sorts are found alike, so what follows is said once, of a function that
declares.

## Main definitions

* `Declaration.MadeBy` — the node that makes a declaration;
* `Declares` — a function that finds the declarations of local or of state variables;
* `Declaration.IsBelowVariable` — the node around the identifier of a declaration;
* `Declaration.InitializedBy` — the literal that a declaration takes its address from.

## Main statements

* `declares_local`, `declares_state` — both sorts of declarations;
* `Declares.nodup_identifiers` — the declarations of different nodes have different identifiers;
* `Declares.exists_initializedBy` — a declaration takes its address from a literal.
-/

namespace AddressTrace

open Text SyntaxTree

variable {t : SyntaxTree}

theorem addressLiteral?_eq_some {id : NodeId} {address : String} :
    addressLiteral? t id = some address ↔
      t.kind? id = some (.number address) ∧ Address.isAddressLike address := by
  unfold addressLiteral?
  constructor
  · intro h
    split at h
    · next hkind =>
        split at h
        · next hlike =>
            cases h
            exact ⟨hkind, hlike⟩
        · cases h
    · cases h
  · rintro ⟨hkind, hlike⟩
    rw [hkind]
    exact if_pos hlike

theorem addressDeclaration?_eq_some {parent : Option NodeId} {ids : List NodeId}
    {value : Option NodeId} {d : Declaration} :
    addressDeclaration? t parent ids value = some d ↔
      ∃ declared literal, ids = [declared] ∧ value = some literal ∧ d.parent = parent ∧
        t.kind? declared = some (.declared (some d.name) (some d.identifier)) ∧
        addressLiteral? t literal = some d.address := by
  constructor
  · intro h
    unfold addressDeclaration? at h
    split at h
    · next address declared hvalue =>
        obtain ⟨literal, rfl, haddress⟩ := Option.bind_eq_some_iff.1 hvalue
        obtain ⟨⟨name, identifier⟩, hname, rfl⟩ := Option.map_eq_some_iff.1 h
        refine ⟨declared, literal, rfl, rfl, rfl, ?_, haddress⟩
        unfold declaredName? at hname
        split at hname
        · next hkind =>
            cases hname
            exact hkind
        · cases hname
    · cases h
  · rintro ⟨declared, literal, rfl, rfl, rfl, hkind, haddress⟩
    have hname : declaredName? t declared = some (d.name, d.identifier) := by
      simp only [declaredName?, hkind]
    simp only [addressDeclaration?, Option.bind_some, haddress, hname, Option.map_some]

/-- **The node that makes a declaration**: it stands where the declaration stands, two steps above
the declaring identifier, which has the name of the declaration. -/
structure Declaration.MadeBy (d : Declaration) (t : SyntaxTree) (id : NodeId) : Prop where
  parent_eq : d.parent = t.parent? id
  kind?_identifier : t.kind? d.identifier = some (.identifier d.name)
  grandparent?_identifier : t.grandparent? d.identifier = some id

/-! ### Functions that declare -/

/-- **The declaration of exactly one variable with a value**, be it a local variable or one in the
storage of a contract. -/
inductive DeclaresOne (declared value : NodeId) : Origin → NodeKind → Prop
  | local : DeclaresOne declared value .variable (.localDeclaration [declared] (some value))
  | state : DeclaresOne declared value .state (.stateDeclaration declared (some value))

theorem DeclaresOne.mem_mentioned {declared value : NodeId} {origin : Origin} {k : NodeKind}
    (h : DeclaresOne declared value origin k) : declared ∈ k.mentioned := by
  cases h <;> exact List.mem_cons_self

/-- **A function declares variables of a sort**: what it finds for a node is made up of the one
variable and the value that the node mentions. -/
def Declares (t : SyntaxTree) (origin : Origin) (f : NodeId → Option Declaration) : Prop :=
  ∀ id d, f id = some d → ∃ k declared literal, t.kind? id = some k ∧
    DeclaresOne declared literal origin k ∧
    addressDeclaration? t (t.parent? id) [declared] (some literal) = some d

theorem declares_local : Declares t .variable (localDeclaration? t) := by
  intro id d h
  unfold localDeclaration? at h
  split at h
  · next hkind =>
      obtain ⟨declared, literal, rfl, rfl, -⟩ := addressDeclaration?_eq_some.1 h
      exact ⟨_, declared, literal, hkind, .local, h⟩
  · cases h

theorem declares_state : Declares t .state (stateDeclaration? t) := by
  intro id d h
  unfold stateDeclaration? at h
  split at h
  · next declared _ hkind =>
      obtain ⟨_, literal, -, rfl, -⟩ := addressDeclaration?_eq_some.1 h
      exact ⟨_, declared, literal, hkind, .state, h⟩
  · cases h

section Declares

variable {origin : Origin} {f : NodeId → Option Declaration} {ids : List NodeId} {d : Declaration}

/-- A declaration is made by its node. -/
theorem Declares.madeBy (h : Declares t origin f) (hl : t.Linked) (hk : t.WellKinded) {id : NodeId}
    (hd : f id = some d) : d.MadeBy t id := by
  obtain ⟨k, declared, literal, hkind, hone, hmade⟩ := h id d hd
  obtain ⟨_, _, heq, -, hparent, hdeclared, -⟩ := addressDeclaration?_eq_some.1 hmade
  cases heq
  obtain ⟨hname, hgrand⟩ := hk.declaring hl hkind hone.mem_mentioned hdeclared
  exact ⟨hparent, hname, hgrand⟩

/-- A declaration is made by some node. -/
theorem Declares.exists_madeBy (h : Declares t origin f) (hl : t.Linked) (hk : t.WellKinded)
    (hd : d ∈ ids.filterMap f) : ∃ id, d.MadeBy t id := by
  obtain ⟨id, -, hd⟩ := List.mem_filterMap.1 hd
  exact ⟨id, h.madeBy hl hk hd⟩

/-- **The declarations of different nodes have different identifiers.** -/
theorem Declares.nodup_identifiers (h : Declares t origin f) (hl : t.Linked) (hk : t.WellKinded)
    (hids : ids.Nodup) : ((ids.filterMap f).map (·.identifier)).Nodup := by
  rw [List.Nodup, List.pairwise_map, List.pairwise_filterMap]
  refine hids.imp fun {a b} hne d hd e he heq => hne ?_
  have hda := (h.madeBy hl hk hd).grandparent?_identifier
  have heb := (h.madeBy hl hk he).grandparent?_identifier
  rw [heq] at hda
  exact Option.some.inj (hda.symm.trans heb)

end Declares

/-! ### Around a declaring identifier -/

/-- **A declaring identifier stands below the variable that it declares.** -/
def Declaration.IsBelowVariable (d : Declaration) (t : SyntaxTree) : Prop :=
  ∃ declared name, t.parent? d.identifier = some declared ∧
    t.kind? declared = some (.declared name (some d.identifier))

theorem Declares.isBelowVariable {origin : Origin} {f : NodeId → Option Declaration}
    (h : Declares t origin f) (hl : t.Linked) (hk : t.WellKinded) {ids : List NodeId}
    {d : Declaration} (hd : d ∈ ids.filterMap f) : d.IsBelowVariable t := by
  obtain ⟨id, -, hd⟩ := List.mem_filterMap.1 hd
  obtain ⟨_, declared, _, -, -, hmade⟩ := h id d hd
  obtain ⟨_, _, -, -, -, hdeclared, -⟩ := addressDeclaration?_eq_some.1 hmade
  have hchild : d.identifier ∈ t.children _ :=
    hk.mem_children _ (lt_size_of_kind? hdeclared) _ hdeclared d.identifier List.mem_cons_self
  exact ⟨_, some d.name, hl.mem_children.1 hchild, hdeclared⟩

/-! ### The literal of a declaration -/

/-- **The literal that a declaration takes its address from**: a node of the tree declares exactly
the variable of the declaration, with the literal as its value. -/
def Declaration.InitializedBy (d : Declaration) (t : SyntaxTree) (origin : Origin)
    (literal : NodeId) : Prop :=
  ∃ statement kind declared, t.kind? statement = some kind ∧
    DeclaresOne declared literal origin kind ∧
    t.kind? declared = some (.declared (some d.name) (some d.identifier)) ∧
    t.kind? literal = some (.number d.address)

theorem Declaration.InitializedBy.kind?_literal {d : Declaration} {origin : Origin}
    {literal : NodeId} (h : d.InitializedBy t origin literal) :
    t.kind? literal = some (.number d.address) := by
  obtain ⟨_, _, _, -, -, -, hkind⟩ := h
  exact hkind

/-- A declaration takes its address from a literal that looks like one. -/
theorem Declares.exists_initializedBy {origin : Origin} {f : NodeId → Option Declaration}
    (h : Declares t origin f) {ids : List NodeId} {d : Declaration} (hd : d ∈ ids.filterMap f) :
    (∃ literal, d.InitializedBy t origin literal) ∧ Address.isAddressLike d.address := by
  obtain ⟨statement, -, hd⟩ := List.mem_filterMap.1 hd
  obtain ⟨k, declared, literal, hkind, hone, hmade⟩ := h statement d hd
  obtain ⟨_, _, hids, hvalue, -, hdeclared, haddress⟩ := addressDeclaration?_eq_some.1 hmade
  cases hids
  cases hvalue
  obtain ⟨hliteral, hlike⟩ := addressLiteral?_eq_some.1 haddress
  exact ⟨⟨literal, statement, k, declared, hkind, hone, hdeclared, hliteral⟩, hlike⟩

end AddressTrace
