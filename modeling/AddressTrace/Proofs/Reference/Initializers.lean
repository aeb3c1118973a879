import AddressTrace.Proofs.Reference.Hardcoded
import AddressTrace.Proofs.Reference.Scopes
import AddressTrace.Proofs.Reference.StateUses

/-!
# Where addresses of variables come from

Every address that is reported for a variable is written down in the file.  It comes from the
literal that is the value of a declaration of exactly one variable, which has the name of the
reported identifier, and the pass over literals reports this literal with the same address.  Through
both tables the address goes unchanged.

## Main statements

* `exists_initializedBy_of_mem_findings` — what is found takes its address from a literal;
* `variable_address_of_literal` — the literal is reported in the same run.
-/

namespace AddressTrace

open Text SyntaxTree

/-- Is this the kind of a number? -/
def NodeKind.isNumber : NodeKind → Bool
  | .number _ => true
  | _ => false

variable {t : SyntaxTree}

section

variable {libraries : LinkedLibraries} {passes : List Pass}

/-- **A finding of a variable takes its address from a literal** whose declaration has the name of
the identifier that was found. -/
theorem exists_initializedBy_of_mem_findings (hl : t.Linked) (hk : t.WellKinded) {p : Pass}
    (hp : p = .locals ∨ p = .state) {f : Finding}
    (hf : f ∈ p.findings t (.ofTree t) libraries) :
    ∃ (d : Declaration) (literal : NodeId), t.kind? f.node = some (.identifier d.name) ∧
      f.resolution = .resolved d.address ∧ d.InitializedBy t p.origin literal ∧
      Address.isAddressLike d.address := by
  rcases hp with rfl | rfl
  · obtain ⟨d, hd, hkind, hresolution⟩ := exists_declaration_of_mem_localFindings hl hk hf
    obtain ⟨⟨literal, hliteral⟩, hlike⟩ := declares_local.exists_initializedBy hd
    exact ⟨d, literal, hkind, hresolution, hliteral, hlike⟩
  · obtain ⟨d, hd, hkind, hresolution⟩ := exists_declaration_of_mem_stateFindings hl hk hf
    obtain ⟨⟨literal, hliteral⟩, hlike⟩ := declares_state.exists_initializedBy hd
    exact ⟨d, literal, hkind, hresolution, hliteral, hlike⟩

/-- An address literal with a known place is reported whenever the pass over literals is run. -/
theorem exists_hardcoded_reference (hl : t.Linked) (hn : t.Placed NodeKind.isNumber)
    (file : SourceFile) {ds : Declarations} (hp : .hardcoded ∈ passes) {literal : NodeId}
    {address : String} (hkind : t.kind? literal = some (.number address))
    (hlike : Address.isAddressLike address) :
    ∃ h ∈ (collect file t ds libraries passes).references,
      file.reference? t ⟨literal, t.parent? literal, .resolved address, .hardcoded⟩ = some h := by
  obtain ⟨span, hspan⟩ := hn.exists_span hkind rfl
  have hfinding : ⟨literal, t.parent? literal, .resolved address, .hardcoded⟩ ∈
      Pass.findings t ds libraries .hardcoded :=
    List.mem_filterMap.2 ⟨literal, hl.mem_walk.2 (lt_size_of_kind? hkind),
      hardcodedFinding?_eq_some.2 ⟨address, hkind, hlike, rfl⟩⟩
  obtain ⟨h, hreference⟩ := file.exists_reference?
    (f := ⟨literal, t.parent? literal, .resolved address, .hardcoded⟩) hspan
  exact ⟨h, mem_references_collect.2 ⟨.hardcoded, hp, _, hfinding, hreference⟩, hreference⟩

/-- **No address of a variable is invented.**  In a run with the pass over literals, every reference
of a local or state variable, be it a declaration or a use, has the address of a literal that is
reported in the same run.  The literal is the value of a declaration of exactly one variable, which
has the name of the reported identifier, and the address looks like one. -/
theorem variable_address_of_literal (hb : t.Built) (hk : t.WellKinded)
    (hn : t.Placed NodeKind.isNumber) (file : SourceFile) (libraries : LinkedLibraries)
    (hp : .hardcoded ∈ passes) {r : Reference}
    (hr : r ∈ (collect file t (.ofTree t) libraries passes).references)
    (horigin : r.origin = .variable ∨ r.origin = .state) :
    ∃ p ∈ passes, ∃ f ∈ p.findings t (.ofTree t) libraries,
      ∃ (d : Declaration) (literal : NodeId),
      file.reference? t f = some r ∧ t.kind? f.node = some (.identifier d.name) ∧
      d.InitializedBy t r.origin literal ∧ Address.isAddressLike d.address ∧
      r.resolution = .resolved d.address ∧
      ∃ h ∈ (collect file t (.ofTree t) libraries passes).references,
        h.origin = .hardcoded ∧ h.address = r.address ∧
        file.reference? t ⟨literal, t.parent? literal, .resolved d.address, .hardcoded⟩
          = some h := by
  obtain ⟨p, hvariable, heq⟩ : ∃ p, (p = .locals ∨ p = .state) ∧ r.origin = Pass.origin p := by
    rcases horigin with h | h
    · exact ⟨.locals, .inl rfl, h⟩
    · exact ⟨.state, .inr rfl, h⟩
  obtain ⟨hmem, f, hf, href⟩ := exists_finding_of_origin hr heq
  obtain ⟨d, literal, hkind, hresolution, hinitialized, hlike⟩ :=
    exists_initializedBy_of_mem_findings hb.linked hk hvariable hf
  obtain ⟨h, hh, hreference⟩ :=
    exists_hardcoded_reference hb.linked hn file hp hinitialized.kind?_literal hlike
  have hr' : r.resolution = .resolved d.address := by
    rw [(reference?_eq_some href).2.1, hresolution]
  obtain ⟨-, hh', hhardcoded, -⟩ := reference?_eq_some hreference
  refine ⟨p, hmem, f, hf, d, literal, href, hkind, ?_, hlike, hr', h, hh, hhardcoded, ?_,
    hreference⟩
  · rw [heq]
    exact hinitialized
  · rw [Reference.address, Reference.address, hh', hr']

end

/-- A contract with a state variable `s`, and a function that declares `a` and uses both. -/
def initializedVariables : SyntaxTree := ofOutlines
  [.node (.contract (some "c")) (some ⟨0, 200⟩)
    [.node .stateDeclaration (some ⟨13, 70⟩)
        [.node (.declared (some "s")) (some ⟨13, 22⟩) [letterAt "s" 21],
          literalAt 25 "0x2222222222222222222222222222222222222222"],
      .node .block (some ⟨80, 190⟩)
        [addressAt 90 (literalAt 102 "0x1111111111111111111111111111111111111111") 144,
          letterAt "a" 150, letterAt "s" 160]]]

/-- The references of this contract. -/
def initializedReferences : List Reference :=
  (collect (.ofText "/c.sol" "c" "") initializedVariables (.ofTree initializedVariables) .empty
    Pass.all).references

/-- The uses of both variables have the addresses of literals that are reported. -/
theorem variable_address_of_literal_uses :
    (∃ r ∈ initializedReferences, r.origin = .variable ∧ r.span = ⟨150, 151⟩ ∧
      ∃ h ∈ initializedReferences, h.origin = .hardcoded ∧ h.address = r.address) ∧
    ∃ r ∈ initializedReferences, r.origin = .state ∧ r.span = ⟨160, 161⟩ ∧
      ∃ h ∈ initializedReferences, h.origin = .hardcoded ∧ h.address = r.address := by
  have hb : initializedVariables.Built := built_ofOutlines _
  have hk : initializedVariables.WellKinded := by decide +kernel
  have hn : initializedVariables.Placed NodeKind.isNumber := by decide +kernel
  have hp : Pass.hardcoded ∈ Pass.all := by decide
  constructor
  · obtain ⟨r, hr, horigin, hspan⟩ : ∃ r ∈ initializedReferences,
        r.origin = .variable ∧ r.span = ⟨150, 151⟩ := by
      decide +kernel
    obtain ⟨_, -, _, -, _, _, -, -, -, -, -, h, hh, hhardcoded, haddress, -⟩ :=
      variable_address_of_literal hb hk hn (.ofText "/c.sol" "c" "") .empty hp hr (.inl horigin)
    exact ⟨r, hr, horigin, hspan, h, hh, hhardcoded, haddress⟩
  · obtain ⟨r, hr, horigin, hspan⟩ : ∃ r ∈ initializedReferences,
        r.origin = .state ∧ r.span = ⟨160, 161⟩ := by
      decide +kernel
    obtain ⟨_, -, _, -, _, _, -, -, -, -, -, h, hh, hhardcoded, haddress, -⟩ :=
      variable_address_of_literal hb hk hn (.ofText "/c.sol" "c" "") .empty hp hr (.inr horigin)
    exact ⟨r, hr, horigin, hspan, h, hh, hhardcoded, haddress⟩

end AddressTrace
