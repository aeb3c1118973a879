import AddressTrace.Proofs.Reference.Scopes
import AddressTrace.Proofs.Reference.StateUses

/-!
# Calls and references agree

The pass over calls gives an identifier the value of the local variable that governs it, or else of
the state variable that it stands for.  The passes over variables look at the same identifiers on
their own, and leave out those that declare a variable.  What a call takes a text from stands in the
arguments of a call, so it declares nothing: the other passes report it with the same text.

## Main definitions

* `ReportedAs` — what the references of variables say of a place.

## Main statements

* `parent?_of_argument`, `ne_identifier_of_argument` — an argument of a call declares nothing;
* `reportedAs_of_identifierValue?` — the value of such an identifier is the one that is reported;
* `supplied_reported` — so are the texts that a call takes from identifiers.
-/

namespace AddressTrace

open Text SyntaxTree

/-- **An address is reported for some bytes**: as that of a local variable if any reference of a
local variable stands there, and else as that of a state variable. -/
def ReportedAs (references : List Reference) (span : Span) (address : String) : Prop :=
  (∀ r ∈ references, r.origin = .variable → r.span = span → r.resolution = .resolved address) ∧
    ((∃ r ∈ references, r.origin = .variable ∧ r.span = span) ∨
      ∃ r ∈ references, r.origin = .state ∧ r.span = span ∧ r.resolution = .resolved address)

variable {t : SyntaxTree}

/-! ### Arguments declare nothing -/

/-- The node around an argument is the call. -/
theorem parent?_of_argument (hl : t.Linked) (hk : t.WellKinded) {call callee id : NodeId}
    {arguments : List NodeId} (hcall : t.kind? call = some (.call callee arguments))
    (hid : id ∈ arguments) : t.parent? id = some call := by
  have hmentioned : id ∈ (NodeKind.call callee arguments).mentioned := List.mem_cons_of_mem _ hid
  exact hl.mem_children.1
    (hk.mem_children call (lt_size_of_kind? hcall) _ hcall id hmentioned)

/-- A node around which a call stands is not the identifier of a declaration. -/
theorem ne_identifier_of_parent? {call callee id : NodeId} {arguments : List NodeId}
    (hparent : t.parent? id = some call) (hcall : t.kind? call = some (.call callee arguments))
    {d : Declaration} (hd : d.IsBelowVariable t) : d.identifier ≠ id := by
  rintro rfl
  obtain ⟨declared, name, hdeclared, hkind⟩ := hd
  rw [hparent] at hdeclared
  cases hdeclared
  rw [hcall] at hkind
  cases hkind

/-- **An argument of a call declares no variable.** -/
theorem ne_identifier_of_argument (hl : t.Linked) (hk : t.WellKinded) {call callee id : NodeId}
    {arguments : List NodeId} (hcall : t.kind? call = some (.call callee arguments))
    (hid : id ∈ arguments) :
    (∀ d ∈ localDeclarations t, d.identifier ≠ id) ∧
      ∀ d ∈ stateDeclarations t, d.identifier ≠ id := by
  have hparent := parent?_of_argument hl hk hcall hid
  exact
    ⟨fun d hd => ne_identifier_of_parent? hparent hcall (declares_local.isBelowVariable hl hk hd),
      fun d hd => ne_identifier_of_parent? hparent hcall (declares_state.isBelowVariable hl hk hd)⟩

/-! ### The value of an identifier -/

section

variable {file : SourceFile} {libraries : LinkedLibraries} {id : NodeId} {name : String}
  {span : Span}

/-- A finding at a known place is among the references of all passes. -/
theorem exists_reference_of_finding {ds : Declarations} {p : Pass} {f : Finding}
    (hf : f ∈ p.findings t ds libraries) (hspan : t.span? f.node = some span) :
    ∃ r ∈ (collect file t ds libraries Pass.all).references,
      r.origin = p.origin ∧ r.span = span ∧ r.resolution = f.resolution := by
  obtain ⟨r, hr⟩ := file.exists_reference? hspan
  obtain ⟨hplace, hresolution, horigin, -⟩ := reference?_eq_some hr
  have hp : p ∈ Pass.all := by cases p <;> decide
  refine ⟨r, mem_references_collect.2 ⟨p, hp, f, hf, hr⟩, ?_, ?_, hresolution⟩
  · rw [horigin, (Pass.isOf_of_mem_findings hf).origin_eq]
  · exact Option.some.inj (hplace.symm.trans hspan)

/-- **A reference of a local variable at an identifier that declares none** has the address of the
variable that governs the identifier. -/
theorem governed_of_variable_reference (hb : t.Built) (hk : t.WellKinded) (hl : t.Located)
    (hid : t.kind? id = some (.identifier name)) (hspan : t.span? id = some span)
    (hnot : ∀ d ∈ localDeclarations t, d.identifier ≠ id) {r : Reference}
    (hr : r ∈ (collect file t (.ofTree t) libraries Pass.all).references)
    (horigin : r.origin = .variable) (hplace : r.span = span) :
    ∃ v, (LocalTable.ofTree t).find? t id name = some v ∧ r.resolution = .resolved v.address := by
  -- Identifiers stand apart, so the one that the reference was made for is this one.
  have hsame : ∀ {other : NodeId} {name' : String}, t.kind? other = some (.identifier name') →
      t.span? other = some r.span → other = id := by
    intro other name' hother hspan'
    exact hl.identifiers_apart.eq_of_start_eq hother rfl hid rfl hspan' hspan (by rw [hplace])
  rcases variable_reference_cases hb hk hl hr horigin with
    ⟨d, hd, href⟩ | ⟨other, name', v, hother, hspan', hv, hresolution⟩
  · obtain ⟨_, hmade⟩ := declares_local.exists_madeBy hb.linked hk hd
    exact absurd (hsame hmade.kind?_identifier (reference?_eq_some href).1) (hnot d hd)
  · obtain rfl := hsame hother hspan'
    obtain rfl : name' = name := by simpa using hother.symm.trans hid
    exact ⟨v, hv, hresolution⟩

/-- An identifier that is governed by a variable and declares none is reported as that variable. -/
theorem exists_variable_reference (hb : t.Built) (hk : t.WellKinded) (hl : t.Located)
    (hid : t.kind? id = some (.identifier name)) (hspan : t.span? id = some span)
    (hnot : ∀ d ∈ localDeclarations t, d.identifier ≠ id) {v : LocalVariable}
    (hv : (LocalTable.ofTree t).find? t id name = some v) :
    ∃ r ∈ (collect file t (.ofTree t) libraries Pass.all).references,
      r.origin = .variable ∧ r.span = span := by
  obtain ⟨d, _, hgoverns, -⟩ := LocalTable.exists_governs_of_find? hl hv
  have hne : t.span? id ≠ some v.declaration := by
    intro heq
    obtain ⟨_, hmade⟩ := declares_local.exists_madeBy hb.linked hk hgoverns.mem
    exact hnot d hgoverns.mem (hl.identifiers_apart.eq_of_start_eq hmade.kind?_identifier rfl hid
      rfl hgoverns.span?_identifier heq rfl)
  have huse : ⟨id, t.parent? id, .resolved v.address, .variable⟩ ∈ governedUses t (.ofTree t) :=
    List.mem_filterMap.2 ⟨id, List.mem_range.2 (lt_size_of_kind? hid),
      governedUse?_eq_some.2 ⟨name, v, hid, hv, hne, rfl⟩⟩
  have hfinding : ⟨id, t.parent? id, .resolved v.address, .variable⟩ ∈
      Pass.findings t (.ofTree t) libraries .locals :=
    (localFindings_perm hb hk hl).mem_iff.2 (List.mem_append_right _ huse)
  obtain ⟨r, hr, horigin, hplace, -⟩ := exists_reference_of_finding hfinding hspan
  exact ⟨r, hr, horigin, hplace⟩

/-- An identifier that stands for a state variable and declares none is reported as this
variable. -/
theorem exists_state_reference (hb : t.Built) (hk : t.WellKinded) (hl : t.Located)
    (hid : t.kind? id = some (.identifier name)) (hspan : t.span? id = some span)
    (hnot : ∀ d ∈ stateDeclarations t, d.identifier ≠ id) {start : Nat} {address : String}
    (hfound : (StateTable.ofTree t).find? name span.start = some (start, address)) :
    ∃ r ∈ (collect file t (.ofTree t) libraries Pass.all).references,
      r.origin = .state ∧ r.span = span ∧ r.resolution = .resolved address := by
  have hnearest := StateTable.find?_ofTree.1 hfound
  have hne : start ≠ span.start := by
    rintro rfl
    -- What is recorded at the offset of the identifier was declared by an identifier there.
    obtain ⟨d, hd, hrecorded⟩ := List.mem_filterMap.1 hnearest.lastAt.mem
    obtain ⟨place, hplace, heq⟩ := Option.map_eq_some_iff.1 hrecorded
    have hstart : place.start = span.start := by simpa using congrArg (·.1.2) heq
    obtain ⟨_, hmade⟩ := declares_state.exists_madeBy hb.linked hk hd
    exact hnot d hd (hl.identifiers_apart.eq_of_start_eq hmade.kind?_identifier rfl hid rfl hplace
      hspan hstart)
  have huse : stateUse? t (.ofTree t) id = some ⟨id, t.parent? id, .resolved address, .state⟩ :=
    stateUse?_eq_some.2 ⟨start, address, ⟨name, span, hid, hspan, hnearest, hne⟩, rfl⟩
  have hfinding : ⟨id, t.parent? id, .resolved address, .state⟩ ∈
      Pass.findings t (.ofTree t) libraries .state := by
    refine List.mem_append_right _ (List.mem_filterMap.2 ⟨id, ?_, huse⟩)
    exact hb.linked.mem_walk.2 (lt_size_of_kind? hid)
  exact exists_reference_of_finding hfinding hspan

/-- **The value of an identifier that declares nothing is the one that is reported for it.** -/
theorem reportedAs_of_identifierValue? (hb : t.Built) (hk : t.WellKinded) (hl : t.Located)
    (hid : t.kind? id = some (.identifier name)) (hspan : t.span? id = some span)
    (hlocal : ∀ d ∈ localDeclarations t, d.identifier ≠ id)
    (hstate : ∀ d ∈ stateDeclarations t, d.identifier ≠ id) {text : String}
    (hvalue : identifierValue? t (.ofTree t) id name = some text) :
    ReportedAs (collect file t (.ofTree t) libraries Pass.all).references span text := by
  simp only [identifierValue?, Declarations.ofTree] at hvalue
  -- Where a local variable governs the identifier, its value goes before that of a state variable.
  cases hv : (LocalTable.ofTree t).find? t id name with
  | some v =>
      rw [hv] at hvalue
      cases hvalue
      refine ⟨fun r hr horigin hplace => ?_, .inl ?_⟩
      · obtain ⟨w, hw, hresolution⟩ :=
          governed_of_variable_reference hb hk hl hid hspan hlocal hr horigin hplace
        rw [hv] at hw
        cases hw
        exact hresolution
      · exact exists_variable_reference hb hk hl hid hspan hlocal hv
  | none =>
      rw [hv, hspan] at hvalue
      obtain ⟨⟨start, address⟩, hfound, rfl⟩ := Option.map_eq_some_iff.1 hvalue
      refine ⟨fun r hr horigin hplace => ?_, .inr ?_⟩
      · obtain ⟨w, hw, -⟩ :=
          governed_of_variable_reference hb hk hl hid hspan hlocal hr horigin hplace
        rw [hv] at hw
        cases hw
      · exact exists_state_reference hb hk hl hid hspan hstate hfound

end

/-! ### What calls take -/

/-- **What a call takes from an identifier is what the identifier is reported as.**  The identifier
that a contract type is applied to supplies the target, and an identifier among the arguments
supplies an argument; at its bytes, the same text is reported as the address of a local variable, or
else as that of a state variable. -/
theorem supplied_reported (hb : t.Built) (hk : t.WellKinded) (hl : t.Located) (file : SourceFile)
    (libraries : LinkedLibraries) {f : Finding} (hf : f ∈ callFindings t (.ofTree t) libraries)
    {request : CallRequest} (hrequest : f.resolution = .pending request) {id : NodeId}
    {name : String} (hid : t.kind? id = some (.identifier name)) :
    ∃ span, t.span? id = some span ∧
      let references := (collect file t (.ofTree t) libraries Pass.all).references
      (f.CastOf t id → ReportedAs references span request.target) ∧
      ∀ i, f.ArgumentOf t i id →
        ∃ text, request.arguments[i]? = some text ∧ ReportedAs references span text := by
  obtain ⟨span, hspan⟩ := hl.identifiers_placed.exists_span hid rfl
  obtain ⟨htarget, harguments⟩ := callFindings_supplied hf hrequest hid
  refine ⟨span, hspan, fun hcast => ?_, fun i hargument => ?_⟩
  · have hvalue := htarget hcast
    obtain ⟨object, function, callee, -, hobject⟩ := hcast
    obtain ⟨hlocal, hstate⟩ :=
      ne_identifier_of_argument hb.linked hk hobject List.mem_cons_self
    exact reportedAs_of_identifierValue? hb hk hl hid hspan hlocal hstate hvalue
  · obtain ⟨text, htext, hvalue⟩ := harguments i hargument
    obtain ⟨call, callee, arguments, -, hcall, hget⟩ := hargument
    obtain ⟨hlocal, hstate⟩ :=
      ne_identifier_of_argument hb.linked hk hcall (List.mem_of_getElem? hget)
    exact ⟨text, htext, reportedAs_of_identifierValue? hb hk hl hid hspan hlocal hstate hvalue⟩

/-- A contract with a state variable `s`, and a function that declares `a` and calls
`I(s).owner(a, s)`. -/
def stateAndLocal : SyntaxTree := ofOutlines
  [.node (.contract (some "c")) (some ⟨0, 200⟩)
    [stateLetterAt "s" 20 "0x2222222222222222222222222222222222222222",
      .node .block (some ⟨80, 190⟩)
        [addressAt 90 (literalAt 102 "0x1111111111111111111111111111111111111111") 144,
          .node .call (some ⟨150, 166⟩)
            [.node (.member "owner") (some ⟨150, 160⟩)
                [.node .call (some ⟨150, 154⟩) [letterAt "I" 150, letterAt "s" 152]],
              letterAt "a" 161, letterAt "s" 164]]]]

/-- The call has the state variable as its target and the local one as its first argument, and both
are reported so. -/
theorem supplied_reported_stateAndLocal :
    let references := (collect (.ofText "/c.sol" "c" "") stateAndLocal (.ofTree stateAndLocal)
      .empty Pass.all).references
    ∃ f ∈ callFindings stateAndLocal (.ofTree stateAndLocal) .empty,
      f.CastOf stateAndLocal 15 ∧ f.ArgumentOf stateAndLocal 0 16 ∧
      ReportedAs references ⟨152, 153⟩ "0x2222222222222222222222222222222222222222" ∧
      ReportedAs references ⟨161, 162⟩ "0x1111111111111111111111111111111111111111" := by
  have hb : stateAndLocal.Built := built_ofOutlines _
  have hk : stateAndLocal.WellKinded := by decide +kernel
  have hl : stateAndLocal.Located := by decide +kernel
  have hcall : ∃ f ∈ callFindings stateAndLocal (.ofTree stateAndLocal) .empty,
      f.node = 12 ∧ f.parent = some 11 ∧
      f.resolution = .pending ⟨"0x2222222222222222222222222222222222222222", "owner",
        ["0x1111111111111111111111111111111111111111",
          "0x2222222222222222222222222222222222222222"]⟩ := by
    decide +kernel
  obtain ⟨f, hf, hnode, hparent, hresolution⟩ := hcall
  have hcast : f.CastOf stateAndLocal 15 := by
    refine ⟨13, "owner", 14, ?_, by decide +kernel⟩
    rw [hnode]
    decide +kernel
  have hargument : f.ArgumentOf stateAndLocal 0 16 :=
    ⟨11, 12, [16, 17], hparent, by decide +kernel, rfl⟩
  have htarget : stateAndLocal.kind? 15 = some (.identifier "s") := by decide +kernel
  have hlocal : stateAndLocal.kind? 16 = some (.identifier "a") := by decide +kernel
  refine ⟨f, hf, hcast, hargument, ?_, ?_⟩
  · obtain ⟨span, hspan, hreported, -⟩ := supplied_reported hb hk hl (.ofText "/c.sol" "c" "")
      .empty hf hresolution htarget
    obtain rfl : span = ⟨152, 153⟩ :=
      Option.some.inj (hspan.symm.trans (by decide +kernel))
    exact hreported hcast
  · obtain ⟨span, hspan, -, hreported⟩ := supplied_reported hb hk hl (.ofText "/c.sol" "c" "")
      .empty hf hresolution hlocal
    obtain rfl : span = ⟨161, 162⟩ :=
      Option.some.inj (hspan.symm.trans (by decide +kernel))
    obtain ⟨text, htext, htextReported⟩ := hreported 0 hargument
    cases htext
    exact htextReported

end AddressTrace
