import AddressTrace.Proofs.Declaration.Scopes
import AddressTrace.Proofs.Reference.CallPattern
import AddressTrace.Proofs.Reference.LocalUses

/-!
# What a variable reference takes its address from

A reference that is a use of a local variable takes the address of the last declaration of its name
in the innermost block that declares the name with a literal.  It does so wherever it stands in that
block, so it takes a later declaration when one follows it.  On the other hand a declaration with a
literal hides all declarations farther out, from the references as well as from the calls to which
an identifier supplies the target or an argument.

## Main definitions

* `NearestBefore` — the nearest declaration of a name in a block in front of an offset;
* `DeclaredWithin` — an address that is declared in a block or in one of the blocks inside it;
* `Finding.CastOf`, `Finding.ArgumentOf` — the nodes that a call takes texts from.

## Main statements

* `variable_reference_lastIn` — the address of a use, and when it is that of a preceding
  declaration;
* `hidden_by_declaredAt` — declarations with a literal hide those farther out.
-/

namespace AddressTrace

open Text SyntaxTree

section

variable {file : SourceFile} {t : SyntaxTree} {libraries : LinkedLibraries}

/-! ### Uses and declarations -/

/-- **A variable reference is that of a local declaration or a use of one**: an identifier that some
declaration governs, which does not declare it. -/
theorem variable_reference_cases (hb : t.Built) (hk : t.WellKinded) (hl : t.Located)
    {passes : List Pass} {r : Reference}
    (hr : r ∈ (collect file t (.ofTree t) libraries passes).references)
    (horigin : r.origin = .variable) :
    (∃ d ∈ localDeclarations t, file.reference? t (d.finding .variable) = some r) ∨
      ∃ id name v, t.kind? id = some (.identifier name) ∧ t.span? id = some r.span ∧
        (LocalTable.ofTree t).find? t id name = some v ∧ r.resolution = .resolved v.address := by
  obtain ⟨-, f, hf, href⟩ := exists_finding_of_origin (p := .locals) hr horigin
  have hperm := localFindings_perm hb hk hl
  rcases List.mem_append.1 (hperm.mem_iff.1 hf) with hf | hf
  · obtain ⟨d, hd, rfl⟩ := List.mem_map.1 hf
    exact .inl ⟨d, hd, href⟩
  · obtain ⟨id, -, hf⟩ := List.mem_filterMap.1 hf
    obtain ⟨name, v, hkind, hv, -, rfl⟩ := governedUse?_eq_some.1 hf
    obtain ⟨hspan, hresolution, -, -⟩ := reference?_eq_some href
    exact .inr ⟨id, name, v, hkind, hspan, hv, hresolution⟩

/-- **The nearest declaration of a name in a block in front of an offset.** -/
def NearestBefore (t : SyntaxTree) (d : Declaration) (name : String) (block : NodeId)
    (offset : Nat) : Prop :=
  ∃ s, DeclaredAt t d name block s ∧ s < offset ∧
    ∀ e s', DeclaredAt t e name block s' → s' < offset → s' ≤ s

/-- The last declaration of a block is the nearest one in front of an offset as long as no
declaration of the block stands behind the offset. -/
theorem LastIn.nearestBefore_iff {d : Declaration} {name : String} {block : NodeId} {start : Nat}
    (h : LastIn t d name block start) {offset : Nat} :
    NearestBefore t d name block offset ↔
      ∀ e s, DeclaredAt t e name block s → s < offset := by
  constructor
  · rintro ⟨s, hd, hlt, -⟩ e s' he
    have hstart : start = s := Option.some.inj (h.declaredAt.start?_eq.symm.trans hd.start?_eq)
    have hle := h.last e s' he
    omega
  · intro hbefore
    refine ⟨start, h.declaredAt, hbefore d start h.declaredAt, ?_⟩
    intro e s he _
    exact h.last e s he

end

/-- **The address of a variable reference.**  A reference that is not itself a declaration is a use
of the last declaration of its name in the innermost block around it that has one.  This is the
nearest preceding declaration exactly when all declarations of the name in that block precede the
use. -/
theorem variable_reference_lastIn {source : String} {t : SyntaxTree}
    (h : ofSource? source = some t) (file : SourceFile) (libraries : LinkedLibraries)
    (passes : List Pass) {r : Reference}
    (hr : r ∈ (collect file t (.ofTree t) libraries passes).references)
    (horigin : r.origin = .variable) :
    (∃ d ∈ localDeclarations t, file.reference? t (d.finding .variable) = some r) ∨
      ∃ id name block d start, t.kind? id = some (.identifier name) ∧ t.span? id = some r.span ∧
        Innermost t id name block ∧ LastIn t d name block start ∧
        r.resolution = .resolved d.address ∧
        (NearestBefore t d name block r.span.start ↔
          ∀ e s, DeclaredAt t e name block s → s < r.span.start) := by
  have ht := parsed_ofSource? h
  rcases variable_reference_cases ht.built ht.wellKinded ht.located hr horigin with
    hd | ⟨id, name, v, hkind, hspan, hv, hr⟩
  · exact .inl hd
  · obtain ⟨block, d, start, hblock, hd, -, haddress⟩ := (LocalTable.find?_ofTree_iff ht).1 hv
    rw [← haddress] at hr
    exact .inr ⟨id, name, block, d, start, hkind, hspan, hblock, hd, hr, hd.nearestBefore_iff⟩

/-- The statement `address a = ...;` from an offset on. -/
def addressAt (start : Nat) (value : Outline) (stop : Nat) : Outline :=
  .node (.localDeclaration 1) (some ⟨start, stop⟩)
    [.node (.declared (some "a")) (some ⟨start, start + 9⟩) [letterAt "a" (start + 8)], value]

/-- An address literal from an offset on. -/
def literalAt (start : Nat) (text : String) : Outline :=
  .node (.number text) (some ⟨start, start + 42⟩) []

/-- The statement `g(a);` from an offset on. -/
def appliedAt (start : Nat) : Outline :=
  .node .statement (some ⟨start, start + 4⟩)
    [.node .call (some ⟨start, start + 4⟩) [letterAt "g" start, letterAt "a" (start + 2)]]

/-- A contract whose function uses a variable before it declares it in the same block. -/
def usedBefore : String :=
  "contract c \x7b address a; function f() public \x7b g(a); " ++
    "address a = 0x1111111111111111111111111111111111111111; \x7d \x7d"

/-- The tree of this contract. -/
def usedBeforeTree : SyntaxTree := ofOutlines
  [.node (.contract (some "c")) (some ⟨0, 111⟩)
    [.node .stateDeclaration (some ⟨13, 22⟩)
        [.node (.declared (some "a")) (some ⟨13, 22⟩) [letterAt "a" 21]],
      .node (.function (some "f")) (some ⟨24, 109⟩)
        [.node .block (some ⟨44, 109⟩)
          [appliedAt 46,
            addressAt 52 (literalAt 64 "0x1111111111111111111111111111111111111111") 106]]]]

/-- One variable has an address from the start, and its declaration stands behind the use at 48. -/
example : (localDeclarations usedBeforeTree).map
    (fun d => (usedBeforeTree.start? d.identifier, d.address)) =
      [(some 60, "0x1111111111111111111111111111111111111111")] := by
  decide +kernel

theorem ofSource?_usedBefore : ofSource? usedBefore = some usedBeforeTree := by decide +kernel

/-- The references of the local variables of this contract. -/
def usedBeforeReferences : List Reference :=
  (collect (.ofText "/c.sol" "c" usedBefore) usedBeforeTree (.ofTree usedBeforeTree) .empty
    [.locals]).references

/-- The use is a reference, and it has the address of the declaration that is the last one of its
block. -/
theorem variable_reference_lastIn_usedBefore :
    ∃ r ∈ usedBeforeReferences, r.origin = .variable ∧ ∃ id block d start,
      usedBeforeTree.span? id = some r.span ∧ LastIn usedBeforeTree d "a" block start ∧
      r.resolution = .resolved d.address := by
  have huse : ∃ r ∈ usedBeforeReferences, r.origin = .variable ∧ r.span = ⟨48, 49⟩ ∧
      ∀ d ∈ localDeclarations usedBeforeTree,
        (SourceFile.ofText "/c.sol" "c" usedBefore).reference? usedBeforeTree (d.finding .variable)
          ≠ some r := by
    decide +kernel
  obtain ⟨r, hr, horigin, hspan, hnot⟩ := huse
  rcases variable_reference_lastIn ofSource?_usedBefore _ _ _ hr horigin with
    ⟨d, hd, href⟩ | ⟨id, name, block, d, start, hkind, hid, -, hlast, hresolution, -⟩
  · exact absurd href (hnot d hd)
  · have hname : ∀ id < usedBeforeTree.size, usedBeforeTree.span? id = some ⟨48, 49⟩ →
        usedBeforeTree.kind? id = some (.identifier "a") := by
      decide +kernel
    have ha := hname id (lt_size_of_kind? hkind) (hspan ▸ hid)
    rw [hkind] at ha
    cases ha
    exact ⟨r, hr, horigin, id, block, d, start, hid, hlast, hresolution⟩

/-- The address of the use was not declared in front of it. -/
theorem variable_reference_not_preceding :
    ¬ ∀ r ∈ usedBeforeReferences, r.origin = .variable →
      (∃ d ∈ localDeclarations usedBeforeTree,
        (SourceFile.ofText "/c.sol" "c" usedBefore).reference? usedBeforeTree (d.finding .variable)
          = some r) ∨
      ∃ d ∈ localDeclarations usedBeforeTree, r.resolution = .resolved d.address ∧
        ∃ s ∈ usedBeforeTree.start? d.identifier, s < r.span.start := by
  decide +kernel

/-! ### Hidden declarations -/

/-- **An address that is declared for a name in a block around a node, or in one of the blocks
around the node that lie inside this block.** -/
def DeclaredWithin (t : SyntaxTree) (id : NodeId) (name : String) (block : NodeId)
    (address : String) : Prop :=
  ∃ d b s, DeclaredAt t d name b s ∧ b ∈ t.ancestors id ∧ (b = block ∨ block ∈ t.ancestors b) ∧
    d.address = address

/-- **The node that a call takes its target from**: what a contract type is applied to. -/
def Finding.CastOf (f : Finding) (t : SyntaxTree) (id : NodeId) : Prop :=
  ∃ object function callee, t.kind? f.node = some (.member object function) ∧
    t.kind? object = some (.call callee [id])

/-- **The node that a call takes an argument from.** -/
def Finding.ArgumentOf (f : Finding) (t : SyntaxTree) (i : Nat) (id : NodeId) : Prop :=
  ∃ call callee arguments, f.parent = some call ∧ t.kind? call = some (.call callee arguments) ∧
    arguments[i]? = some id

section

variable {t : SyntaxTree} {ds : Declarations} {libraries : LinkedLibraries}

/-- A name that is declared in a block around an identifier has a value there, which is declared in
this block or inside it. -/
theorem exists_find?_of_declaredAt (ht : t.Parsed) {d : Declaration} {name : String}
    {block id : NodeId} {start : Nat} (hd : DeclaredAt t d name block start)
    (habove : block ∈ t.ancestors id) :
    ∃ v, (LocalTable.ofTree t).find? t id name = some v ∧
      DeclaredWithin t id name block v.address := by
  obtain ⟨w, hw⟩ := LocalTable.exists_inBlock?_of_declaredAt ht hd
  have hsome : ((LocalTable.ofTree t).find? t id name).isSome := by
    rw [LocalTable.find?, List.findSome?_isSome_iff]
    exact ⟨block, habove, by rw [hw]; rfl⟩
  obtain ⟨v, hv⟩ := Option.isSome_iff_exists.1 hsome
  obtain ⟨b, e, s, hb, he, -, haddress⟩ := (LocalTable.find?_ofTree_iff ht).1 hv
  refine ⟨v, hv, e, b, s, he.declaredAt, hb.around, ?_, haddress⟩
  exact (hb.nearest block habove ⟨d, start, hd⟩).imp_left Eq.symm

/-- **An identifier supplies its value to a call** that takes its target or an argument from it. -/
theorem callFindings_supplied {f : Finding}
    (hf : f ∈ callFindings t ds libraries) {request : CallRequest}
    (hrequest : f.resolution = .pending request) {id : NodeId} {name : String}
    (hid : t.kind? id = some (.identifier name)) :
    (f.CastOf t id → identifierValue? t ds id name = some request.target) ∧
      ∀ i, f.ArgumentOf t i id →
        ∃ text, request.arguments[i]? = some text ∧ identifierValue? t ds id name = some text := by
  obtain ⟨node, -, hf⟩ := List.mem_filterMap.1 hf
  obtain ⟨object, function, call, arguments, target, values, hkind, hcall, hcallkind, htarget,
    hvalues, rfl⟩ := callFinding?_eq_some.1 hf
  cases hrequest
  constructor
  · rintro ⟨object', function', callee, hkind', hobject⟩
    rw [hkind] at hkind'
    cases hkind'
    simp only [callTarget?, hobject] at htarget
    split at htarget
    · simpa [castAddress?, hid] using htarget
    · cases htarget
  · rintro i ⟨call', callee, arguments', hparent, hcallkind', hget⟩
    cases hparent
    rw [hcallkind] at hcallkind'
    cases hcallkind'
    obtain ⟨text, htext, hvalue⟩ :=
      exists_getElem?_of_forall₂ (mapM_eq_some.1 hvalues).flip hget
    simp only [argumentValue?, hid] at hvalue
    exact ⟨text, htext, hvalue⟩

end

/-- **A declaration with a literal directly in a block hides those farther out.**  An identifier of
its name below the block is never given the address of a declaration outside the block: not as a
variable reference, unless it is a declaring identifier and this is the reference of its own
declaration, not as the target of a call and not as an argument of one. -/
theorem hidden_by_declaredAt {source : String} {t : SyntaxTree} (h : ofSource? source = some t)
    (file : SourceFile) (libraries : LinkedLibraries) (passes : List Pass) {d : Declaration}
    {name : String} {block id : NodeId} {start : Nat} (hd : DeclaredAt t d name block start)
    (hid : t.kind? id = some (.identifier name)) (habove : block ∈ t.ancestors id) :
    (∀ r ∈ (collect file t (.ofTree t) libraries passes).references, r.origin = .variable →
      t.span? id = some r.span →
        (∃ e ∈ localDeclarations t, e.identifier = id ∧
          file.reference? t (e.finding .variable) = some r) ∨
        ∃ address, r.resolution = .resolved address ∧ DeclaredWithin t id name block address) ∧
    ∀ f ∈ callFindings t (.ofTree t) libraries, ∀ request, f.resolution = .pending request →
      (f.CastOf t id → DeclaredWithin t id name block request.target) ∧
      ∀ i, f.ArgumentOf t i id →
        ∃ text, request.arguments[i]? = some text ∧ DeclaredWithin t id name block text := by
  have ht := parsed_ofSource? h
  obtain ⟨v, hv, hwithin⟩ := exists_find?_of_declaredAt ht hd habove
  have hvalue : identifierValue? t (.ofTree t) id name = some v.address := by
    simp only [identifierValue?, Declarations.ofTree, hv]
  constructor
  · intro r hr horigin hspan
    have hsame : ∀ {id' : NodeId} {name' : String}, t.kind? id' = some (.identifier name') →
        t.span? id' = some r.span → id' = id := by
      intro id' name' hid' hspan'
      exact ht.located.identifiers_apart.eq_of_start_eq hid' rfl hid rfl hspan' hspan rfl
    rcases variable_reference_cases ht.built ht.wellKinded ht.located hr horigin with
      ⟨e, he, href⟩ | ⟨id', name', w, hid', hspan', hw, hresolution⟩
    · obtain ⟨_, hmade⟩ := declares_local.exists_madeBy ht.linked ht.wellKinded he
      have hplace := (reference?_eq_some href).1
      exact .inl ⟨e, he, hsame hmade.kind?_identifier hplace, href⟩
    · obtain rfl := hsame hid' hspan'
      obtain rfl : name' = name := by simpa using hid'.symm.trans hid
      rw [hv] at hw
      cases hw
      exact .inr ⟨v.address, hresolution, hwithin⟩
  · intro f hf request hrequest
    obtain ⟨htarget, harguments⟩ := callFindings_supplied hf hrequest hid
    constructor
    · intro hcast
      rw [← Option.some.inj (hvalue.symm.trans (htarget hcast))]
      exact hwithin
    · intro i hargument
      obtain ⟨text, htext, hsupplied⟩ := harguments i hargument
      have heq := hvalue.symm.trans hsupplied
      cases heq
      exact ⟨v.address, htext, hwithin⟩

/-! Two contracts with a variable that is declared again in an inner block, with and without a
literal. -/

/-- A contract whose inner block declares a variable again with another literal and calls it. -/
def hiddenByLiteral : String :=
  "contract c \x7b function f() public \x7b " ++
    "address a = 0x1111111111111111111111111111111111111111; " ++
    "\x7b address a = 0x2222222222222222222222222222222222222222; I(a).owner(a); \x7d \x7d \x7d"

/-- The tree of this contract. -/
def hiddenByLiteralTree : SyntaxTree := ofOutlines
  [.node (.contract (some "c")) (some ⟨0, 169⟩)
    [.node (.function (some "f")) (some ⟨13, 167⟩)
      [.node .block (some ⟨33, 167⟩)
        [addressAt 35 (literalAt 47 "0x1111111111111111111111111111111111111111") 89,
          .node .block (some ⟨91, 165⟩)
            [addressAt 93 (literalAt 105 "0x2222222222222222222222222222222222222222") 147,
              .node .statement (some ⟨149, 162⟩)
                [.node .call (some ⟨149, 162⟩)
                  [.node (.member "owner") (some ⟨149, 159⟩)
                      [.node .call (some ⟨149, 153⟩) [letterAt "I" 149, letterAt "a" 151]],
                    letterAt "a" 160]]]]]]]

/-- Both blocks declare the variable, each with its own literal. -/
example : (localDeclarations hiddenByLiteralTree).map (fun d => (d.parent, d.address)) =
    [(some 3, "0x1111111111111111111111111111111111111111"),
      (some 8, "0x2222222222222222222222222222222222222222")] := by
  decide +kernel

theorem ofSource?_hiddenByLiteral : ofSource? hiddenByLiteral = some hiddenByLiteralTree := by
  decide +kernel

/-- There is a call with a target, and what is cast is an identifier below the inner declaration. -/
theorem hidden_by_declaredAt_literal :
    ∃ f ∈ callFindings hiddenByLiteralTree (.ofTree hiddenByLiteralTree) .empty, ∃ request,
      f.resolution = .pending request ∧ f.CastOf hiddenByLiteralTree 18 ∧
      DeclaredWithin hiddenByLiteralTree 18 "a" 8 request.target := by
  have hdeclared : DeclaredAt hiddenByLiteralTree
      ⟨"a", 11, some 8, "0x2222222222222222222222222222222222222222"⟩ "a" 8 101 :=
    ⟨by decide +kernel, rfl, rfl, by decide +kernel, by decide +kernel⟩
  have hcall : ∃ f ∈ callFindings hiddenByLiteralTree (.ofTree hiddenByLiteralTree) .empty,
      f.node = 15 ∧ f.resolution = .pending ⟨"0x2222222222222222222222222222222222222222", "owner",
        ["0x2222222222222222222222222222222222222222"]⟩ := by
    decide +kernel
  obtain ⟨f, hf, hnode, hresolution⟩ := hcall
  have hcast : f.CastOf hiddenByLiteralTree 18 := by
    refine ⟨16, "owner", 17, ?_, by decide +kernel⟩
    rw [hnode]
    decide +kernel
  have hletter : hiddenByLiteralTree.kind? 18 = some (.identifier "a") := by decide +kernel
  have hidden := hidden_by_declaredAt ofSource?_hiddenByLiteral
    (.ofText "/c.sol" "c" hiddenByLiteral) .empty [] hdeclared hletter (by decide +kernel)
  exact ⟨f, hf, _, hresolution, hcast, (hidden.2 f hf _ hresolution).1 hcast⟩

/-- A statement that declares a local variable of a name, with a literal, with another value or with
none. -/
def DeclaresLocal (t : SyntaxTree) (statement : NodeId) (name : String) : Prop :=
  ∃ ids value declared identifier, t.kind? statement = some (.localDeclaration ids value) ∧
    declared ∈ ids ∧ t.kind? declared = some (.declared (some name) identifier)

/-- A contract whose inner block declares a variable again with the result of a call. -/
def hiddenByCall : String :=
  "contract c \x7b function f() public \x7b " ++
    "address a = 0x1111111111111111111111111111111111111111; " ++
    "\x7b address a = h(); g(a); \x7d \x7d \x7d"

/-- The tree of this contract. -/
def hiddenByCallTree : SyntaxTree := ofOutlines
  [.node (.contract (some "c")) (some ⟨0, 121⟩)
    [.node (.function (some "f")) (some ⟨13, 119⟩)
      [.node .block (some ⟨33, 119⟩)
        [addressAt 35 (literalAt 47 "0x1111111111111111111111111111111111111111") 89,
          .node .block (some ⟨91, 117⟩)
            [addressAt 93 (.node .call (some ⟨105, 108⟩) [letterAt "h" 105]) 108,
              appliedAt 110]]]]]

/-- The references of the local variables of this contract. -/
def hiddenByCallReferences : List Reference :=
  (collect (.ofText "/c.sol" "c" hiddenByCall) hiddenByCallTree (.ofTree hiddenByCallTree) .empty
    [.locals]).references

/-- A declaration without a literal does not hide the outer one: an identifier behind it in the
inner block has the outer address. -/
theorem not_hidden_by_declaresLocal :
    ofSource? hiddenByCall = some hiddenByCallTree ∧
    ¬ ∀ (statement inner id outer : NodeId) (name : String) (d : Declaration) (start : Nat),
      DeclaresLocal hiddenByCallTree statement name →
      hiddenByCallTree.parent? statement = some inner → inner ∈ hiddenByCallTree.ancestors id →
      statement < id → hiddenByCallTree.kind? id = some (.identifier name) →
      DeclaredAt hiddenByCallTree d name outer start → outer ∈ hiddenByCallTree.ancestors inner →
      ∀ r ∈ hiddenByCallReferences, r.origin = .variable →
        hiddenByCallTree.span? id = some r.span → r.resolution ≠ .resolved d.address := by
  refine ⟨by decide +kernel, ?_⟩
  intro hhides
  have hdeclares : DeclaresLocal hiddenByCallTree 9 "a" :=
    ⟨[10], some 12, 10, some 11, by decide +kernel, by decide, by decide +kernel⟩
  have houter : DeclaredAt hiddenByCallTree
      ⟨"a", 6, some 3, "0x1111111111111111111111111111111111111111"⟩ "a" 3 43 :=
    ⟨by decide +kernel, rfl, rfl, by decide +kernel, by decide +kernel⟩
  have huse : ∃ r ∈ hiddenByCallReferences, r.origin = .variable ∧
      hiddenByCallTree.span? 17 = some r.span ∧
      r.resolution = .resolved "0x1111111111111111111111111111111111111111" := by
    decide +kernel
  obtain ⟨r, hr, horigin, hspan, hresolution⟩ := huse
  exact hhides 9 8 17 3 "a" _ 43 hdeclares (by decide +kernel) (by decide +kernel) (by decide)
    (by decide +kernel) houter (by decide +kernel) r hr horigin hspan hresolution

end AddressTrace
