import AddressTrace.Proofs.Declaration.Local
import AddressTrace.Proofs.Tree.Sources

/-!
# The scopes of a source

In the tree of a source the table of local variables can be read off the text.  An identifier is
governed by the innermost block around it in which its name is declared with a literal, and of
several such declarations directly in that block by the last one, wherever the identifier stands in
the block.  Declarations without a literal, of several variables, or outside a block do not count.

## Main definitions

* `DeclaredAt` — a name is declared with a literal directly in a block, at an offset;
* `LastIn` — the last such declaration of a block;
* `Innermost` — the innermost block around a node with such a declaration.

## Main statements

* `identifier_eq_of_localDeclaration?` — declarations are in the order of their identifiers;
* `LocalTable.find?_ofTree_iff` — the variable that governs an identifier.
-/

namespace AddressTrace

open Text SyntaxTree

variable {t : SyntaxTree}

/-! ### The order of declarations -/

/-- The declaring identifier of a local declaration of an address is the second node below it. -/
theorem identifier_eq_of_localDeclaration? (ht : t.Parsed) {id : Nat} {d : Declaration}
    (h : localDeclaration? t id = some d) : d.identifier = id + 2 := by
  unfold localDeclaration? at h
  split at h
  · next declared value hkind =>
      obtain ⟨variable_, literal, rfl, -, -, hdeclared, -⟩ := addressDeclaration?_eq_some.1 h
      obtain ⟨form, span, children, -, -, hform⟩ := ht.form_of_kind? hkind (by simp)
      obtain ⟨n, rfl, htake, -⟩ := Form.kind_eq_localDeclaration.1 hform.symm
      -- The only variable is the first child, and the first child follows its parent.
      have hfirst : variable_ = id + 1 := by
        cases children with
        | nil => simp [Outline.tops] at htake
        | cons o os =>
            cases n with
            | zero => simp at htake
            | succ n =>
                rw [Outline.tops, List.take_succ_cons] at htake
                exact (List.head_eq_of_cons_eq htake).symm
      rw [(ht.declared hdeclared).1, hfirst]
  · cases h

/-- **Local declarations are in the order of their declaring identifiers.** -/
theorem pairwise_identifier_localDeclarations (ht : t.Parsed) :
    (localDeclarations t).Pairwise fun d e => d.identifier < e.identifier := by
  rw [localDeclarations, ht.walk_eq, List.pairwise_filterMap]
  refine List.pairwise_lt_range.imp ?_
  intro a b hab d hd e he
  rw [identifier_eq_of_localDeclaration? ht hd, identifier_eq_of_localDeclaration? ht he]
  exact Nat.add_lt_add_right hab 2

/-- Of two declarations the one with the later identifier begins later. -/
theorem start_lt_of_identifier_lt (ht : t.Parsed) {d e : Declaration}
    (hd : d ∈ localDeclarations t) (he : e ∈ localDeclarations t)
    (hlt : d.identifier < e.identifier) {s s' : Nat} (hs : t.start? d.identifier = some s)
    (hs' : t.start? e.identifier = some s') : s < s' := by
  obtain ⟨_, hmade⟩ := declares_local.exists_madeBy ht.linked ht.wellKinded hd
  obtain ⟨_, hmade'⟩ := declares_local.exists_madeBy ht.linked ht.wellKinded he
  obtain ⟨span, hspan, hmark⟩ := ht.identifier_mark hmade.kind?_identifier
  obtain ⟨span', hspan', hmark'⟩ := ht.identifier_mark hmade'.kind?_identifier
  rw [start?, hspan, Option.map_some, Option.some_inj] at hs
  rw [start?, hspan', Option.map_some, Option.some_inj] at hs'
  rw [← hs, ← hs']
  exact ht.inOrder hlt hmark hmark'

/-! ### Blocks and names -/

/-- **A name is declared with a literal directly in a block**, by an identifier at this offset. -/
structure DeclaredAt (t : SyntaxTree) (d : Declaration) (name : String) (block : NodeId)
    (start : Nat) : Prop where
  mem : d ∈ localDeclarations t
  name_eq : d.name = name
  parent_eq : d.parent = some block
  kind?_block : t.kind? block = some .block
  start?_eq : t.start? d.identifier = some start

/-- **The last declaration of a name in a block.** -/
structure LastIn (t : SyntaxTree) (d : Declaration) (name : String) (block : NodeId)
    (start : Nat) : Prop where
  declaredAt : DeclaredAt t d name block start
  last : ∀ e s, DeclaredAt t e name block s → s ≤ start

/-- **The innermost block around a node in which a name is declared.** -/
structure Innermost (t : SyntaxTree) (id : NodeId) (name : String) (block : NodeId) : Prop where
  around : block ∈ t.ancestors id
  declares : ∃ d s, DeclaredAt t d name block s
  nearest : ∀ b ∈ t.ancestors id, (∃ d s, DeclaredAt t d name b s) →
    b = block ∨ b ∈ t.ancestors block

/-- A declaration of a block is known by its offset. -/
theorem DeclaredAt.eq_of_start_eq (ht : t.Parsed) {d e : Declaration} {name : String}
    {block : NodeId} {start : Nat} (hd : DeclaredAt t d name block start)
    (he : DeclaredAt t e name block start) : d = e := by
  rcases Nat.lt_trichotomy d.identifier e.identifier with hlt | heq | hlt
  · have := start_lt_of_identifier_lt ht hd.mem he.mem hlt hd.start?_eq he.start?_eq
    omega
  · have hnodup : ((localDeclarations t).map (·.identifier)).Nodup :=
      declares_local.nodup_identifiers ht.linked ht.wellKinded ht.linked.nodup_walk
    exact List.inj_on_of_nodup_map hnodup hd.mem he.mem heq
  · have := start_lt_of_identifier_lt ht he.mem hd.mem hlt he.start?_eq hd.start?_eq
    omega

/-- A block has one last declaration of a name at most. -/
theorem LastIn.unique (ht : t.Parsed) {d e : Declaration} {name : String} {block : NodeId}
    {s s' : Nat} (hd : LastIn t d name block s) (he : LastIn t e name block s') : d = e := by
  have hle := hd.last e s' he.declaredAt
  have hge := he.last d s hd.declaredAt
  obtain rfl : s = s' := Nat.le_antisymm hge hle
  exact hd.declaredAt.eq_of_start_eq ht he.declaredAt

/-- A declaration of a block that no other one of the block follows in a walk is the last one. -/
theorem DeclaredAt.lastIn (ht : t.Parsed) {d : Declaration} {name : String} {block : NodeId}
    {start : Nat} (hd : DeclaredAt t d name block start) {before after : List Declaration}
    (hds : localDeclarations t = before ++ d :: after)
    (hafter : ∀ e ∈ after, ∀ s, ¬ DeclaredAt t e name block s) : LastIn t d name block start := by
  refine ⟨hd, ?_⟩
  intro e s he
  have hpairwise := pairwise_identifier_localDeclarations ht
  rw [hds, List.pairwise_append] at hpairwise
  have hmem := he.mem
  rw [hds, List.mem_append, List.mem_cons] at hmem
  rcases hmem with hmem | rfl | hmem
  · have hlt := hpairwise.2.2 e hmem d List.mem_cons_self
    exact Nat.le_of_lt (start_lt_of_identifier_lt ht he.mem hd.mem hlt he.start?_eq hd.start?_eq)
  · exact Nat.le_of_eq (Option.some.inj (he.start?_eq.symm.trans hd.start?_eq))
  · exact absurd he (hafter e hmem s)

namespace LocalTable

/-- What a declaration directly in a block enters into the table. -/
theorem entered?_of_declaredAt {d : Declaration} {name : String} {block : NodeId} {s : Nat}
    (h : DeclaredAt t d name block s) {place : Span} (hplace : t.span? block = some place) :
    ∃ span, t.span? d.identifier = some span ∧
      entered? t d = some ((name, place.start), ⟨d.address, span⟩) := by
  obtain ⟨span, hspan, -⟩ := Option.map_eq_some_iff.1 h.start?_eq
  refine ⟨span, hspan, ?_⟩
  rw [entered?, h.parent_eq, Option.bind_some, if_pos h.kind?_block, hplace, Option.bind_some,
    hspan, Option.map_some, h.name_eq]

/-- A variable that the table knows of a block is that of the last declaration in it. -/
theorem lastIn_of_inBlock? (ht : t.Parsed) {name : String} {block : NodeId} {v : LocalVariable}
    (h : (ofTree t).inBlock? t name block = some v) :
    ∃ d s, LastIn t d name block s ∧ t.span? d.identifier = some v.declaration ∧
      d.address = v.address := by
  rw [inBlock?] at h
  split at h
  · next hkind =>
      obtain ⟨place, hplace, hget⟩ := Option.bind_eq_some_iff.1 h
      rw [get?, entries_ofTree, Assoc.find?_ofPairs] at hget
      obtain ⟨before, after, hpairs, hafter⟩ := hget
      obtain ⟨ds, rest, hds, -, hrest⟩ := List.filterMap_eq_append_iff.1 hpairs
      obtain ⟨ds', d, later, rfl, -, hentry, hlater⟩ := List.filterMap_eq_cons_iff.1 hrest
      have hmem : d ∈ localDeclarations t := by simp [hds]
      obtain ⟨block', place', hplace', hstart, hgov⟩ := entered?_eq_some hentry hmem
      obtain rfl : block' = block :=
        ht.located.blocks_apart.eq_of_start_eq hgov.kind?_block (by simp) hkind (by simp) hplace'
          hplace hstart
      have hat : DeclaredAt t d name block' v.declaration.start := by
        refine ⟨hmem, hgov.name_eq, hgov.parent_eq, hkind, ?_⟩
        rw [start?, hgov.span?_identifier, Option.map_some]
      rw [← List.append_assoc] at hds
      refine ⟨d, v.declaration.start, hat.lastIn ht hds ?_, hgov.span?_identifier, hgov.address_eq⟩
      intro e he s hdeclared
      -- A later declaration would have been entered in place of this one.
      obtain ⟨span, -, hentered⟩ := entered?_of_declaredAt hdeclared hplace
      have hin : ((name, place.start), (⟨e.address, span⟩ : LocalVariable)) ∈ after := by
        rw [← hlater]
        exact List.mem_filterMap.2 ⟨e, he, hentered⟩
      exact hafter _ hin rfl
  · cases h

/-- The table knows a variable of each block in which the name is declared. -/
theorem exists_inBlock?_of_declaredAt (ht : t.Parsed) {d : Declaration} {name : String}
    {block : NodeId} {s : Nat} (h : DeclaredAt t d name block s) :
    ∃ v, (ofTree t).inBlock? t name block = some v := by
  obtain ⟨place, hplace, -⟩ := ht.block_mark h.kind?_block
  obtain ⟨span, -, hentered⟩ := entered?_of_declaredAt h hplace
  have hmem := List.mem_filterMap.2 ⟨d, h.mem, hentered⟩
  obtain ⟨v, hlast⟩ := Assoc.exists_lastAt hmem
  refine ⟨v, ?_⟩
  rw [inBlock?, if_pos h.kind?_block, hplace, Option.bind_some, get?, entries_ofTree]
  exact Assoc.find?_ofPairs.2 hlast

/-- **The last declaration of a name in a block is the one that the table knows.** -/
theorem inBlock?_ofTree_iff (ht : t.Parsed) {name : String} {block : NodeId} {v : LocalVariable} :
    (ofTree t).inBlock? t name block = some v ↔
      ∃ d s, LastIn t d name block s ∧ t.span? d.identifier = some v.declaration ∧
        d.address = v.address := by
  refine ⟨lastIn_of_inBlock? ht, ?_⟩
  rintro ⟨d, s, hd, hspan, haddress⟩
  obtain ⟨w, hw⟩ := exists_inBlock?_of_declaredAt ht hd.declaredAt
  obtain ⟨e, s', he, hspan', haddress'⟩ := lastIn_of_inBlock? ht hw
  obtain rfl := hd.unique ht he
  have hdeclaration : v.declaration = w.declaration := Option.some.inj (hspan.symm.trans hspan')
  have hvw : v = w := by
    cases v
    cases w
    simp_all
  rw [hw, hvw]

/-- **The variable that governs an identifier** is that of the last declaration in the innermost
block around it. -/
theorem find?_ofTree_iff (ht : t.Parsed) {id : NodeId} {name : String} {v : LocalVariable} :
    (ofTree t).find? t id name = some v ↔
      ∃ block d s, Innermost t id name block ∧ LastIn t d name block s ∧
        t.span? d.identifier = some v.declaration ∧ d.address = v.address := by
  rw [find?, List.findSome?_eq_some_iff]
  constructor
  · rintro ⟨inner, block, outer, hchain, hfound, hinner⟩
    obtain ⟨d, s, hd, hspan, haddress⟩ := lastIn_of_inBlock? ht hfound
    refine ⟨block, d, s, ⟨?_, ⟨d, s, hd.declaredAt⟩, ?_⟩, hd, hspan, haddress⟩
    · simp [hchain]
    · rintro b hb ⟨e, s', he⟩
      rw [hchain, List.mem_append, List.mem_cons] at hb
      rcases hb with hb | rfl | hb
      · obtain ⟨w, hw⟩ := exists_inBlock?_of_declaredAt ht he
        rw [hinner b hb] at hw
        cases hw
      · exact .inl rfl
      · exact .inr (ht.linked.ancestors_of_append hchain ▸ hb)
  · rintro ⟨block, d, s, hblock, hd, hspan, haddress⟩
    obtain ⟨inner, outer, hchain⟩ := List.append_of_mem hblock.around
    refine ⟨inner, block, outer, hchain, (inBlock?_ofTree_iff ht).2 ⟨d, s, hd, hspan, haddress⟩, ?_⟩
    intro b hb
    rw [Option.eq_none_iff_forall_ne_some]
    intro w hw
    obtain ⟨e, s', he, -, -⟩ := lastIn_of_inBlock? ht hw
    -- A block on the way to the innermost one has that one around it, and cannot be around it.
    obtain ⟨l, l', rfl⟩ := List.append_of_mem hb
    have hbelow : block ∈ t.ancestors b := by
      rw [List.append_assoc, List.cons_append] at hchain
      rw [ht.linked.ancestors_of_append hchain]
      simp
    have hlt := ht.linked.lt_of_mem_ancestors hbelow
    have hmem : b ∈ t.ancestors id := by simp [hchain]
    rcases hblock.nearest b hmem ⟨e, s', he.declaredAt⟩ with rfl | habove
    · exact Nat.lt_irrefl _ hlt
    · exact Nat.lt_asymm hlt (ht.linked.lt_of_mem_ancestors habove)

end LocalTable

end AddressTrace
