import AddressTrace.Proofs.Data.Assoc
import AddressTrace.Proofs.Declaration.Basic

/-!
# What the table of local variables knows

The table of a tree holds, for a name and the offset of a block, the last declaration of the name
that stands directly in a block beginning there.  A variable that it finds for an identifier was
therefore declared in a block around the identifier.

## Main definitions

* `LocalTable.entered?` — what a declaration enters into the table;
* `LocalTable.Governs` — a declaration governs the identifiers below a node;
* `LocalTable.Governing` — a variable of any table governs an identifier.

## Main statements

* `LocalTable.entries_ofTree` — the table as a map of what the declarations enter;
* `LocalTable.exists_governs_of_find?` — a variable that is found was declared around the
  identifier;
* `LocalTable.find?_eq_some` — any table finds the variable of the innermost block that has one.
-/

namespace AddressTrace

open Text SyntaxTree

namespace LocalTable

variable {t : SyntaxTree}

/-- **What a declaration enters into the table**, if it stands directly in a block, and block and
identifier have a known place. -/
def entered? (t : SyntaxTree) (d : Declaration) : Option ((String × Nat) × LocalVariable) :=
  d.parent.bind fun block =>
    if t.kind? block = some .block then
      (t.span? block).bind fun place =>
        (t.span? d.identifier).map fun declaration =>
          ((d.name, place.start), ⟨d.address, declaration⟩)
    else none

theorem entries_addDeclaration (t : SyntaxTree) (table : LocalTable) (d : Declaration) :
    (addDeclaration t table d).entries =
      (entered? t d).elim table.entries fun e => table.entries.insert e.1 e.2 := by
  rw [addDeclaration, entered?]
  cases d.parent with
  | none => rfl
  | some block =>
      rw [Option.bind_some]
      by_cases hb : t.kind? block = some .block
      · simp only [hb, if_true]
        cases t.span? block with
        | none => rfl
        | some place => cases t.span? d.identifier <;> rfl
      · simp only [hb, if_false, Option.elim_none]

/-- **The table of a tree is the map of what its declarations enter**, in the order of a walk. -/
theorem entries_ofTree (t : SyntaxTree) :
    (ofTree t).entries = Assoc.ofPairs ((localDeclarations t).filterMap (entered? t)) :=
  Assoc.foldl_insert_eq entries (addDeclaration t) (entered? t) (entries_addDeclaration t) rfl _

/-- **A declaration governs what stands below its block** with its name. -/
structure Governs (t : SyntaxTree) (d : Declaration) (v : LocalVariable) (name : String)
    (block : NodeId) : Prop where
  mem : d ∈ localDeclarations t
  name_eq : d.name = name
  parent_eq : d.parent = some block
  kind?_block : t.kind? block = some .block
  span?_identifier : t.span? d.identifier = some v.declaration
  address_eq : d.address = v.address

theorem entered?_eq_some {d : Declaration} {name : String} {start : Nat} {v : LocalVariable}
    (h : entered? t d = some ((name, start), v)) (hd : d ∈ localDeclarations t) :
    ∃ block place, t.span? block = some place ∧ place.start = start ∧
      Governs t d v name block := by
  obtain ⟨block, hparent, h⟩ := Option.bind_eq_some_iff.1 h
  split at h
  · next hblock =>
      obtain ⟨place, hplace, h⟩ := Option.bind_eq_some_iff.1 h
      obtain ⟨declaration, hspan, h⟩ := Option.map_eq_some_iff.1 h
      cases h
      exact ⟨block, place, hplace, rfl, hd, rfl, hparent, hblock, hspan, rfl⟩
  · cases h

/-- A variable in the table was declared directly in a block that begins where the table says. -/
theorem exists_governs_of_get? {name : String} {start : Nat} {v : LocalVariable}
    (h : (ofTree t).get? name start = some v) :
    ∃ d block place, t.span? block = some place ∧ place.start = start ∧
      Governs t d v name block := by
  rw [get?, entries_ofTree, Assoc.find?_ofPairs] at h
  obtain ⟨d, hd, hentry⟩ := List.mem_filterMap.1 h.mem
  exact ⟨d, entered?_eq_some hentry hd⟩

/-- **A variable that is found for an identifier was declared directly in a block around the
identifier**, provided that blocks begin at places of their own. -/
theorem exists_governs_of_find? (ht : t.Located) {id : NodeId} {name : String}
    {v : LocalVariable} (h : (ofTree t).find? t id name = some v) :
    ∃ d block, Governs t d v name block ∧ block ∈ t.ancestors id := by
  obtain ⟨b, hb, h⟩ := List.exists_of_findSome?_eq_some h
  rw [inBlock?] at h
  split at h
  · next hkind =>
      obtain ⟨s, hs, hget⟩ := Option.bind_eq_some_iff.1 h
      obtain ⟨d, block, place, hplace, hstart, hgov⟩ := exists_governs_of_get? hget
      -- The table knows the block by its offset, which no other block has.
      obtain rfl : block = b :=
        ht.blocks_apart.eq_of_start_eq hgov.kind?_block (by simp) hkind (by simp) hplace hs hstart
      exact ⟨d, block, hgov, hb⟩
  · cases h

/-! ### Any table -/

/-- **A variable of a table governs an identifier**: it is that of the innermost block around the
identifier which has a variable of the name. -/
def Governing (table : LocalTable) (t : SyntaxTree) (id : NodeId) (name : String)
    (v : LocalVariable) : Prop :=
  ∃ inner block outer, t.ancestors id = inner ++ block :: outer ∧
    table.inBlock? t name block = some v ∧ ∀ b ∈ inner, table.inBlock? t name b = none

/-- **A table finds the variable that governs an identifier, and nothing else.** -/
theorem find?_eq_some {table : LocalTable} {id : NodeId} {name : String} {v : LocalVariable} :
    table.find? t id name = some v ↔ table.Governing t id name v :=
  List.findSome?_eq_some_iff

end LocalTable

end AddressTrace
