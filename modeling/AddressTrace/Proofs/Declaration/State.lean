import AddressTrace.Proofs.Declaration.Basic
import AddressTrace.Proofs.Declaration.Nearest

/-!
# What the table of state variables knows

The declarations of state variables are recorded by name and offset.  For an identifier the table
gives the declaration of its name that begins last among those that do not begin after it, with
the address recorded there last.

## Main definitions

* `StateTable.recorded` — what the declarations of a tree record;
* `StateTable.Nearest` — the declaration that begins last at or before an offset.

## Main statements

* `StateTable.ofTree_eq` — the table as that of what is recorded;
* `StateTable.find?_ofTree` — the table finds the nearest declaration, and nothing else.
-/

namespace AddressTrace

open Text SyntaxTree

namespace StateTable

variable {t : SyntaxTree}

/-- What a declaration records, if its identifier has a known place. -/
def recorded? (t : SyntaxTree) (d : Declaration) : Option ((String × Nat) × String) :=
  (t.span? d.identifier).map fun span => ((d.name, span.start), d.address)

/-- **What the declarations of a tree record**: names and offsets with addresses, in the order of a
walk. -/
def recorded (t : SyntaxTree) : List ((String × Nat) × String) :=
  (stateDeclarations t).filterMap (recorded? t)

theorem entries_addDeclaration (t : SyntaxTree) (table : StateTable) (d : Declaration) :
    (addDeclaration t table d).entries =
      (recorded? t d).elim table.entries fun e => table.entries.insert e.1 e.2 := by
  rw [addDeclaration, recorded?]
  cases t.span? d.identifier <;> rfl

/-- **The table of a tree is that of what its declarations record.** -/
theorem ofTree_eq (t : SyntaxTree) : ofTree t = ofEntries (recorded t) := by
  have h : (ofTree t).entries = Assoc.ofPairs (recorded t) :=
    Assoc.foldl_insert_eq entries (addDeclaration t) (recorded? t) (entries_addDeclaration t) rfl _
  exact congrArg mk (h.trans (entries_ofEntries _).symm)

/-! ### The nearest declaration -/

/-- **The nearest declaration of a name at or before an offset**: the declaration of the name that
begins last among those that do not begin after the offset, and the address that was recorded for
this name and this beginning last. -/
structure Nearest (t : SyntaxTree) (name : String) (offset start : Nat) (address : String) :
    Prop where
  le : start ≤ offset
  lastAt : Assoc.LastAt (name, start) address (recorded t)
  greatest : ∀ s a, ((name, s), a) ∈ recorded t → s ≤ offset → s ≤ start

/-- There is one nearest declaration at most. -/
theorem Nearest.unique {name : String} {offset start start' : Nat} {address address' : String}
    (h : Nearest t name offset start address) (h' : Nearest t name offset start' address') :
    start = start' ∧ address = address' := by
  obtain rfl : start = start' := Nat.le_antisymm (h'.greatest start address h.lastAt.mem h.le)
    (h.greatest start' address' h'.lastAt.mem h'.le)
  exact ⟨rfl, h.lastAt.unique h'.lastAt⟩

/-- **The table of a tree finds the nearest declaration, and nothing else.** -/
theorem find?_ofTree {name : String} {offset start : Nat} {address : String} :
    (ofTree t).find? name offset = some (start, address) ↔
      Nearest t name offset start address := by
  rw [ofTree_eq, find?_ofEntries]
  constructor
  · rintro ⟨hgreatest, hlast⟩
    obtain ⟨hle, hgreatest⟩ := (isGreatest_offsetsUpTo hlast.mem).1 hgreatest
    exact ⟨hle, hlast, hgreatest⟩
  · intro h
    exact ⟨(isGreatest_offsetsUpTo h.lastAt.mem).2 ⟨h.le, h.greatest⟩, h.lastAt⟩

end StateTable

end AddressTrace
