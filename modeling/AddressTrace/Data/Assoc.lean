import AddressTrace.Data.Entries

/-!
# Association lists

Finite maps on keys that can only be told apart.  An entry keeps the place of its first
insertion; no key occurs twice.

## Main definitions

* `Assoc.find?` — the value of a key;
* `Assoc.insert` — the map with one key set.

## Main statements

`find?_insert_self` and `find?_insert_of_ne` say what an insertion changes, `size_insert` how
many keys there are after it.
-/

namespace AddressTrace

/-- **A map as the list of its entries**, no two of them with the same key. -/
structure Assoc (κ β : Type) where
  entries : List (κ × β)
  nodup_keys : (entries.map Prod.fst).Nodup
deriving Repr, DecidableEq

namespace Assoc

variable {κ β : Type}

/-- The map without entries. -/
def empty : Assoc κ β := ⟨[], .nil⟩

/-- The number of keys. -/
def size (m : Assoc κ β) : Nat := m.entries.length

/-- Is there no key at all? -/
def isEmpty (m : Assoc κ β) : Bool := m.entries.isEmpty

variable [DecidableEq κ]

/-- The value that the map has for a key. -/
def find? (m : Assoc κ β) (k : κ) : Option β := m.entries.lookup k

/-- A known key stays where it is, and a new one is put at the end once. -/
theorem nodup_keys_set {l : List (κ × β)} (h : (l.map Prod.fst).Nodup) (k : κ) (v : β) :
    ((Entries.set k v l).map Prod.fst).Nodup := by
  induction l with
  | nil => exact List.pairwise_singleton _ _
  | cons e rest ih =>
    obtain ⟨hout, hrest⟩ := List.nodup_cons.1 h
    rw [Entries.set_cons]
    split
    · next hk => exact List.nodup_cons.2 ⟨hk ▸ hout, hrest⟩
    · next hk =>
      refine List.nodup_cons.2 ⟨fun hm => ?_, ih hrest⟩
      rcases Entries.mem_keys_insertIn.1 hm with heq | hm
      · exact hk heq
      · exact hout hm

/-- **The map with one key set**, whatever it was before. -/
def insert (m : Assoc κ β) (k : κ) (v : β) : Assoc κ β :=
  ⟨Entries.set k v m.entries, nodup_keys_set m.nodup_keys k v⟩

@[simp] theorem find?_empty (k : κ) : (empty : Assoc κ β).find? k = none := rfl

@[simp] theorem find?_insert_self (m : Assoc κ β) (k : κ) (v : β) :
    (m.insert k v).find? k = some v :=
  Entries.lookup_insertIn_self _ k v m.entries

theorem find?_insert_of_ne (m : Assoc κ β) {k j : κ} (h : k ≠ j) (v : β) :
    (m.insert k v).find? j = m.find? j :=
  Entries.lookup_insertIn_of_ne _ h v m.entries

private theorem length_set (k : κ) (v : β) (l : List (κ × β)) :
    (Entries.set k v l).length = if (l.lookup k).isSome then l.length else l.length + 1 := by
  induction l with
  | nil => rfl
  | cons e rest ih =>
    by_cases h : e.1 = k
    · simp [Entries.set_cons, h]
    · simp only [Entries.set_cons, Entries.lookup_cons_of_ne h, h, if_false, List.length_cons, ih]
      split <;> rfl

/-- Setting a known key keeps the number of keys, setting a new one adds one. -/
theorem size_insert (m : Assoc κ β) (k : κ) (v : β) :
    (m.insert k v).size = if (m.find? k).isSome then m.size else m.size + 1 :=
  length_set k v m.entries

end Assoc

end AddressTrace
