import AddressTrace.Data.Entries

/-!
# Sorted maps

Finite maps whose entries stand in ascending order of their keys, so that a map is determined
by the values of its keys and is read out in one order only.

## Main definitions

* `SortedMap.find?` — the value of a key;
* `SortedMap.insert` — the map with one key set, whatever it was before;
* `SortedMap.insertNew` — the map with one key set unless it was set already;
* `SortedMap.ofList` — the map of some pairs, the last pair of a key counting.

## Main statements

`find?_insert_self`, `find?_insert_of_ne` and `find?_insertNew` say what an insertion changes, and
`find?_ofList_append` that later pairs go before earlier ones.
-/

namespace AddressTrace

/-- **A map as the list of its entries**, in ascending order of the keys. -/
structure SortedMap (κ β : Type) [LT κ] where
  entries : List (κ × β)
  ascending : (entries.map Prod.fst).Pairwise (· < ·)
deriving Repr, DecidableEq

namespace SortedMap

variable {κ β : Type}

/-- The value of the first entry with this key. -/
abbrev findIn [DecidableEq κ] (k : κ) (entries : List (κ × β)) : Option β := entries.lookup k

/-- Puts an entry before the first greater key, in place of an entry with the same key. -/
def insertIn [DecidableEq κ] [LT κ] [DecidableLT κ] (k : κ) (v : β) :
    List (κ × β) → List (κ × β) :=
  Entries.insertIn (· < ·) k v

variable [LT κ]

/-- The map without entries. -/
def empty : SortedMap κ β := ⟨[], .nil⟩

/-- The entries in ascending order of the keys. -/
def toList (m : SortedMap κ β) : List (κ × β) := m.entries

/-- The keys in ascending order. -/
def keys (m : SortedMap κ β) : List κ := m.entries.map Prod.fst

/-- The values in ascending order of their keys. -/
def values (m : SortedMap κ β) : List β := m.entries.map Prod.snd

/-- The number of keys. -/
def size (m : SortedMap κ β) : Nat := m.entries.length

/-- Is there no key at all? -/
def isEmpty (m : SortedMap κ β) : Bool := m.entries.isEmpty

variable [DecidableEq κ]

/-- The value that the map has for a key. -/
def find? (m : SortedMap κ β) (k : κ) : Option β := findIn k m.entries

/-- Does the map have a value for this key? -/
def contains (m : SortedMap κ β) (k : κ) : Bool := (m.find? k).isSome

@[simp] theorem find?_empty (k : κ) : (empty : SortedMap κ β).find? k = none := rfl

variable [LE κ] [Std.LawfulOrderLT κ] [Std.IsLinearOrder κ] [DecidableLT κ]

/-- An entry is put where the keys go on ascending. -/
theorem ascending_insertIn {l : List (κ × β)} (h : (l.map Prod.fst).Pairwise (· < ·)) (k : κ)
    (v : β) : ((insertIn k v l).map Prod.fst).Pairwise (· < ·) := by
  induction l with
  | nil => exact List.pairwise_singleton _ _
  | cons e rest ih =>
    obtain ⟨hhead, htail⟩ := List.pairwise_cons.1 h
    rw [insertIn, Entries.insertIn]
    split
    · next hlt =>
      have hlt : k < e.1 := of_decide_eq_true hlt
      refine List.pairwise_cons.2 ⟨fun j hj => ?_, h⟩
      rcases List.mem_cons.1 hj with rfl | hj
      · exact hlt
      · exact Std.lt_trans hlt (hhead j hj)
    · next hlt =>
      split
      · next heq => exact List.pairwise_cons.2 ⟨heq ▸ hhead, htail⟩
      · next hne =>
        have hle : e.1 ≤ k := Std.not_lt.1 fun hlt' => hlt (decide_eq_true hlt')
        refine List.pairwise_cons.2 ⟨fun j hj => ?_, ih htail⟩
        rcases Entries.mem_keys_insertIn.1 hj with rfl | hj
        · exact Std.lt_of_le_of_ne hle hne
        · exact hhead j hj

/-- **The map with one key set**, whatever it was before. -/
def insert (m : SortedMap κ β) (k : κ) (v : β) : SortedMap κ β :=
  ⟨insertIn k v m.entries, ascending_insertIn m.ascending k v⟩

/-- **The map with one key set unless it was set already**: the first value stays. -/
def insertNew (m : SortedMap κ β) (k : κ) (v : β) : SortedMap κ β :=
  if m.contains k then m else m.insert k v

/-- The map of some pairs; the last pair of a key counts. -/
def ofList (pairs : List (κ × β)) : SortedMap κ β :=
  pairs.foldl (fun m e => m.insert e.1 e.2) empty

/-- The second map laid over the first. -/
def override (m n : SortedMap κ β) : SortedMap κ β :=
  n.entries.foldl (fun m e => m.insert e.1 e.2) m

/-! ### Values after a change -/

@[simp] theorem find?_insert_self (m : SortedMap κ β) (k : κ) (v : β) :
    (m.insert k v).find? k = some v :=
  Entries.lookup_insertIn_self _ k v m.entries

theorem find?_insert_of_ne (m : SortedMap κ β) {k j : κ} (h : k ≠ j) (v : β) :
    (m.insert k v).find? j = m.find? j :=
  Entries.lookup_insertIn_of_ne _ h v m.entries

/-- A new key gets its value and a known one keeps its own. -/
theorem find?_insertNew (m : SortedMap κ β) (k j : κ) (v : β) :
    (m.insertNew k v).find? j = (m.find? j).or (if k = j then some v else none) := by
  unfold insertNew contains
  by_cases hj : k = j
  · subst hj
    cases h : m.find? k <;> simp [h]
  · rw [if_neg hj, Option.or_none]
    split
    · rfl
    · exact find?_insert_of_ne m hj v

private theorem find?_foldl_insert (pairs : List (κ × β)) (m : SortedMap κ β) (k : κ) :
    (pairs.foldl (fun m e => m.insert e.1 e.2) m).find? k =
      ((ofList pairs).find? k).or (m.find? k) := by
  induction pairs generalizing m with
  | nil => simp [ofList]
  | cons e rest ih =>
    have hcons : (ofList (e :: rest)).find? k =
        ((ofList rest).find? k).or ((empty.insert e.1 e.2).find? k) := ih _
    rw [List.foldl_cons, ih, hcons]
    by_cases h : e.1 = k
    · subst h
      cases (ofList rest).find? e.1 <;> simp
    · simp [find?_insert_of_ne _ h]

/-- Of two lists of pairs the second one counts where it has a key. -/
theorem find?_ofList_append (l₁ l₂ : List (κ × β)) (k : κ) :
    (ofList (l₁ ++ l₂)).find? k = ((ofList l₂).find? k).or ((ofList l₁).find? k) := by
  have h : ofList (l₁ ++ l₂) = l₂.foldl (fun m e => m.insert e.1 e.2) (ofList l₁) :=
    List.foldl_append
  rw [h, find?_foldl_insert]

end SortedMap

end AddressTrace
