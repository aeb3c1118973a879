/-!
# Lists of entries

The entries of a finite map as a list of keys with their values, of which the first one of a key
counts, as in `List.lookup`.  Maps differ in where a new key goes: into its place in an order of the
keys, or behind all others.

## Main definitions

* `Entries.insertIn`, `Entries.set` — the entries with one key set.

## Main statements

* `Entries.lookup_insertIn_self`, `Entries.lookup_insertIn_of_ne` — what is changed;
* `Entries.mem_keys_insertIn` — the keys afterwards;
* `Entries.lookup_eq_some_iff_mem` — with the keys apart, an entry is the value of its key.
-/

namespace AddressTrace

namespace Entries

variable {κ β : Type} [DecidableEq κ]

/-- **The entries with one key set**, where `before k` are the keys that a new key `k` goes before.
An entry of the key itself is replaced in its place, and a key that goes before no other comes
last. -/
def insertIn (before : κ → κ → Bool) (k : κ) (v : β) : List (κ × β) → List (κ × β)
  | [] => [(k, v)]
  | (k', v') :: rest =>
    if before k k' then (k, v) :: (k', v') :: rest
    else if k' = k then (k, v) :: rest
    else (k', v') :: insertIn before k v rest

/-- **The entries with one key set**, in place where the key is known and at the end where it is
new. -/
def set (k : κ) (v : β) : List (κ × β) → List (κ × β) := insertIn (fun _ _ => false) k v

theorem set_cons (k : κ) (v : β) (e : κ × β) (l : List (κ × β)) :
    set k v (e :: l) = if e.1 = k then (k, v) :: l else e :: set k v l :=
  rfl

theorem lookup_cons_of_ne {k j : κ} (h : k ≠ j) (v : β) (l : List (κ × β)) :
    ((k, v) :: l).lookup j = l.lookup j := by
  rw [List.lookup_cons, beq_false_of_ne h.symm]

theorem lookup_insertIn_self (before : κ → κ → Bool) (k : κ) (v : β) (l : List (κ × β)) :
    (insertIn before k v l).lookup k = some v := by
  induction l with
  | nil => exact List.lookup_cons_self
  | cons e rest ih =>
    rw [insertIn]
    split
    · exact List.lookup_cons_self
    · split
      · exact List.lookup_cons_self
      · next hne => rw [lookup_cons_of_ne hne, ih]

theorem lookup_insertIn_of_ne (before : κ → κ → Bool) {k j : κ} (h : k ≠ j) (v : β)
    (l : List (κ × β)) : (insertIn before k v l).lookup j = l.lookup j := by
  induction l with
  | nil => exact lookup_cons_of_ne h v []
  | cons e rest ih =>
    rw [insertIn]
    split
    · exact lookup_cons_of_ne h v _
    · split
      · next heq =>
        subst heq
        rw [lookup_cons_of_ne h]
        exact (lookup_cons_of_ne h e.2 rest).symm
      · rw [List.lookup_cons, ih]
        exact List.lookup_cons.symm

/-- An insertion adds its key to the others. -/
theorem mem_keys_insertIn {before : κ → κ → Bool} {k j : κ} {v : β} {l : List (κ × β)} :
    j ∈ (insertIn before k v l).map Prod.fst ↔ j = k ∨ j ∈ l.map Prod.fst := by
  induction l with
  | nil => simp [insertIn]
  | cons e rest ih =>
    rw [insertIn]
    split
    · simp
    · split
      · next heq => simp [heq]
      · rw [List.map_cons, List.mem_cons, ih, List.map_cons, List.mem_cons]
        exact or_left_comm

/-- The keys that are found are those of the entries. -/
theorem isSome_lookup {k : κ} {l : List (κ × β)} :
    (l.lookup k).isSome ↔ k ∈ l.map Prod.fst := by
  rw [List.lookup_isSome_iff, List.mem_map]
  exact exists_congr fun e => and_congr_right fun _ => beq_iff_eq.trans eq_comm

/-- **With the keys apart, an entry is the value of its key.** -/
theorem lookup_eq_some_iff_mem {k : κ} {v : β} {l : List (κ × β)} (h : (l.map Prod.fst).Nodup) :
    l.lookup k = some v ↔ (k, v) ∈ l := by
  induction l with
  | nil => simp
  | cons e rest ih =>
    obtain ⟨k', v'⟩ := e
    obtain ⟨hhead, htail⟩ := List.nodup_cons.1 h
    rw [List.mem_cons, Prod.mk.injEq]
    by_cases hk : k' = k
    · subst hk
      have hrest : (k', v) ∉ rest := fun hmem => hhead (List.mem_map.2 ⟨_, hmem, rfl⟩)
      rw [List.lookup_cons_self, Option.some_inj, or_iff_left hrest, and_iff_right rfl, eq_comm]
    · rw [lookup_cons_of_ne hk, ih htail]
      exact (or_iff_right fun heq => hk heq.1.symm).symm

end Entries

end AddressTrace
