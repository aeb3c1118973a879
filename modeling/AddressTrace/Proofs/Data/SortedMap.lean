import AddressTrace.Data.SortedMap
import AddressTrace.Proofs.Data.Assoc
import Mathlib.Data.List.Nodup
import Mathlib.Data.List.Perm.Basic

/-!
# Keys of sorted maps

The keys of a map ascend, so that they differ and an entry is the value of its key.  A map is
therefore determined by the values of its keys, and the map of some pairs by the last pair of each
key.

## Main statements

* `SortedMap.mem_toList` — an entry is the value of its key;
* `SortedMap.find?_ofList_eq_some` — the last pair of a key counts;
* `SortedMap.find?_ofList` — the map of pairs with different keys;
* `SortedMap.ext_find?` — a map is determined by the values of its keys;
* `SortedMap.ofList_append` — the map of two lists of pairs.
-/

namespace AddressTrace

namespace SortedMap

variable {κ β : Type} [LE κ] [LT κ] [Std.LawfulOrderLT κ]

theorem nodup_keys (m : SortedMap κ β) : m.keys.Nodup :=
  m.ascending.imp Std.ne_of_lt

variable [DecidableEq κ]

/-- **The entries of a map are the values of its keys.** -/
theorem mem_toList {m : SortedMap κ β} {k : κ} {v : β} :
    (k, v) ∈ m.toList ↔ m.find? k = some v :=
  (Entries.lookup_eq_some_iff_mem m.nodup_keys).symm

/-- **Maps are equal if their keys have the same values.** -/
theorem ext_find? {m n : SortedMap κ β} (h : ∀ k, m.find? k = n.find? k) : m = n := by
  have hmem : ∀ e, e ∈ m.entries ↔ e ∈ n.entries := fun e => by
    rw [show e ∈ m.entries ↔ _ from mem_toList, h]
    exact mem_toList.symm
  have hperm : m.entries.Perm n.entries :=
    (List.perm_ext_iff_of_nodup (List.Nodup.of_map Prod.fst m.nodup_keys)
      (List.Nodup.of_map Prod.fst n.nodup_keys)).2 hmem
  have hentries : m.entries = n.entries :=
    hperm.eq_of_pairwise (fun a b _ _ hab hba => absurd hba (Std.not_gt_of_lt hab))
      (List.pairwise_map.1 m.ascending) (List.pairwise_map.1 n.ascending)
  cases m
  cases n
  cases hentries
  rfl

variable [Std.IsLinearOrder κ] [DecidableLT κ]

/-- **The last pair of a key counts** in the map of some pairs. -/
theorem find?_ofList_eq_some {pairs : List (κ × β)} {k : κ} {v : β} :
    (ofList pairs).find? k = some v ↔ Assoc.LastAt k v pairs := by
  induction pairs using List.reverseRecOn with
  | nil => exact iff_of_false (fun h => nomatch h) (Assoc.not_lastAt_nil k v)
  | append_singleton pairs e ih =>
      rw [find?_ofList_append, Assoc.lastAt_concat, ← ih, Option.or_eq_some_iff]
      have hlast : (ofList [e]).find? k = if e.1 = k then some e.2 else none := by
        show (empty.insert e.1 e.2).find? k = _
        split
        · next hk => rw [← hk, find?_insert_self]
        · next hk => rw [find?_insert_of_ne _ hk, find?_empty]
      rw [hlast]
      by_cases hk : e.1 = k
      · simp [hk, Prod.ext_iff]
      · simp [hk, Prod.ext_iff]

/-- The keys of the map of some pairs are those of the pairs. -/
theorem mem_keys_ofList {pairs : List (κ × β)} {k : κ} :
    k ∈ (ofList pairs).keys ↔ k ∈ pairs.map Prod.fst := by
  have hfind : k ∈ (ofList pairs).keys ↔ ∃ v, (ofList pairs).find? k = some v :=
    Entries.isSome_lookup.symm.trans Option.isSome_iff_exists
  rw [hfind]
  simp only [find?_ofList_eq_some]
  constructor
  · rintro ⟨v, hv⟩
    exact List.mem_map.2 ⟨_, hv.mem, rfl⟩
  · intro h
    obtain ⟨e, he, rfl⟩ := List.mem_map.1 h
    exact Assoc.exists_lastAt he

/-- With the keys of some pairs apart, their map has for each key the value of its pair. -/
theorem find?_ofList {pairs : List (κ × β)} (h : (pairs.map Prod.fst).Nodup) {k : κ} {v : β} :
    (ofList pairs).find? k = some v ↔ (k, v) ∈ pairs :=
  find?_ofList_eq_some.trans (Assoc.lastAt_iff_mem h)

/-- A map is made of its entries, in whatever order they are inserted. -/
theorem ofList_eq_of_perm {m : SortedMap κ β} {pairs : List (κ × β)} (h : pairs.Perm m.toList) :
    ofList pairs = m := by
  have hkeys : (pairs.map Prod.fst).Nodup := (h.map Prod.fst).nodup_iff.2 m.nodup_keys
  refine ext_find? fun k => Option.ext fun v => ?_
  rw [find?_ofList hkeys, h.mem_iff, mem_toList]

/-- **The map of two lists of pairs** is that of the second one laid over that of the first. -/
theorem ofList_append (l₁ l₂ : List (κ × β)) :
    ofList (l₁ ++ l₂) = (ofList l₁).override (ofList l₂) := by
  have hover : (ofList l₁).override (ofList l₂) = ofList (l₁ ++ (ofList l₂).toList) :=
    List.foldl_append.symm
  have hself : ofList (ofList l₂).toList = ofList l₂ := ofList_eq_of_perm (.refl _)
  rw [hover]
  refine ext_find? fun k => ?_
  rw [find?_ofList_append, find?_ofList_append, hself]

end SortedMap

end AddressTrace
