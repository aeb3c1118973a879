import AddressTrace.Data.Assoc
import Mathlib.Data.List.Induction
import Mathlib.Data.List.Nodup
import Mathlib.Data.Set.Card

/-!
# Association lists from pairs

What an association list holds after some pairs were inserted one after the other: for each key the
value of the last pair with this key, as one entry.

## Main definitions

* `Assoc.ofPairs` — the map of some pairs;
* `Assoc.LastAt` — the last pair of a key has this value;
* `Assoc.valuesOf` — the values that some pairs have for a key.

## Main statements

* `Assoc.find?_ofPairs` — the last pair of a key counts;
* `Assoc.lastAt_iff_getLast?` — no more than the values of its own key decides about it;
* `Assoc.mem_entries` — an entry is the value of its key;
* `Assoc.size_eq`, `Assoc.isEmpty_iff` — the size counts the keys with a value;
* `Assoc.size_ofPairs` — the size of the map of some pairs counts their keys.
-/

namespace AddressTrace

namespace Assoc

variable {κ β : Type}

/-- **The last pair with this key has this value.** -/
def LastAt (k : κ) (v : β) (pairs : List (κ × β)) : Prop :=
  ∃ before after, pairs = before ++ (k, v) :: after ∧ ∀ e ∈ after, e.1 ≠ k

theorem LastAt.mem {k : κ} {v : β} {pairs : List (κ × β)} (h : LastAt k v pairs) :
    (k, v) ∈ pairs := by
  obtain ⟨before, after, rfl, -⟩ := h
  exact List.mem_append_right _ List.mem_cons_self

theorem not_lastAt_nil (k : κ) (v : β) : ¬ LastAt k v [] :=
  fun h => List.not_mem_nil h.mem

/-- The last pair of all counts for its key and for no other key. -/
theorem lastAt_concat {k : κ} {v : β} {pairs : List (κ × β)} {e : κ × β} :
    LastAt k v (pairs ++ [e]) ↔ e = (k, v) ∨ (e.1 ≠ k ∧ LastAt k v pairs) := by
  constructor
  · rintro ⟨before, after, heq, hafter⟩
    rcases List.eq_nil_or_concat after with rfl | ⟨after, last, rfl⟩
    · exact .inl (List.head_eq_of_cons_eq (List.append_inj' heq rfl).2)
    · rw [List.concat_eq_append, ← List.cons_append, ← List.append_assoc] at heq
      obtain ⟨hpairs, hlast⟩ := List.append_inj' heq rfl
      obtain rfl : e = last := List.head_eq_of_cons_eq hlast
      exact .inr ⟨hafter e (by simp), before, after, hpairs, fun x hx => hafter x (by simp [hx])⟩
  · rintro (rfl | ⟨hne, before, after, rfl, hafter⟩)
    · exact ⟨pairs, [], rfl, fun x hx => absurd hx List.not_mem_nil⟩
    · refine ⟨before, after ++ [e], by simp, fun x hx => ?_⟩
      rcases List.mem_append.1 hx with hx | hx
      · exact hafter x hx
      · exact List.mem_singleton.1 hx ▸ hne

/-- A key of some pairs has a last value. -/
theorem exists_lastAt {k : κ} {v : β} {pairs : List (κ × β)} (h : (k, v) ∈ pairs) :
    ∃ w, LastAt k w pairs := by
  induction pairs using List.reverseRecOn with
  | nil => exact absurd h List.not_mem_nil
  | append_singleton pairs e ih =>
      by_cases hk : e.1 = k
      · exact ⟨e.2, lastAt_concat.2 (.inl (hk ▸ rfl))⟩
      · rcases List.mem_append.1 h with h | h
        · obtain ⟨w, hw⟩ := ih h
          exact ⟨w, lastAt_concat.2 (.inr ⟨hk, hw⟩)⟩
        · exact absurd (congrArg Prod.fst (List.mem_singleton.1 h)).symm hk

/-- With the keys of some pairs apart, each pair is the last one of its key. -/
theorem lastAt_iff_mem {k : κ} {v : β} {pairs : List (κ × β)} (h : (pairs.map Prod.fst).Nodup) :
    LastAt k v pairs ↔ (k, v) ∈ pairs := by
  refine ⟨LastAt.mem, fun hmem => ?_⟩
  obtain ⟨before, after, rfl⟩ := List.append_of_mem hmem
  rw [List.map_append, List.map_cons] at h
  have hafter : k ∉ after.map Prod.fst := (List.nodup_cons.1 (List.nodup_append.1 h).2.1).1
  exact ⟨before, after, rfl, fun e he heq => hafter (heq ▸ List.mem_map_of_mem he)⟩

variable [DecidableEq κ]

/-- The values that some pairs have for a key, in their order. -/
def valuesOf (k : κ) (pairs : List (κ × β)) : List β :=
  (pairs.filter (·.1 = k)).map Prod.snd

theorem valuesOf_concat (k : κ) (pairs : List (κ × β)) (e : κ × β) :
    valuesOf k (pairs ++ [e]) = valuesOf k pairs ++ if e.1 = k then [e.2] else [] := by
  rw [valuesOf, List.filter_append, List.map_append]
  split
  · next hk =>
      rw [List.filter_cons_of_pos (by simpa using hk)]
      rfl
  · next hk =>
      rw [List.filter_cons_of_neg (by simpa using hk)]
      rfl

theorem valuesOf_ne_nil {k : κ} {pairs : List (κ × β)} :
    valuesOf k pairs ≠ [] ↔ k ∈ pairs.map Prod.fst := by
  simp [valuesOf, List.filter_eq_nil_iff]

/-- The last pair of a key has the last one of its values. -/
theorem lastAt_iff_getLast? {k : κ} {v : β} {pairs : List (κ × β)} :
    LastAt k v pairs ↔ (valuesOf k pairs).getLast? = some v := by
  induction pairs using List.reverseRecOn with
  | nil => exact iff_of_false (not_lastAt_nil k v) (fun h => nomatch h)
  | append_singleton pairs e ih =>
      rw [lastAt_concat, valuesOf_concat, ih]
      by_cases hk : e.1 = k
      · subst hk
        simp [Prod.ext_iff]
      · have hne : e ≠ (k, v) := fun he => hk (congrArg Prod.fst he)
        simp [hk, hne]

/-- **The map of some pairs**, inserted one after the other. -/
def ofPairs (pairs : List (κ × β)) : Assoc κ β :=
  pairs.foldl (fun m e => m.insert e.1 e.2) empty

theorem ofPairs_concat (pairs : List (κ × β)) (e : κ × β) :
    ofPairs (pairs ++ [e]) = (ofPairs pairs).insert e.1 e.2 := by
  rw [ofPairs, List.foldl_append]
  rfl

/-- **The last pair of a key counts.** -/
theorem find?_ofPairs {pairs : List (κ × β)} {k : κ} {v : β} :
    (ofPairs pairs).find? k = some v ↔ LastAt k v pairs := by
  induction pairs using List.reverseRecOn with
  | nil => exact iff_of_false (fun h => nomatch h) (not_lastAt_nil k v)
  | append_singleton pairs e ih =>
      rw [ofPairs_concat, lastAt_concat, ← ih]
      by_cases hk : e.1 = k
      · subst hk
        rw [find?_insert_self, Option.some_inj, Prod.ext_iff]
        simp
      · rw [find?_insert_of_ne _ hk]
        have hne : e ≠ (k, v) := fun he => hk (congrArg Prod.fst he)
        simp [hk, hne]

/-- A key has one last value at most. -/
theorem LastAt.unique {k : κ} {v w : β} {pairs : List (κ × β)} (h : LastAt k v pairs)
    (h' : LastAt k w pairs) : v = w :=
  Option.some.inj ((find?_ofPairs.2 h).symm.trans (find?_ofPairs.2 h'))

/-- Something that holds a map, into which each step inserts one pair or none, holds in the end the
map of the pairs inserted. -/
theorem foldl_insert_eq {σ α : Type} (entries : σ → Assoc κ β) (step : σ → α → σ)
    (pair? : α → Option (κ × β))
    (h : ∀ s a, entries (step s a) =
      (pair? a).elim (entries s) fun e => (entries s).insert e.1 e.2)
    {s : σ} (hs : entries s = empty) (as : List α) :
    entries (as.foldl step s) = ofPairs (as.filterMap pair?) := by
  induction as using List.reverseRecOn with
  | nil => exact hs
  | append_singleton as a ih =>
      rw [List.foldl_append, List.foldl_cons, List.foldl_nil, h, ih, List.filterMap_append]
      cases hp : pair? a with
      | none =>
          rw [List.filterMap_cons_none hp, List.filterMap_nil, List.append_nil]
          rfl
      | some e =>
          rw [List.filterMap_cons_some hp, List.filterMap_nil, ofPairs_concat]
          rfl

/-! ### Entries -/

/-- **The entries of a map are the values of its keys.** -/
theorem mem_entries {m : Assoc κ β} {k : κ} {v : β} :
    (k, v) ∈ m.entries ↔ m.find? k = some v :=
  (Entries.lookup_eq_some_iff_mem m.nodup_keys).symm

/-- The entries of a map of pairs are the last ones of their keys. -/
theorem mem_entries_ofPairs {pairs : List (κ × β)} {k : κ} {v : β} :
    (k, v) ∈ (ofPairs pairs).entries ↔ LastAt k v pairs :=
  mem_entries.trans find?_ofPairs

/-- The map of some pairs has their keys. -/
theorem mem_keys_ofPairs {k : κ} {pairs : List (κ × β)} :
    k ∈ (ofPairs pairs).entries.map Prod.fst ↔ k ∈ pairs.map Prod.fst := by
  constructor
  · intro h
    obtain ⟨⟨_, v⟩, hmem, rfl⟩ := List.mem_map.1 h
    exact List.mem_map_of_mem (mem_entries_ofPairs.1 hmem).mem
  · intro h
    obtain ⟨⟨_, v⟩, hmem, rfl⟩ := List.mem_map.1 h
    obtain ⟨w, hw⟩ := exists_lastAt hmem
    exact List.mem_map.2 ⟨_, mem_entries_ofPairs.2 hw, rfl⟩

/-! ### The number of keys -/

/-- **The map of some pairs has as many entries as they have keys.** -/
theorem size_ofPairs (pairs : List (κ × β)) :
    (ofPairs pairs).size = (pairs.map Prod.fst).toFinset.card := by
  have hkeys : ((ofPairs pairs).entries.map Prod.fst).toFinset = (pairs.map Prod.fst).toFinset := by
    ext k
    rw [List.mem_toFinset, List.mem_toFinset, mem_keys_ofPairs]
  rw [← hkeys, List.toFinset_card_of_nodup (ofPairs pairs).nodup_keys, List.length_map, size]

/-- **The size is the number of keys with a value.** -/
theorem size_eq (m : Assoc κ β) :
    m.size = Set.ncard {k | (m.find? k).isSome} := by
  have hkeys : {k | (m.find? k).isSome} = ((m.entries.map Prod.fst).toFinset : Set κ) := by
    ext k
    rw [Set.mem_ofPred_eq, List.coe_toFinset]
    exact Entries.isSome_lookup
  rw [hkeys, Set.ncard_coe_finset, List.toFinset_card_of_nodup m.nodup_keys, List.length_map, size]

/-- A map is empty when no key has a value. -/
theorem isEmpty_iff {m : Assoc κ β} : m.isEmpty ↔ ∀ k, m.find? k = none := by
  rw [isEmpty, List.isEmpty_iff]
  constructor
  · intro h k
    rw [find?, h]
    rfl
  · intro h
    cases hentries : m.entries with
    | nil => rfl
    | cons e rest =>
        have hfound := h e.1
        rw [find?, hentries, List.lookup_cons_self] at hfound
        cases hfound

end Assoc

end AddressTrace
