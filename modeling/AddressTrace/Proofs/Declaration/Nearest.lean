import AddressTrace.Proofs.Data.Assoc
import AddressTrace.Declaration.State
import Mathlib.Order.Bounds.Defs

/-!
# The nearest variable of a name

A table of state variables is asked for a name and an offset.  It gives the entry of the name that
begins last among those that do not begin after the offset.  In terms of what was entered: the
greatest offset at or below the one asked for, with the address that was entered there last.  What
was entered under other names or beyond the offset is not seen, and neither is the order in which
different offsets were entered.

## Main definitions

* `StateTable.NearestIn` — the entry of a table that begins last at or before an offset;
* `StateTable.ofEntries` — the table of some variables, entered one after the other;
* `StateTable.offsetsUpTo` — the offsets at or below a bound at which a name was entered.

## Main statements

* `StateTable.isLatest_find?`, `StateTable.find?_eq_some` — any table finds its nearest entry;
* `StateTable.find?_ofEntries`, `StateTable.find?_ofEntries_eq_none` — what the table of some
  variables finds, and when it finds nothing;
* `StateTable.find?_ofEntries_congr` — what it does not depend on;
* `StateTable.nearest_of_entered` — all of this, and the number of variables.
-/

namespace AddressTrace

namespace StateTable

/-! ### The greatest offset among some entries -/

/-- What a search of the table has found in these entries: an entry of the name at the greatest
offset that is not beyond the one asked for, or nothing if there is no such entry. -/
def IsLatest (name : String) (offset : Nat) (l : List ((String × Nat) × String)) :
    Option (Nat × String) → Prop
  | none => ∀ s a, ((name, s), a) ∈ l → ¬ s ≤ offset
  | some (start, address) =>
    ((name, start), address) ∈ l ∧ start ≤ offset ∧
      ∀ s a, ((name, s), a) ∈ l → s ≤ offset → s ≤ start

private theorem isLatest_concat_of_ne {name : String} {offset : Nat}
    {l : List ((String × Nat) × String)} {best : Option (Nat × String)}
    (h : IsLatest name offset l best) {e : (String × Nat) × String}
    (he : ¬ (e.1.1 = name ∧ e.1.2 ≤ offset)) : IsLatest name offset (l ++ [e]) best := by
  have hold : ∀ s a, ((name, s), a) ∈ l ++ [e] → s ≤ offset → ((name, s), a) ∈ l := by
    intro s a hmem hs
    rcases List.mem_append.1 hmem with hmem | hmem
    · exact hmem
    · obtain rfl := List.mem_singleton.1 hmem
      exact absurd ⟨rfl, hs⟩ he
  rcases best with _ | ⟨start, address⟩
  · exact fun s a hmem hs => h s a (hold s a hmem hs) hs
  · exact ⟨List.mem_append_left _ h.1, h.2.1,
      fun s a hmem hs => h.2.2 s a (hold s a hmem hs) hs⟩

private theorem isLatest_later {name : String} {offset : Nat}
    {l : List ((String × Nat) × String)} {best : Option (Nat × String)}
    (h : IsLatest name offset l best) {start : Nat} (address : String) (hs : start ≤ offset) :
    IsLatest name offset (l ++ [((name, start), address)]) (later best start address) := by
  have hnew : ((name, start), address) ∈ l ++ [((name, start), address)] := by simp
  have hcases : ∀ s a, ((name, s), a) ∈ l ++ [((name, start), address)] →
      ((name, s), a) ∈ l ∨ s = start := by
    intro s a hmem
    rcases List.mem_append.1 hmem with hmem | hmem
    · exact .inl hmem
    · cases List.mem_singleton.1 hmem
      exact .inr rfl
  rcases best with _ | ⟨o, a⟩
  · refine ⟨hnew, hs, ?_⟩
    intro s b hmem hle
    rcases hcases s b hmem with hmem | rfl
    · exact absurd hle (h s b hmem)
    · exact Nat.le_refl s
  · rw [later]
    by_cases ho : o ≤ start
    · rw [if_pos ho]
      refine ⟨hnew, hs, ?_⟩
      intro s b hmem hle
      rcases hcases s b hmem with hmem | rfl
      · exact Nat.le_trans (h.2.2 s b hmem hle) ho
      · exact Nat.le_refl s
    · rw [if_neg ho]
      -- The entry lies before the best one, although it comes later in the list.
      refine ⟨List.mem_append_left _ h.1, h.2.1, ?_⟩
      intro s b hmem hle
      rcases hcases s b hmem with hmem | rfl
      · exact h.2.2 s b hmem hle
      · exact Nat.le_of_not_le ho

/-- A search of the table finds the entry of the name at the greatest offset. -/
theorem isLatest_find? (table : StateTable) (name : String) (offset : Nat) :
    IsLatest name offset table.entries.entries (table.find? name offset) := by
  rw [find?]
  generalize table.entries.entries = l
  -- The search looks at the last entry behind all others.
  induction l using List.reverseRecOn with
  | nil => exact fun s a hmem => absurd hmem List.not_mem_nil
  | append_singleton l e ih =>
      obtain ⟨⟨n, o⟩, address⟩ := e
      rw [List.foldl_append, List.foldl_cons, List.foldl_nil]
      dsimp only
      by_cases he : n = name ∧ o ≤ offset
      · rw [if_pos he]
        obtain ⟨rfl, ho⟩ := he
        exact isLatest_later ih address ho
      · rw [if_neg he]
        exact isLatest_concat_of_ne ih he

/-! ### Any table -/

/-- **The nearest entry of a name at or before an offset**: of the entries of the name that do not
begin after the offset the one that begins last, and the address that was entered there last. -/
structure NearestIn (table : StateTable) (name : String) (offset start : Nat) (address : String) :
    Prop where
  le : start ≤ offset
  lastAt : Assoc.LastAt (name, start) address table.entries.entries
  greatest : ∀ s a, ((name, s), a) ∈ table.entries.entries → s ≤ offset → s ≤ start

/-- **A table finds its nearest entry, and nothing else.** -/
theorem find?_eq_some {table : StateTable} {name : String} {offset start : Nat} {address : String} :
    table.find? name offset = some (start, address) ↔
      table.NearestIn name offset start address := by
  have hlatest := isLatest_find? table name offset
  have hlast : ∀ {s a}, ((name, s), a) ∈ table.entries.entries →
      Assoc.LastAt (name, s) a table.entries.entries :=
    fun hmem => (Assoc.lastAt_iff_mem table.entries.nodup_keys).2 hmem
  constructor
  · intro h
    rw [h] at hlatest
    exact ⟨hlatest.2.1, hlast hlatest.1, hlatest.2.2⟩
  · intro h
    cases hfound : table.find? name offset with
    | none =>
        rw [hfound] at hlatest
        exact absurd h.le (hlatest start address h.lastAt.mem)
    | some found =>
        rw [hfound] at hlatest
        obtain ⟨s, a⟩ := found
        obtain ⟨hmem, hle, hgreatest⟩ := hlatest
        obtain rfl : s = start := Nat.le_antisymm (h.greatest s a hmem hle)
          (hgreatest start address h.lastAt.mem h.le)
        rw [(hlast hmem).unique h.lastAt]

/-! ### The table of some variables -/

/-- **The table of some variables**, entered one after the other: names and offsets with
addresses. -/
def ofEntries (entered : List ((String × Nat) × String)) : StateTable :=
  entered.foldl (fun table e => table.add e.1.1 e.1.2 e.2) .empty

/-- **The offsets at or below a bound** at which a name was entered. -/
def offsetsUpTo (name : String) (bound : Nat) (entered : List ((String × Nat) × String)) :
    Set Nat :=
  {start | start ≤ bound ∧ (name, start) ∈ entered.map Prod.fst}

section Entered

variable {entered : List ((String × Nat) × String)} {name : String} {offset start : Nat}
  {address : String}

theorem entries_ofEntries (entered : List ((String × Nat) × String)) :
    (ofEntries entered).entries = Assoc.ofPairs entered := by
  have h := Assoc.foldl_insert_eq entries
    (fun table e => table.add e.1.1 e.1.2 e.2) some (fun _ _ => rfl) (s := .empty) rfl entered
  rwa [List.filterMap_some] at h

/-- An offset that was entered is the greatest one if no entry lies between it and the bound. -/
theorem isGreatest_offsetsUpTo (h : ((name, start), address) ∈ entered) :
    IsGreatest (offsetsUpTo name offset entered) start ↔
      start ≤ offset ∧ ∀ s a, ((name, s), a) ∈ entered → s ≤ offset → s ≤ start := by
  constructor
  · rintro ⟨⟨hle, -⟩, hgreatest⟩
    exact ⟨hle, fun s a hmem hs => hgreatest ⟨hs, List.mem_map_of_mem hmem⟩⟩
  · rintro ⟨hle, hgreatest⟩
    refine ⟨⟨hle, List.mem_map_of_mem h⟩, ?_⟩
    rintro s ⟨hs, hkey⟩
    obtain ⟨⟨_, a⟩, hmem, rfl⟩ := List.mem_map.1 hkey
    exact hgreatest s a hmem hs

/-- The entries of a table have the offsets at which they were entered. -/
theorem offsetsUpTo_entries (entered : List ((String × Nat) × String)) (name : String)
    (bound : Nat) :
    offsetsUpTo name bound (ofEntries entered).entries.entries =
      offsetsUpTo name bound entered := by
  ext start
  rw [entries_ofEntries]
  exact and_congr_right fun _ => Assoc.mem_keys_ofPairs

/-- **What is found begins last, and was entered there last.** -/
theorem find?_ofEntries :
    (ofEntries entered).find? name offset = some (start, address) ↔
      IsGreatest (offsetsUpTo name offset entered) start ∧
        Assoc.LastAt (name, start) address entered := by
  have hlast : Assoc.LastAt (name, start) address (ofEntries entered).entries.entries ↔
      Assoc.LastAt (name, start) address entered := by
    rw [Assoc.lastAt_iff_mem (ofEntries entered).entries.nodup_keys, entries_ofEntries,
      Assoc.mem_entries_ofPairs]
  rw [find?_eq_some, ← hlast, ← offsetsUpTo_entries]
  constructor
  · intro h
    exact ⟨(isGreatest_offsetsUpTo h.lastAt.mem).2 ⟨h.le, h.greatest⟩, h.lastAt⟩
  · rintro ⟨hgreatest, hlastAt⟩
    obtain ⟨hle, hgreatest⟩ := (isGreatest_offsetsUpTo hlastAt.mem).1 hgreatest
    exact ⟨hle, hlastAt, hgreatest⟩

/-- **Nothing is found** if the name was not entered at or below the offset. -/
theorem find?_ofEntries_eq_none :
    (ofEntries entered).find? name offset = none ↔ offsetsUpTo name offset entered = ∅ := by
  have hlatest := isLatest_find? (ofEntries entered) name offset
  rw [← offsetsUpTo_entries]
  constructor
  · intro h
    rw [h] at hlatest
    refine Set.eq_empty_of_forall_notMem ?_
    rintro s ⟨hs, hkey⟩
    obtain ⟨⟨_, a⟩, hmem, rfl⟩ := List.mem_map.1 hkey
    exact hlatest s a hmem hs
  · intro h
    cases hfound : (ofEntries entered).find? name offset with
    | none => rfl
    | some found =>
        rw [hfound] at hlatest
        obtain ⟨hmem, hle, -⟩ := hlatest
        have hoffset : found.1 ∈ offsetsUpTo name offset (ofEntries entered).entries.entries :=
          ⟨hle, List.mem_map_of_mem hmem⟩
        rw [h] at hoffset
        exact absurd hoffset (Set.notMem_empty _)

/-- **What is found depends on nothing but the addresses entered under the name at each offset up to
the one asked for**, in the order in which they were entered there. -/
theorem find?_ofEntries_congr {other : List ((String × Nat) × String)}
    (h : ∀ start ≤ offset,
      Assoc.valuesOf (name, start) other = Assoc.valuesOf (name, start) entered) :
    (ofEntries other).find? name offset = (ofEntries entered).find? name offset := by
  have hoffsets : offsetsUpTo name offset other = offsetsUpTo name offset entered := by
    ext start
    refine and_congr_right fun hle => ?_
    rw [← Assoc.valuesOf_ne_nil, ← Assoc.valuesOf_ne_nil, h start hle]
  refine Option.ext fun found => ?_
  rw [find?_ofEntries, find?_ofEntries, hoffsets]
  refine and_congr_right fun hgreatest => ?_
  rw [Assoc.lastAt_iff_getLast?, Assoc.lastAt_iff_getLast?, h found.1 hgreatest.1.1]

theorem size_ofEntries (entered : List ((String × Nat) × String)) :
    (ofEntries entered).size = (entered.map Prod.fst).toFinset.card := by
  rw [size, entries_ofEntries, Assoc.size_ofPairs]

theorem isEmpty_ofEntries : (ofEntries entered).isEmpty ↔ entered = [] := by
  rw [isEmpty, entries_ofEntries, Assoc.isEmpty, List.isEmpty_iff]
  constructor
  · intro h
    refine List.eq_nil_iff_forall_not_mem.2 fun e he => ?_
    have hkey : e.1 ∈ (Assoc.ofPairs entered).entries.map Prod.fst :=
      Assoc.mem_keys_ofPairs.2 (List.mem_map_of_mem he)
    rw [h] at hkey
    exact absurd hkey List.not_mem_nil
  · rintro rfl
    rfl

end Entered

/-- **A table of state variables finds the nearest one.**

Whatever was entered, and in whatever order: for a name and an offset the table finds nothing
exactly if the name was not entered at or below the offset, and else the greatest offset at which it
was, with the address that was entered there last.  Any other variables give the same as long as
those of the name have, at each offset up to the one asked for, the same addresses in the same
order: names and offsets may come in another order, and other names and greater offsets with
whatever they like.  The size counts the pairs of a name and an offset, and the table is empty if
nothing was entered. -/
theorem nearest_of_entered (entered : List ((String × Nat) × String)) :
    (∀ name offset,
      ((ofEntries entered).find? name offset = none ↔ offsetsUpTo name offset entered = ∅) ∧
        ∀ start address, (ofEntries entered).find? name offset = some (start, address) ↔
          IsGreatest (offsetsUpTo name offset entered) start ∧
            Assoc.LastAt (name, start) address entered) ∧
      (∀ name offset other,
        (∀ start ≤ offset,
          Assoc.valuesOf (name, start) other = Assoc.valuesOf (name, start) entered) →
        (ofEntries other).find? name offset = (ofEntries entered).find? name offset) ∧
      (ofEntries entered).size = (entered.map Prod.fst).toFinset.card ∧
      ((ofEntries entered).isEmpty ↔ entered = []) :=
  ⟨fun _ _ => ⟨find?_ofEntries_eq_none, fun _ _ => find?_ofEntries⟩,
    fun _ _ _ => find?_ofEntries_congr, size_ofEntries entered, isEmpty_ofEntries⟩

/-- A name entered at two offsets, twice at the first of them, and another name between. -/
def enteredTwice : List ((String × Nat) × String) :=
  [(("a", 50), "0x22"), (("a", 10), "0x11"), (("b", 20), "0x33"), (("a", 10), "0x44")]

/-- The same below offset 50, in another order. -/
def enteredInOrder : List ((String × Nat) × String) :=
  [(("a", 10), "0x11"), (("a", 10), "0x44"), (("b", 15), "0x66"), (("a", 50), "0x55")]

theorem nearest_of_entered_twice :
    (∀ start ≤ 30, Assoc.valuesOf ("a", start) enteredInOrder =
        Assoc.valuesOf ("a", start) enteredTwice) ∧
      (ofEntries enteredInOrder).find? "a" 30 = (ofEntries enteredTwice).find? "a" 30 ∧
      (ofEntries enteredTwice).find? "a" 30 = some (10, "0x44") ∧
      IsGreatest (offsetsUpTo "a" 30 enteredTwice) 10 ∧ offsetsUpTo "a" 9 enteredTwice = ∅ ∧
      (ofEntries enteredTwice).size = 3 := by
  have hsame : ∀ start ≤ 30, Assoc.valuesOf ("a", start) enteredInOrder =
      Assoc.valuesOf ("a", start) enteredTwice := by
    decide
  have hfound : (ofEntries enteredTwice).find? "a" 30 = some (10, "0x44") := by decide
  obtain ⟨hfind, hother, -⟩ := nearest_of_entered enteredTwice
  exact ⟨hsame, hother "a" 30 enteredInOrder hsame, hfound, ((hfind "a" 30).2 _ _).1 hfound |>.1,
    (hfind "a" 9).1.1 (by decide), by decide⟩

end StateTable

end AddressTrace
