import AddressTrace.Proofs.Explorer.Lookups

/-!
# One lookup after the other

A lookup that is not disturbed does what a lookup on a cache does: the cache has what is stored, and
what is in the cells.  So everything that holds of lookups in any order holds of those that follow
each other.

## Main definitions

* `Cache.settle` — what a fetch makes of a lookup that finds nothing;
* `Session.Represents` — a session in which no fetch is under way has what a cache has.

## Main statements

* `lookup_eq` — a lookup on a cache finds the records or fetches them;
* `Session.Represents.exists_steps_lookup` — a lookup on a cache is the steps of a lookup.
-/

namespace AddressTrace.Explorer

/-- **What a fetch makes of a lookup** that finds nothing: its outcome, and the cache after it. -/
def Cache.settle (cache : Cache) (address chain : String) :
    Except Failure (List ContractRecord) → Except Failure (List ContractRecord) × Cache
  | .error failure => (.error failure, cache)
  | .ok records => (.ok records, cache.remember address chain records)

/-- A lookup finds the records in the cache, or else fetches them. -/
theorem lookup_eq {m : Type → Type} [Monad m] [LawfulMonad m] (access : Access m)
    (address chain : String) (cache : Cache) :
    lookup access address chain cache = (cache.find? address chain).elim
      (cache.settle address chain <$> fetch access address chain)
      fun records => pure (.ok records, cache) := by
  rw [lookup]
  cases cache.find? address chain with
  | some records => rfl
  | none =>
      rw [Option.elim_none, ← bind_pure_comp]
      show (fetch access address chain >>= _) = fetch access address chain >>= _
      congr 1
      funext outcome
      cases outcome <;> rfl

namespace Session

variable {σ : Type} {s u : Session} {cache : Cache} {key : ContractKey} {l : Lookup} {i c : Nat}

/-- **A session has what a cache has**, and no fetch is under way. -/
structure Represents (s : Session) (cache : Cache) : Prop where
  store_eq : s.store = cache.store
  content_eq : ∀ key, s.content key = (cache.fetched.find? key).elim .empty .full

theorem represents_empty : empty.Represents .empty := ⟨rfl, fun _ => rfl⟩

/-- A session that differs in the cell of one contract has what a cache has, once the cell has
it. -/
theorem represents_put (cache : Cache) (hs : s.Wired) (hcell : s.fetches.find? key = some c)
    (hstore : s.store = cache.store)
    (hcontent : ∀ key', key ≠ key' →
      s.content key' = (cache.fetched.find? key').elim .empty .full) :
    (s.put c ((cache.fetched.find? key).elim .empty .full)).Represents cache where
  store_eq := hstore
  content_eq key' := by
    rw [content_put hs hcell]
    split
    · rename_i heq
      rw [heq]
    · rename_i hne
      exact hcontent key' hne

/-- A lookup that only enters a phase leaves a session with what it has. -/
theorem Represents.enter (h : s.Represents cache) (i : Nat) (phase : Phase) :
    (s.enter i phase).Represents cache :=
  ⟨h.store_eq, h.content_eq⟩

/-- The records of a fetch go into the store, if there are any, and into the cell. -/
theorem exists_steps_succeeded (hs : s.Wired) (hlookup : s.lookups[i]? = some l)
    (hphase : l.phase = .fetching c) (hstore : s.store = cache.store)
    (hcontent : ∀ key, l.key ≠ key →
      s.content key = (cache.fetched.find? key).elim .empty .full)
    (records : List ContractRecord) :
    ∃ trace u, Steps s trace u ∧ u.Represents (cache.remember l.address l.chain records) ∧
      u.lookups[i]? = some { l with phase := .returned (.ok records) } := by
  have htaken : s.fetches.find? l.key = some c := hs.taken hlookup (by rw [hphase]; rfl)
  have hempty : Steps s [] s := .nil
  let after := cache.remember l.address l.chain records
  have hnow : after.fetched.find? l.key = some records := Assoc.find?_insert_self _ _ _
  have hothers : ∀ key, l.key ≠ key →
      s.content key = (after.fetched.find? key).elim .empty .full := by
    intro key hne
    rw [hcontent key hne, show after.fetched.find? key = cache.fetched.find? key from
      Assoc.find?_insert_of_ne _ hne _]
  rcases eq_or_ne records [] with rfl | hrecords
  · have hdone := represents_put after hs htaken hstore hothers
    rw [hnow] at hdone
    have hafter : (s.put c (.full [])).lookups[i]? = some l := hlookup
    exact ⟨_, _, hempty.concat (.succeedEmpty hlookup hphase), hdone.enter i _,
      lookups_enter_self hafter _⟩
  · -- There are records: they are fetched, stored and put into the cell, in three steps.
    let storing : Lookup := { l with phase := .storing c records }
    let filling : Lookup := { l with phase := .filling c records }
    let stored := ((s.enter i (.storing c records)).keep storing records).enter i
      (.filling c records)
    have hstoring : (s.enter i (.storing c records)).lookups[i]? = some storing :=
      lookups_enter_self hlookup _
    have hfilling : stored.lookups[i]? = some filling :=
      lookups_enter_self (l := storing) hstoring _
    have hkept := (hempty.concat (.answer hlookup hphase hrecords)).concat (.keep hstoring rfl)
    have hkeep : stored.store = after.store := by
      show s.store.insert l.address l.chain records =
        if records.isEmpty then cache.store else cache.store.insert l.address l.chain records
      rw [if_neg (by simpa using hrecords), hstore]
    have hown : stored.fetches.find? l.key = some c := htaken
    have hdone := represents_put after (hs.steps hkept) hown hkeep hothers
    rw [hnow] at hdone
    have hafter : (stored.put c (.full records)).lookups[i]? = some filling := hfilling
    exact ⟨_, _, hkept.concat (.fill hfilling rfl), hdone.enter i _, lookups_enter_self hafter _⟩

/-- **The steps of a fetch** do what a fetch does to the cache. -/
theorem Represents.exists_steps_settle (h : s.Represents cache) (hs : s.Wired)
    (hlookup : s.lookups[i]? = some l) (hphase : l.phase = .waiting c)
    (hnew : cache.fetched.find? l.key = none) (outcome : Except Failure (List ContractRecord)) :
    let settled := cache.settle l.address l.chain outcome
    ∃ trace u, Steps s trace u ∧ u.Represents settled.2 ∧
      u.lookups[i]? = some { l with phase := .returned settled.1 } := by
  have htaken : s.fetches.find? l.key = some c := hs.taken hlookup (by rw [hphase]; rfl)
  have hcell : s.cells[c]? = some .empty := by
    rw [getElem?_cells hs htaken, h.content_eq, hnew]
    rfl
  have hempty : Steps s [] s := .nil
  have hbegan := hempty.concat (.begin hlookup hphase hcell)
  let fetching : Lookup := { l with phase := .fetching c }
  have hfetching : ((s.put c (.busy i)).enter i (.fetching c)).lookups[i]? = some fetching := by
    have hput : (s.put c (.busy i)).lookups[i]? = some l := hlookup
    exact lookups_enter_self hput _
  have hothers : ∀ key, l.key ≠ key →
      (s.put c (.busy i)).content key = (cache.fetched.find? key).elim .empty .full := by
    intro key hne
    rw [content_put hs htaken, if_neg hne]
    exact h.content_eq key
  cases outcome with
  | error failure =>
      have hown : ((s.put c (.busy i)).enter i (.fetching c)).fetches.find? l.key = some c := htaken
      have hlost := represents_put cache (hs.steps hbegan) hown h.store_eq hothers
      rw [hnew] at hlost
      have hafter : (((s.put c (.busy i)).enter i (.fetching c)).put c .empty).lookups[i]? =
          some fetching := hfetching
      exact ⟨_, _, hbegan.concat (.fail hfetching rfl failure), hlost.enter i _,
        lookups_enter_self hafter _⟩
  | ok records =>
      obtain ⟨trace, u, hsteps, hu, hreturned⟩ :=
        exists_steps_succeeded (l := fetching) (hs.steps hbegan) hfetching rfl h.store_eq hothers
          records
      exact ⟨_, u, hbegan.append hsteps, hu, hreturned⟩

/-- A lookup of a contract that is not stored comes to its cell. -/
theorem Represents.exists_steps_waiting (h : s.Represents cache) (hs : s.Wired)
    {address chain : String} (hstored : cache.store.get? address chain = none) :
    ∃ trace c u, Steps s trace u ∧ u.Represents cache ∧
      u.lookups[s.lookups.length]? = some ⟨address, chain, .waiting c⟩ := by
  have hempty : Steps s [] s := .nil
  have hlookup : (s.start address chain).lookups[s.lookups.length]? =
      some ⟨address, chain, .checking⟩ :=
    List.getElem?_concat_length
  rw [← h.store_eq] at hstored
  have hmissed := (hempty.concat (.start address chain)).concat (.miss hlookup rfl hstored)
  obtain ⟨c, u, htook, hwaiting, -, hstore, hcontent⟩ :=
    exists_took (hs.steps hmissed) (lookups_enter_self hlookup .missed) rfl
  exact ⟨_, c, u, hmissed.concat htook,
    ⟨hstore.trans h.store_eq, fun key => (hcontent key).trans (h.content_eq key)⟩, hwaiting⟩

/-- **A lookup on a cache is the steps of a lookup** that nothing disturbs: it returns the same, and
leaves the session with what the cache has. -/
theorem Represents.exists_steps_lookup (h : s.Represents cache) (hs : s.Wired)
    (access : Access (StateM σ)) (address chain : String) (x : σ) :
    let answer := (lookup access address chain cache x).1
    ∃ trace u, Steps s trace u ∧ u.Represents answer.2 ∧
      u.lookups[s.lookups.length]? = some ⟨address, chain, .returned answer.1⟩ := by
  rw [lookup_eq, Cache.find?]
  cases hstored : cache.store.get? address chain with
  | some records =>
      have hempty : Steps s [] s := .nil
      have hlookup : (s.start address chain).lookups[s.lookups.length]? =
          some ⟨address, chain, .checking⟩ :=
        List.getElem?_concat_length
      rw [← h.store_eq] at hstored
      exact ⟨_, _, (hempty.concat (.start address chain)).concat (.hit hlookup rfl hstored),
        ⟨h.store_eq, h.content_eq⟩, lookups_enter_self hlookup _⟩
  | none =>
      obtain ⟨before, c, u, hsteps, hu, hwaiting⟩ := h.exists_steps_waiting hs hstored
      have hwired := hs.steps hsteps
      rw [Option.none_or]
      cases hfetched : cache.fetched.find? (.of address chain) with
      | some records =>
          have hcell : u.cells[c]? = some (.full records) := by
            rw [getElem?_cells hwired (hwired.taken hwaiting rfl), hu.content_eq]
            exact congrArg (fun found => some (found.elim Cell.empty Cell.full)) hfetched
          exact ⟨_, _, hsteps.concat (.join hwaiting rfl hcell), hu.enter _ _,
            lookups_enter_self hwaiting _⟩
      | none =>
          obtain ⟨trace, v, hsettled, hv, hreturned⟩ :=
            hu.exists_steps_settle hwired hwaiting rfl hfetched (fetch access address chain x).1
          exact ⟨_, v, hsteps.append hsettled, hv, hreturned⟩

end Session

end AddressTrace.Explorer
