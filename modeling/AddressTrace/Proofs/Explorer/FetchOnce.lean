import AddressTrace.Proofs.Explorer.Lookups

/-!
# Contracts are fetched once

Of all that lookups do, only some events matter for the fetch of one contract: that it begins, that
it fails or is cancelled, that it succeeds, and that it fills the cell.  They follow one protocol
whatever the order of the steps, and the store, the cell and the lookups of the contract are as the
protocol says.

## Main definitions

* `Status` — how far the fetch of a contract is;
* `Status.Next` — the protocol;
* `Session.Agrees` — a session is as the status of a contract says;
* `Recorded` — so are the events.

## Main statements

* `Session.Agrees.step`, `Session.exists_agrees` — the events of each contract follow the protocol;
* `Session.Agrees.exists_began` — where no fetch is under way a lookup begins one;
* `Session.fetch_once` — contracts are fetched once.
-/

namespace AddressTrace.Explorer

/-- **How far the fetch of a contract is.** -/
inductive Status
  | idle
  | fetching (fetcher : Nat)
  /-- The records are there, and the cell is yet to be filled. -/
  | filling (fetcher : Nat) (records : List ContractRecord)
  | done (records : List ContractRecord)

namespace Status

/-- The records of a fetch that has succeeded. -/
def result : Status → Option (List ContractRecord)
  | .filling _ records | .done records => some records
  | _ => none

/-- What the store has: an empty result is not stored. -/
def stored (t : Status) : Option (List ContractRecord) :=
  t.result.filter fun records => !records.isEmpty

/-- What the cell has. -/
def cell : Status → Cell
  | .idle => .empty
  | .fetching i | .filling i _ => .busy i
  | .done records => .full records

/-- The lookup whose fetch is under way. -/
def fetcher? : Status → Option Nat
  | .fetching i | .filling i _ => some i
  | _ => none

/-- What the phase of a lookup means for the status of its contract. -/
def Fits (t : Status) (i : Nat) : Phase → Prop
  | .fetching _ => t = .fetching i
  | .storing _ records => t = .fetching i ∧ records ≠ []
  | .filling _ records => t = .filling i records
  | .returned (.ok records) => t.result = some records
  | _ => True

variable {t : Status} {records : List ContractRecord}

theorem result_of_stored (h : t.stored = some records) : t.result = some records :=
  (Option.filter_eq_some_iff.1 h).1

theorem stored_of_result (h : t.result = some records) (hrecords : records ≠ []) :
    t.stored = some records := by
  rw [stored, h]
  exact Option.filter_eq_some_iff.2 ⟨rfl, by simpa using hrecords⟩

theorem ne_nil_of_stored (h : t.stored = some records) : records ≠ [] := by
  have hempty := (Option.filter_eq_some_iff.1 h).2
  rintro rfl
  exact nomatch hempty

theorem result_of_cell (h : t.cell = .full records) : t.result = some records := by
  cases t with
  | done => exact congrArg _ (Cell.full.inj h)
  | idle | fetching | filling => exact nomatch h

theorem eq_idle_of_cell (h : t.cell = .empty) : t = .idle := by
  cases t with
  | idle => rfl
  | fetching | filling | done => exact nomatch h

/-- A fetch that can be cancelled has no result yet. -/
theorem Fits.eq_fetching {i : Nat} {phase : Phase} (h : t.Fits i phase) (hopen : phase.isOpen) :
    t = .fetching i := by
  cases phase with
  | fetching => exact h
  | storing => exact h.1
  | _ => exact nomatch hopen

theorem Fits.fetcher?_eq {i : Nat} {phase : Phase} (h : t.Fits i phase) (hfetch : phase.isFetch) :
    t.fetcher? = some i := by
  cases phase with
  | fetching =>
      obtain rfl : t = .fetching i := h
      rfl
  | storing =>
      obtain ⟨rfl, -⟩ : t = .fetching i ∧ _ := h
      rfl
  | filling =>
      obtain rfl : t = .filling i _ := h
      rfl
  | _ => exact nomatch hfetch

end Status

/-- Does an event leave the fetch of its contract as far as it is? -/
def Action.isNeutral : Action → Bool
  | .started .. | .hit | .missed | .took | .joined | .answered | .cancelled => true
  | _ => false

/-- Does a fetch end in an event without a result? -/
def Action.isLoss : Action → Bool
  | .failed _ | .aborted => true
  | _ => false

/-- **The protocol**: what an event of a lookup makes of the status of its contract. -/
inductive Status.Next (i : Nat) : Status → Action → Status → Prop
  | began : Next i .idle .began (.fetching i)
  | failed (failure : Failure) : Next i (.fetching i) (.failed failure) .idle
  | aborted : Next i (.fetching i) .aborted .idle
  | succeededEmpty : Next i (.fetching i) (.succeeded []) (.done [])
  | succeeded {records : List ContractRecord} (verified : records ≠ []) :
    Next i (.fetching i) (.succeeded records) (.filling i records)
  | filled (records : List ContractRecord) :
    Next i (.filling i records) (.filled records) (.done records)
  | neutral {a : Action} (t : Status) (ha : a.isNeutral) : Next i t a t

namespace Status.Next

variable {t t' : Status} {i j : Nat} {a : Action} {records : List ContractRecord}

/-! ### The protocol -/

/-- A lookup does not end the fetch of another one. -/
theorem eq_of_ne (h : t.Next i a t') (hne : i ≠ j) (hfetcher : t.fetcher? = some j) : t' = t := by
  cases h with
  | neutral => rfl
  | began => exact nomatch hfetcher
  | failed | aborted | succeededEmpty | succeeded | filled =>
      exact absurd (Option.some.inj hfetcher) hne

/-- **A result stays**, and no fetch begins or succeeds behind it. -/
theorem of_result (h : t.Next i a t') (hresult : t.result = some records) :
    t'.result = some records ∧ a ≠ .began ∧ ∀ records, a ≠ .succeeded records := by
  cases h with
  | filled => exact ⟨hresult, nofun, nofun⟩
  | neutral _ ha =>
      refine ⟨hresult, ?_, ?_⟩
      · rintro rfl
        exact nomatch ha
      · rintro records rfl
        exact nomatch ha
  | began | failed | aborted | succeededEmpty | succeeded => exact nomatch hresult

/-- A result comes from a fetch that has succeeded. -/
theorem result_eq_some (h : t.Next i a t') (hresult : t'.result = some records) :
    t.result = some records ∨ a = .succeeded records := by
  cases h with
  | succeededEmpty | succeeded => exact .inr (congrArg _ (Option.some.inj hresult))
  | filled => exact .inl hresult
  | neutral => exact .inl hresult
  | began | failed | aborted => exact nomatch hresult

/-- A fetch that has succeeded has a result. -/
theorem result_of_succeeded (h : t.Next i (.succeeded records) t') :
    t'.result = some records := by
  cases h with
  | succeededEmpty | succeeded => rfl
  | neutral _ ha => exact nomatch ha

/-- A fetch that is lost leaves nothing. -/
theorem eq_idle (h : t.Next i a t') (ha : a.isLoss) : t' = .idle := by
  cases h with
  | failed | aborted => rfl
  | @neutral a _ hneutral =>
      cases a with
      | failed | aborted => exact nomatch hneutral
      | _ => exact nomatch ha
  | began | succeededEmpty | succeeded | filled => exact nomatch ha

/-- What others are doing still fits. -/
theorem fits (h : t.Next i a t') (hne : i ≠ j) {phase : Phase} (hfits : t.Fits j phase) :
    t'.Fits j phase := by
  cases phase with
  | fetching =>
      obtain rfl : t = .fetching j := hfits
      exact h.eq_of_ne hne rfl
  | storing =>
      obtain ⟨rfl, hrecords⟩ : t = .fetching j ∧ _ := hfits
      exact ⟨h.eq_of_ne hne rfl, hrecords⟩
  | filling =>
      obtain rfl : t = .filling j _ := hfits
      exact h.eq_of_ne hne rfl
  | returned outcome =>
      cases outcome with
      | ok records => exact (h.of_result hfits).1
      | error => trivial
  | checking | missed | waiting | cancelled => trivial

end Status.Next

namespace Session

variable {s u : Session} {t t' : Status} {e : Event} {key : ContractKey} {i j : Nat}

/-! ### Sessions follow the protocol -/

/-- **A session is as the status of a contract says.** -/
structure Agrees (s : Session) (key : ContractKey) (t : Status) : Prop where
  store_eq : s.store.contracts.find? key = t.stored
  cell_eq : s.content key = t.cell
  fits : ∀ {i : Nat} {l : Lookup}, s.lookups[i]? = some l → l.key = key → t.Fits i l.phase

namespace Agrees

theorem empty (key : ContractKey) : Session.empty.Agrees key .idle where
  store_eq := rfl
  cell_eq := rfl
  fits hlookup := nomatch hlookup

theorem of_sameFor (h : s.Agrees key t) (hsame : SameFor key s u) : u.Agrees key t where
  store_eq := hsame.store_eq.trans h.store_eq
  cell_eq := hsame.content_eq.trans h.cell_eq
  fits hlookup hkey := h.fits (hsame.lookups_eq hkey hlookup) hkey

theorem start (h : s.Agrees key t) (address chain : String) :
    (s.start address chain).Agrees key t where
  store_eq := h.store_eq
  cell_eq := h.cell_eq
  fits hlookup hkey := by
    rcases lookups_start_eq_some hlookup with hold | ⟨-, rfl⟩
    · exact h.fits hold hkey
    · trivial

/-- **A lookup moves its contract on** when the store, the cell and its own phase are as the new
status says. -/
theorem enter {l : Lookup} (h : s.Agrees l.key t) {a : Action} {phase : Phase}
    (hnext : t.Next i a t') (hlookups : u.lookups = s.lookups)
    (hstore : u.store.contracts.find? l.key = t'.stored)
    (hcell : u.content l.key = t'.cell) (hfits : t'.Fits i phase) :
    (u.enter i phase).Agrees l.key t' where
  store_eq := hstore
  cell_eq := hcell
  fits hlater hkey := by
    rcases lookups_enter_eq_some hlater with ⟨hne, hold⟩ | ⟨rfl, before, -, rfl⟩
    · -- What the other lookups do was in accord with the old status.
      rw [hlookups] at hold
      exact hnext.fits hne (h.fits hold hkey)
    · exact hfits

/-- A lookup that only enters a phase leaves its contract as it is. -/
theorem enter_neutral {l : Lookup} (h : s.Agrees l.key t) {phase : Phase} (hfits : t.Fits i phase) :
    (s.enter i phase).Agrees l.key t where
  store_eq := h.store_eq
  cell_eq := h.cell_eq
  fits hlater hkey := by
    rcases lookups_enter_eq_some hlater with ⟨-, hold⟩ | ⟨rfl, before, -, rfl⟩
    · exact h.fits hold hkey
    · exact hfits

/-- A lookup that puts something into the cell that it has taken moves its contract on. -/
theorem put_enter {l : Lookup} (h : s.Agrees l.key t) (hs : s.Wired)
    (hlookup : s.lookups[i]? = some l) {c : Nat} (htaken : l.phase.cell? = some c) {a : Action}
    {phase : Phase} (hnext : t.Next i a t') (hstored : t'.stored = t.stored)
    (hfits : t'.Fits i phase) : ((s.put c t'.cell).enter i phase).Agrees l.key t' := by
  have hcell : (s.put c t'.cell).content l.key = t'.cell := by
    rw [content_put hs (hs.taken hlookup htaken), if_pos rfl]
  exact h.enter hnext rfl (h.store_eq.trans hstored.symm) hcell hfits

theorem fits_phase {l : Lookup} (h : s.Agrees l.key t) (hlookup : s.lookups[i]? = some l)
    {phase : Phase} (hphase : l.phase = phase) : t.Fits i phase :=
  hphase ▸ h.fits hlookup rfl

/-- The cell that a lookup has taken has what the status says. -/
theorem cell_eq_taken {l : Lookup} (h : s.Agrees l.key t) (hs : s.Wired)
    (hlookup : s.lookups[i]? = some l) {c : Nat} (htaken : l.phase.cell? = some c) {cell : Cell}
    (hcell : s.cells[c]? = some cell) : t.cell = cell := by
  have hcontent := getElem?_cells hs (hs.taken hlookup htaken)
  rw [← h.cell_eq]
  exact Option.some.inj (hcontent.symm.trans hcell)

/-- **A step moves the contract of its lookup on** by the protocol. -/
theorem step_self (h : s.Agrees e.key t) (hs : s.Wired) (hstep : Step s e u) :
    ∃ t', t.Next e.lookup e.action t' ∧ u.Agrees e.key t' := by
  cases hstep with
  | start address chain => exact ⟨t, .neutral t rfl, h.start address chain⟩
  | hit _ _ hstored =>
      have hresult := Status.result_of_stored (h.store_eq.symm.trans hstored)
      exact ⟨t, .neutral t rfl, h.enter_neutral hresult⟩
  | miss => exact ⟨t, .neutral t rfl, h.enter_neutral trivial⟩
  | take => exact ⟨t, .neutral t rfl, h.enter_neutral trivial⟩
  | @create i l _ _ hunknown =>
      -- A new cell is as empty as none.
      have hcell := (content_create hs hunknown l.key).trans h.cell_eq
      have hcreate : (s.create l.key).Agrees l.key t := ⟨h.store_eq, hcell, h.fits⟩
      exact ⟨t, .neutral t rfl, hcreate.enter_neutral trivial⟩
  | join hlookup hphase hcell =>
      have hfull := h.cell_eq_taken hs hlookup (by rw [hphase]; rfl) hcell
      exact ⟨t, .neutral t rfl, h.enter_neutral (Status.result_of_cell hfull)⟩
  | @begin i c l hlookup hphase hcell =>
      have htaken : l.phase.cell? = some c := by rw [hphase]; rfl
      obtain rfl := Status.eq_idle_of_cell (h.cell_eq_taken hs hlookup htaken hcell)
      exact ⟨_, .began, h.put_enter hs hlookup htaken .began rfl rfl⟩
  | @fail i c l hlookup hphase failure =>
      have htaken : l.phase.cell? = some c := by rw [hphase]; rfl
      obtain rfl := h.fits_phase hlookup hphase
      have hnext := Status.Next.failed (i := i) failure
      exact ⟨_, hnext, h.put_enter hs hlookup htaken hnext rfl trivial⟩
  | @succeedEmpty i c l hlookup hphase =>
      have htaken : l.phase.cell? = some c := by rw [hphase]; rfl
      obtain rfl := h.fits_phase hlookup hphase
      exact ⟨_, .succeededEmpty, h.put_enter hs hlookup htaken .succeededEmpty rfl rfl⟩
  | answer hlookup hphase hverified =>
      obtain rfl := h.fits_phase hlookup hphase
      exact ⟨_, .neutral _ rfl, h.enter_neutral ⟨rfl, hverified⟩⟩
  | keep hlookup hphase =>
      obtain ⟨rfl, hrecords⟩ := h.fits_phase hlookup hphase
      refine ⟨_, .succeeded hrecords, h.enter (.succeeded hrecords) rfl ?_ h.cell_eq rfl⟩
      rw [Status.stored_of_result rfl hrecords]
      exact Assoc.find?_insert_self _ _ _
  | @fill i c l records hlookup hphase =>
      have htaken : l.phase.cell? = some c := by rw [hphase]; rfl
      obtain rfl := h.fits_phase hlookup hphase
      have hnext := Status.Next.filled (i := i) records
      exact ⟨_, hnext, h.put_enter hs hlookup htaken hnext rfl rfl⟩
  | cancel => exact ⟨t, .neutral t rfl, h.enter_neutral trivial⟩
  | abort hlookup hphase htaken =>
      obtain rfl := (h.fits hlookup rfl).eq_fetching hphase
      exact ⟨_, .aborted, h.put_enter hs hlookup htaken .aborted rfl trivial⟩

/-- **Each step follows the protocol** of each contract. -/
theorem step (h : s.Agrees key t) (hs : s.Wired) (hstep : Step s e u) :
    ∃ t', u.Agrees key t' ∧ (e.key = key → t.Next e.lookup e.action t') ∧
      (e.key ≠ key → t' = t) := by
  by_cases hkey : e.key = key
  · subst hkey
    obtain ⟨t', hnext, hagrees⟩ := h.step_self hs hstep
    exact ⟨t', hagrees, fun _ => hnext, fun hne => absurd rfl hne⟩
  · exact ⟨t, h.of_sameFor (hstep.frame hs hkey), fun heq => absurd heq hkey, fun _ => rfl⟩

end Agrees

/-! ### What the events tell -/

/-- **After a fetch has succeeded** no other one begins or succeeds for its contract. -/
def Settles (earlier later : Event) : Prop :=
  earlier.key = later.key → (∃ records, earlier.action = .succeeded records) →
    later.action ≠ .began ∧ ∀ records, later.action ≠ .succeeded records

/-- **A fetch for a contract has succeeded** with some records. -/
def Fetched (trace : List Event) (key : ContractKey) (records : List ContractRecord) : Prop :=
  ∃ i, ⟨i, key, .succeeded records⟩ ∈ trace

/-- **The events tell the result** that a status has. -/
def Recorded (trace : List Event) (key : ContractKey) (t : Status) : Prop :=
  ∀ records, t.result = some records ↔ Fetched trace key records

theorem Recorded.concat_of_ne {trace : List Event} (h : Recorded trace key t) (hne : e.key ≠ key) :
    Recorded (trace ++ [e]) key t := by
  intro records
  rw [h records]
  apply exists_congr
  intro i
  rw [List.mem_append, List.mem_singleton]
  refine (or_iff_left ?_).symm
  rintro rfl
  exact hne rfl

theorem Recorded.concat {trace : List Event} (h : Recorded trace e.key t)
    (hnext : t.Next e.lookup e.action t') : Recorded (trace ++ [e]) e.key t' := by
  intro records
  constructor
  · intro hresult
    rcases hnext.result_eq_some hresult with hold | haction
    · obtain ⟨i, hmem⟩ := (h records).1 hold
      exact ⟨i, List.mem_append_left _ hmem⟩
    · refine ⟨e.lookup, List.mem_append_right _ ?_⟩
      rw [← haction]
      exact List.mem_singleton_self e
  · rintro ⟨i, hmem⟩
    rcases List.mem_append.1 hmem with hmem | hmem
    · exact (hnext.of_result ((h records).2 ⟨i, hmem⟩)).1
    · have haction := congrArg Event.action (List.mem_singleton.1 hmem)
      rw [← haction] at hnext
      exact hnext.result_of_succeeded

/-- **The session of any steps follows the protocol**, and so do their events. -/
theorem exists_agrees {trace : List Event} (h : Steps empty trace s) :
    s.Wired ∧ trace.Pairwise Settles ∧ ∀ key, ∃ t, s.Agrees key t ∧ Recorded trace key t := by
  induction h with
  | nil =>
      refine ⟨.empty, .nil, ?_⟩
      intro key
      refine ⟨.idle, .empty key, ?_⟩
      intro records
      exact ⟨nofun, fun ⟨_, hmem⟩ => absurd hmem List.not_mem_nil⟩
  | @concat trace e s u hsteps hstep ih =>
      obtain ⟨hs, hsettles, hstatus⟩ := ih
      refine ⟨hs.step hstep, ?_, ?_⟩
      · -- An event behind a success is none that begins or ends a fetch, since there is a result.
        refine List.pairwise_append.2 ⟨hsettles, List.pairwise_singleton _ _, ?_⟩
        intro earlier hearlier later hlater hkey ⟨records, haction⟩
        obtain rfl := List.mem_singleton.1 hlater
        obtain ⟨t, hagrees, hrecorded⟩ := hstatus later.key
        obtain ⟨t', hnext, -⟩ := hagrees.step_self hs hstep
        have hresult : t.result = some records := by
          refine (hrecorded records).2 ⟨earlier.lookup, ?_⟩
          rw [← hkey, ← haction]
          exact hearlier
        exact (hnext.of_result hresult).2
      · intro key
        obtain ⟨t, hagrees, hrecorded⟩ := hstatus key
        obtain ⟨t', hagrees', hself, hother⟩ := hagrees.step hs hstep
        refine ⟨t', hagrees', ?_⟩
        by_cases hkey : e.key = key
        · subst hkey
          exact hrecorded.concat (hself rfl)
        · rw [hother hkey]
          exact hrecorded.concat_of_ne hkey

/-! ### Fetching again -/

/-- While no fetch begins there is none. -/
theorem Agrees.steps_idle (h : s.Agrees key .idle) (hs : s.Wired) {later : List Event}
    (hsteps : Steps s later u) (hbegan : ∀ e ∈ later, e.key = key → e.action ≠ .began) :
    u.Agrees key .idle := by
  induction hsteps with
  | nil => exact h
  | @concat later e s' u hsteps hstep ih =>
      have hbefore := ih fun e' he' => hbegan e' (List.mem_append_left _ he')
      obtain ⟨t, hagrees, hself, hother⟩ := hbefore.step (hs.steps hsteps) hstep
      have ht : t = .idle := by
        by_cases hkey : e.key = key
        · have hnot := hbegan e (List.mem_append_right _ (List.mem_singleton_self e)) hkey
          have hnext := hself hkey
          -- The protocol is indexed by the action, which has to be a variable.
          generalize e.action = a at hnot hnext
          cases hnext with
          | began => exact absurd rfl hnot
          | neutral => rfl
        · exact hother hkey
      rw [← ht]
      exact hagrees

/-- **Where no fetch is under way a lookup begins one**, whatever the spelling of its address. -/
theorem Agrees.exists_began (h : s.Agrees key .idle) (hs : s.Wired) {address chain : String}
    (hkey : ContractKey.of address chain = key) :
    ∃ u, Steps s [⟨s.lookups.length, key, .started address chain⟩, ⟨s.lookups.length, key, .missed⟩,
      ⟨s.lookups.length, key, .took⟩, ⟨s.lookups.length, key, .began⟩] u := by
  subst hkey
  have hlookup : (s.start address chain).lookups[s.lookups.length]? =
      some ⟨address, chain, .checking⟩ :=
    List.getElem?_concat_length
  have hmiss := Step.miss hlookup rfl h.store_eq
  obtain ⟨c, u, htook, hwaiting, hcell, -⟩ := exists_took ((hs.start address chain).step hmiss)
    (lookups_enter_self hlookup .missed) rfl
  have hempty : u.cells[c]? = some .empty := hcell.trans (congrArg some h.cell_eq)
  exact ⟨_, (((Steps.nil.concat (.start address chain)).concat hmiss).concat htook).concat
    (.begin hwaiting rfl hempty)⟩

/-- A fetch that is lost leaves the cell empty. -/
theorem cell?_of_isLoss (hs : s.Wired) (hstep : Step s e u) (hloss : e.action.isLoss) :
    u.cell? e.key = some .empty := by
  cases hstep with
  | fail hlookup hphase => exact cell?_put_self hs (hs.taken hlookup (by rw [hphase]; rfl)) _
  | abort hlookup _ htaken => exact cell?_put_self hs (hs.taken hlookup htaken) _
  | _ => exact nomatch hloss

/-! ### Fetching once -/

/-- Only the lookup that the status names is fetching. -/
theorem Agrees.fetcher?_eq (h : s.Agrees key t) (hfetching : s.Fetching key i) :
    t.fetcher? = some i := by
  obtain ⟨l, hlookup, hkey, hfetch⟩ := hfetching
  exact (h.fits hlookup hkey).fetcher?_eq hfetch

/-- **Contracts are fetched once.**  Whatever lookups do and in whatever order, at most one fetch
for a contract is under way, and none begins after one has succeeded.  What lookups return, and what
is stored, are the records of the fetch that has succeeded; an empty list is returned but not
stored.  A fetch that fails or is cancelled leaves nothing behind, so that a later lookup of the
contract, in any spelling of its address, fetches again. -/
theorem fetch_once {trace : List Event} (h : Steps empty trace s) (address chain : String) :
    let key := ContractKey.of address chain
    (∀ i j, s.Fetching key i → s.Fetching key j → i = j) ∧
      trace.Pairwise Settles ∧
      (∀ i records, s.Returned key i records → Fetched trace key records) ∧
      (∀ records, s.store.get? address chain = some records ↔
        records ≠ [] ∧ Fetched trace key records) ∧
      ∀ e u, Step s e u → e.key = key → e.action.isLoss →
        u.store.get? address chain = none ∧ u.cell? key = some .empty ∧
          ∀ later v, Steps u later v → (∀ e ∈ later, e.key = key → e.action ≠ .began) →
            ∀ address' chain', ContractKey.of address' chain' = key →
              ∃ w, Steps v [⟨v.lookups.length, key, .started address' chain'⟩,
                ⟨v.lookups.length, key, .missed⟩, ⟨v.lookups.length, key, .took⟩,
                ⟨v.lookups.length, key, .began⟩] w := by
  intro key
  obtain ⟨hs, hsettles, hstatus⟩ := exists_agrees h
  obtain ⟨t, hagrees, hrecorded⟩ := hstatus key
  refine ⟨?_, hsettles, ?_, ?_, ?_⟩
  · intro i j hi hj
    have hij := (hagrees.fetcher?_eq hi).symm.trans (hagrees.fetcher?_eq hj)
    exact Option.some.inj hij
  · intro i records hreturned
    obtain ⟨l, hlookup, hkey, hphase⟩ := hreturned
    have hfits := hagrees.fits hlookup hkey
    rw [hphase] at hfits
    exact (hrecorded records).1 hfits
  · intro records
    rw [← hrecorded records, ContractStore.get?, hagrees.store_eq]
    constructor
    · intro hstored
      exact ⟨Status.ne_nil_of_stored hstored, Status.result_of_stored hstored⟩
    · rintro ⟨hrecords, hresult⟩
      exact Status.stored_of_result hresult hrecords
  · intro e u hstep hkey hloss
    obtain ⟨t', hlost, hnext, -⟩ := hagrees.step hs hstep
    obtain rfl := (hnext hkey).eq_idle hloss
    refine ⟨hlost.store_eq, hkey ▸ cell?_of_isLoss hs hstep hloss, ?_⟩
    intro later v hsteps hbegan address' chain' hspelling
    have hu := hs.step hstep
    exact (hlost.steps_idle hu hsteps hbegan).exists_began (hu.steps hsteps) hspelling

/-! ### A fetch that times out and another one -/

/-- A file of a contract. -/
def vault : ContractRecord := ⟨"0xab", "eth", "/Vault.sol", "Vault", "contract Vault {}", "", none⟩

/-- Two lookups of one contract miss in the store.  The first one begins a fetch and is cancelled,
the second one fetches, and a third one finds the records in the store before they are in the
cell. -/
def retried : List Event :=
  let first := ContractKey.of "0xAB" "eth"
  let second := ContractKey.of "0xab" "eth"
  let third := ContractKey.of "0xaB" "eth"
  [⟨0, first, .started "0xAB" "eth"⟩, ⟨1, second, .started "0xab" "eth"⟩, ⟨0, first, .missed⟩,
    ⟨1, second, .missed⟩, ⟨0, first, .took⟩, ⟨1, second, .took⟩, ⟨0, first, .began⟩,
    ⟨0, first, .aborted⟩, ⟨1, second, .began⟩, ⟨1, second, .answered⟩,
    ⟨1, second, .succeeded [vault]⟩, ⟨2, third, .started "0xaB" "eth"⟩, ⟨2, third, .hit⟩]

/-- After these events the third lookup has returned what the second one has fetched. -/
theorem fetch_once_retried :
    ∃ s, Steps empty retried s ∧ s.Returned (.of "0xAB" "eth") 2 [vault] ∧
      Fetched retried (.of "0xAB" "eth") [vault] ∧ s.store.get? "0xAB" "eth" = some [vault] := by
  have hempty : Steps empty [] empty := .nil
  have hstarted := (hempty.concat (.start "0xAB" "eth")).concat (.start "0xab" "eth")
  have hmissed := (hstarted.concat (.miss (i := 0) rfl rfl rfl)).concat
    (.miss (i := 1) rfl rfl rfl)
  have htook := (hmissed.concat (.create (i := 0) rfl rfl rfl)).concat
    (.take (i := 1) (c := 0) rfl rfl (by decide +kernel))
  have haborted := (htook.concat (.begin (i := 0) rfl rfl rfl)).concat
    (.abort (i := 0) (c := 0) rfl rfl rfl)
  have hkept := ((haborted.concat (.begin (i := 1) rfl rfl rfl)).concat
    (.answer (i := 1) rfl rfl (List.cons_ne_nil vault []))).concat (.keep (i := 1) rfl rfl)
  have hhit := (hkept.concat (.start "0xaB" "eth")).concat
    (.hit (i := 2) rfl rfl (show _ = some [vault] by decide +kernel))
  obtain ⟨-, -, hreturned, hstored, -⟩ := fetch_once hhit "0xAB" "eth"
  have hthird := hreturned 2 [vault] ⟨_, rfl, by decide +kernel, rfl⟩
  exact ⟨_, hhit, ⟨_, rfl, by decide +kernel, rfl⟩, hthird,
    (hstored [vault]).2 ⟨List.cons_ne_nil vault [], hthird⟩⟩

end Session

end AddressTrace.Explorer
