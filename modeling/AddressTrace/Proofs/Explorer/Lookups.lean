import AddressTrace.Explorer.Source
import Mathlib.Data.List.Basic

/-!
# Lookups at the same time

Any number of lookups share a store, a map from contracts to cells, and the cells.  Each of these
is locked on its own, so that other lookups take steps whenever one waits for a lock, for a cell or
for the explorer.  A lookup looks into the store, takes the cell of its contract, and waits for the
cell to be filled or to be its own to fill.  The fetch that fills a cell ends with its records in
the store and then in the cell; where it fails, or is dropped while it waits for the explorer or for
the store, the cell is left empty.

A cell has the behaviour of a once-cell: one fetch at a time is to fill it, and it stays empty until
one of them succeeds.

## Main definitions

* `Cell`, `Phase`, `Lookup`, `Session` — what is shared, and how far each lookup is;
* `Session.Step` — one step of one lookup, with the event that it is;
* `Session.Steps` — steps of any lookups in any order;
* `Session.Wired` — each contract has a cell of its own.

## Main statements

* `Session.Wired.step` — contracts keep their cells;
* `Session.Step.frame` — a step changes nothing for another contract.
-/

namespace AddressTrace.Explorer

/-- **The cell of a contract.** -/
inductive Cell
  | empty
  /-- A lookup is fetching what goes in. -/
  | busy (fetcher : Nat)
  | full (records : List ContractRecord)
deriving DecidableEq

/-- **How far a lookup is.**  With the cell that it has taken, and the records that it has
fetched. -/
inductive Phase
  /-- It is to look into the store. -/
  | checking
  /-- The store had nothing. -/
  | missed
  /-- It waits for its cell. -/
  | waiting (c : Nat)
  /-- It waits for the explorer. -/
  | fetching (c : Nat)
  /-- The explorer has answered, and it waits for the store. -/
  | storing (c : Nat) (records : List ContractRecord)
  /-- The records are stored and go into the cell next. -/
  | filling (c : Nat) (records : List ContractRecord)
  | returned (outcome : Except Failure (List ContractRecord))
  | cancelled

namespace Phase

/-- The cell that a lookup has taken. -/
def cell? : Phase → Option Nat
  | .waiting c | .fetching c | .storing c _ | .filling c _ => some c
  | _ => none

/-- Is the lookup waiting, without a fetch of its own? -/
def isPatient : Phase → Bool
  | .checking | .missed | .waiting _ => true
  | _ => false

/-- Is the lookup waiting within a fetch of its own? -/
def isOpen : Phase → Bool
  | .fetching _ | .storing _ _ => true
  | _ => false

/-- **Is a fetch of the lookup under way?** -/
def isFetch : Phase → Bool
  | .fetching _ | .storing _ _ | .filling _ _ => true
  | _ => false

end Phase

/-- **A lookup of a contract.** -/
structure Lookup where
  address : String
  chain : String
  phase : Phase

/-- The contract that a lookup is about. -/
def Lookup.key (l : Lookup) : ContractKey := .of l.address l.chain

/-- **All lookups and what they share.**  Lookups and cells are numbered in the order of their
start. -/
structure Session where
  store : ContractStore
  /-- The cells of the contracts. -/
  fetches : Assoc ContractKey Nat
  cells : List Cell
  lookups : List Lookup

/-- What happens in a step. -/
inductive Action
  | started (address chain : String)
  /-- The store had the records. -/
  | hit
  | missed
  | took
  /-- The cell had the records. -/
  | joined
  | began
  | answered
  | failed (failure : Failure)
  /-- From here on the records are there. -/
  | succeeded (records : List ContractRecord)
  | filled (records : List ContractRecord)
  | cancelled
  /-- It was cancelled, and its fetch with it. -/
  | aborted
deriving DecidableEq

/-- **What a lookup of a contract does in a step.** -/
structure Event where
  lookup : Nat
  key : ContractKey
  action : Action
deriving DecidableEq

namespace Session

/-- The session before the first lookup. -/
def empty : Session := ⟨.empty, .empty, [], []⟩

/-- The cell of a contract, if it has one. -/
def cell? (s : Session) (key : ContractKey) : Option Cell :=
  (s.fetches.find? key).bind fun c => s.cells[c]?

/-- What is in the cell of a contract.  A contract without a cell is like one whose cell is
empty. -/
def content (s : Session) (key : ContractKey) : Cell := (s.cell? key).getD .empty

/-- The session with one lookup more. -/
def start (s : Session) (address chain : String) : Session :=
  { s with lookups := s.lookups ++ [⟨address, chain, .checking⟩] }

/-- The session with a lookup in a new phase. -/
def enter (s : Session) (i : Nat) (phase : Phase) : Session :=
  { s with lookups := s.lookups.modify i fun l => { l with phase } }

/-- The session with another content of a cell. -/
def put (s : Session) (c : Nat) (cell : Cell) : Session := { s with cells := s.cells.set c cell }

/-- The session with an empty cell for a contract. -/
def create (s : Session) (key : ContractKey) : Session :=
  { s with
      fetches := s.fetches.insert key s.cells.length
      cells := s.cells ++ [.empty] }

/-- The session with the records of a lookup stored. -/
def keep (s : Session) (l : Lookup) (records : List ContractRecord) : Session :=
  { s with store := s.store.insert l.address l.chain records }

/-- **One step of one lookup.** -/
inductive Step (s : Session) : Event → Session → Prop
  | start (address chain : String) :
    Step s ⟨s.lookups.length, .of address chain, .started address chain⟩ (s.start address chain)
  | hit {i : Nat} {l : Lookup} {records : List ContractRecord} (lookup : s.lookups[i]? = some l)
    (phase : l.phase = .checking) (stored : s.store.get? l.address l.chain = some records) :
    Step s ⟨i, l.key, .hit⟩ (s.enter i (.returned (.ok records)))
  | miss {i : Nat} {l : Lookup} (lookup : s.lookups[i]? = some l) (phase : l.phase = .checking)
    (stored : s.store.get? l.address l.chain = none) :
    Step s ⟨i, l.key, .missed⟩ (s.enter i .missed)
  | take {i c : Nat} {l : Lookup} (lookup : s.lookups[i]? = some l) (phase : l.phase = .missed)
    (known : s.fetches.find? l.key = some c) :
    Step s ⟨i, l.key, .took⟩ (s.enter i (.waiting c))
  | create {i : Nat} {l : Lookup} (lookup : s.lookups[i]? = some l) (phase : l.phase = .missed)
    (unknown : s.fetches.find? l.key = none) :
    Step s ⟨i, l.key, .took⟩ ((s.create l.key).enter i (.waiting s.cells.length))
  | join {i c : Nat} {l : Lookup} {records : List ContractRecord}
    (lookup : s.lookups[i]? = some l) (phase : l.phase = .waiting c)
    (cell : s.cells[c]? = some (.full records)) :
    Step s ⟨i, l.key, .joined⟩ (s.enter i (.returned (.ok records)))
  | begin {i c : Nat} {l : Lookup} (lookup : s.lookups[i]? = some l) (phase : l.phase = .waiting c)
    (cell : s.cells[c]? = some .empty) :
    Step s ⟨i, l.key, .began⟩ ((s.put c (.busy i)).enter i (.fetching c))
  | fail {i c : Nat} {l : Lookup} (lookup : s.lookups[i]? = some l) (phase : l.phase = .fetching c)
    (failure : Failure) :
    Step s ⟨i, l.key, .failed failure⟩ ((s.put c .empty).enter i (.returned (.error failure)))
  /-- A contract that is not verified is not stored. -/
  | succeedEmpty {i c : Nat} {l : Lookup} (lookup : s.lookups[i]? = some l)
    (phase : l.phase = .fetching c) :
    Step s ⟨i, l.key, .succeeded []⟩ ((s.put c (.full [])).enter i (.returned (.ok [])))
  | answer {i c : Nat} {l : Lookup} {records : List ContractRecord}
    (lookup : s.lookups[i]? = some l) (phase : l.phase = .fetching c) (verified : records ≠ []) :
    Step s ⟨i, l.key, .answered⟩ (s.enter i (.storing c records))
  | keep {i c : Nat} {l : Lookup} {records : List ContractRecord}
    (lookup : s.lookups[i]? = some l) (phase : l.phase = .storing c records) :
    Step s ⟨i, l.key, .succeeded records⟩ ((s.keep l records).enter i (.filling c records))
  | fill {i c : Nat} {l : Lookup} {records : List ContractRecord}
    (lookup : s.lookups[i]? = some l) (phase : l.phase = .filling c records) :
    Step s ⟨i, l.key, .filled records⟩ ((s.put c (.full records)).enter i (.returned (.ok records)))
  /-- A lookup can be cancelled wherever it waits. -/
  | cancel {i : Nat} {l : Lookup} (lookup : s.lookups[i]? = some l) (phase : l.phase.isPatient) :
    Step s ⟨i, l.key, .cancelled⟩ (s.enter i .cancelled)
  /-- With a lookup its fetch is cancelled, and the cell is left empty. -/
  | abort {i c : Nat} {l : Lookup} (lookup : s.lookups[i]? = some l) (phase : l.phase.isOpen)
    (taken : l.phase.cell? = some c) :
    Step s ⟨i, l.key, .aborted⟩ ((s.put c .empty).enter i .cancelled)

/-- **Steps of any lookups in any order**, with their events. -/
inductive Steps (s : Session) : List Event → Session → Prop
  | nil : Steps s [] s
  | concat {trace : List Event} {e : Event} {t u : Session} (steps : Steps s trace t)
    (step : Step t e u) : Steps s (trace ++ [e]) u

/-- **A fetch for a contract is under way** in a lookup. -/
def Fetching (s : Session) (key : ContractKey) (i : Nat) : Prop :=
  ∃ l, s.lookups[i]? = some l ∧ l.key = key ∧ l.phase.isFetch

/-- A lookup of a contract has returned records. -/
def Returned (s : Session) (key : ContractKey) (i : Nat) (records : List ContractRecord) : Prop :=
  ∃ l, s.lookups[i]? = some l ∧ l.key = key ∧ l.phase = .returned (.ok records)

/-- **A session as steps lead to it**: no two contracts have one cell, and each lookup has taken the
cell of its contract. -/
structure Wired (s : Session) : Prop where
  lt_length : ∀ {key c}, s.fetches.find? key = some c → c < s.cells.length
  inj : ∀ {key key' c}, s.fetches.find? key = some c → s.fetches.find? key' = some c → key = key'
  taken : ∀ {i c : Nat} {l : Lookup}, s.lookups[i]? = some l → l.phase.cell? = some c →
    s.fetches.find? l.key = some c

variable {s t u : Session} {e : Event} {key : ContractKey} {i j c : Nat} {l : Lookup}

theorem Steps.append {trace later : List Event} (h₁ : Steps s trace t) (h₂ : Steps t later u) :
    Steps s (trace ++ later) u := by
  induction h₂ with
  | nil =>
      rw [List.append_nil]
      exact h₁
  | concat _ hstep ih =>
      rw [← List.append_assoc]
      exact ih.concat hstep

/-! ### What a change leaves alone -/

theorem lookups_enter_self (h : s.lookups[i]? = some l) (phase : Phase) :
    (s.enter i phase).lookups[i]? = some { l with phase } := by
  rw [enter, List.getElem?_modify_eq, h]
  rfl

theorem lookups_enter_of_ne (h : i ≠ j) (phase : Phase) :
    (s.enter i phase).lookups[j]? = s.lookups[j]? := by
  rw [enter, List.getElem?_modify_ne _ _ h]

/-- A lookup in a session after one has entered a new phase is that one or was there before. -/
theorem lookups_enter_eq_some {phase : Phase} (h : (s.enter i phase).lookups[j]? = some l) :
    (i ≠ j ∧ s.lookups[j]? = some l) ∨
      (i = j ∧ ∃ before, s.lookups[i]? = some before ∧ l = { before with phase }) := by
  by_cases hij : i = j
  · subst hij
    rw [enter, List.getElem?_modify_eq, Option.map_eq_map, Option.map_eq_some_iff] at h
    obtain ⟨before, hbefore, rfl⟩ := h
    exact .inr ⟨rfl, before, hbefore, rfl⟩
  · rw [lookups_enter_of_ne hij] at h
    exact .inl ⟨hij, h⟩

theorem lookups_start_eq_some {address chain : String}
    (h : (s.start address chain).lookups[i]? = some l) :
    s.lookups[i]? = some l ∨ (i = s.lookups.length ∧ l = ⟨address, chain, .checking⟩) := by
  rw [start, List.getElem?_append] at h
  split at h
  · exact .inl h
  · rw [List.getElem?_singleton] at h
    split at h
    · exact .inr ⟨by omega, (Option.some.inj h).symm⟩
    · exact nomatch h

/-- A contract that has no cell gets one, and all others keep theirs. -/
theorem find?_fetches_create (s : Session) (key key' : ContractKey) :
    (s.create key).fetches.find? key' =
      if key = key' then some s.cells.length else s.fetches.find? key' := by
  rw [create]
  split
  · rename_i heq
    rw [heq, Assoc.find?_insert_self]
  · rename_i hne
    rw [Assoc.find?_insert_of_ne _ hne]

theorem cell?_eq (h : s.fetches.find? key = some c) : s.cell? key = s.cells[c]? := by
  rw [cell?, h, Option.bind_some]

/-! ### Contracts and their cells -/

namespace Wired

theorem empty : Session.empty.Wired where
  lt_length hfind := nomatch hfind
  inj hfind := nomatch hfind
  taken hlookup := nomatch hlookup

theorem start (h : s.Wired) (address chain : String) : (s.start address chain).Wired where
  lt_length := h.lt_length
  inj := h.inj
  taken hlookup hcell := by
    rcases lookups_start_eq_some hlookup with hold | ⟨-, rfl⟩
    · exact h.taken hold hcell
    · exact nomatch hcell

/-- A lookup may enter a phase with the cell of its contract. -/
theorem enter (h : s.Wired) (hlookup : s.lookups[i]? = some l) {phase : Phase}
    (hphase : ∀ c, phase.cell? = some c → s.fetches.find? l.key = some c) :
    (s.enter i phase).Wired where
  lt_length := h.lt_length
  inj := h.inj
  taken hlater hcell := by
    rcases lookups_enter_eq_some hlater with ⟨-, hold⟩ | ⟨-, before, hbefore, rfl⟩
    · exact h.taken hold hcell
    · obtain rfl : l = before := Option.some.inj (hlookup.symm.trans hbefore)
      exact hphase _ hcell

theorem put (h : s.Wired) (c : Nat) (cell : Cell) : (s.put c cell).Wired where
  lt_length hfind := by
    rw [Session.put, List.length_set]
    exact h.lt_length hfind
  inj := h.inj
  taken := h.taken

theorem keep (h : s.Wired) (l : Lookup) (records : List ContractRecord) :
    (s.keep l records).Wired :=
  ⟨h.lt_length, h.inj, h.taken⟩

theorem create (h : s.Wired) (hnew : s.fetches.find? key = none) : (s.create key).Wired where
  lt_length hfind := by
    rw [find?_fetches_create] at hfind
    rw [Session.create, List.length_append, List.length_singleton]
    split at hfind
    · exact Option.some.inj hfind ▸ Nat.lt_succ_self _
    · exact Nat.lt_succ_of_lt (h.lt_length hfind)
  inj {key₁ key₂ c} hfind₁ hfind₂ := by
    rw [find?_fetches_create] at hfind₁ hfind₂
    -- The number of the new cell is none of an old one.
    split at hfind₁ <;> split at hfind₂
    · rename_i h₁ h₂
      exact h₁.symm.trans h₂
    · exact absurd (h.lt_length hfind₂) (Option.some.inj hfind₁ ▸ Nat.lt_irrefl _)
    · exact absurd (h.lt_length hfind₁) (Option.some.inj hfind₂ ▸ Nat.lt_irrefl _)
    · exact h.inj hfind₁ hfind₂
  taken hlookup hcell := by
    have hfind := h.taken hlookup hcell
    rw [find?_fetches_create, if_neg]
    · exact hfind
    · rintro rfl
      rw [hnew] at hfind
      cases hfind

/-- **Contracts keep their cells** whatever is done. -/
theorem step (h : s.Wired) (hstep : Step s e t) : t.Wired := by
  cases hstep with
  | start address chain => exact h.start address chain
  | hit hlookup => exact h.enter hlookup fun _ hc => nomatch hc
  | miss hlookup => exact h.enter hlookup fun _ hc => nomatch hc
  | take hlookup _ hknown =>
      refine h.enter hlookup ?_
      intro c hc
      rw [hknown, ← hc]
      rfl
  | create hlookup _ hunknown =>
      refine (h.create hunknown).enter hlookup ?_
      intro c hc
      rw [find?_fetches_create, if_pos rfl, ← hc]
      rfl
  | join hlookup => exact h.enter hlookup fun _ hc => nomatch hc
  | begin hlookup hphase =>
      exact (h.put _ _).enter hlookup fun c hc => h.taken hlookup (hphase ▸ hc)
  | fail hlookup => exact (h.put _ _).enter hlookup fun _ hc => nomatch hc
  | succeedEmpty hlookup => exact (h.put _ _).enter hlookup fun _ hc => nomatch hc
  | answer hlookup hphase => exact h.enter hlookup fun c hc => h.taken hlookup (hphase ▸ hc)
  | keep hlookup hphase =>
      exact (h.keep _ _).enter hlookup fun c hc => h.taken hlookup (hphase ▸ hc)
  | fill hlookup => exact (h.put _ _).enter hlookup fun _ hc => nomatch hc
  | cancel hlookup => exact h.enter hlookup fun _ hc => nomatch hc
  | abort hlookup => exact (h.put _ _).enter hlookup fun _ hc => nomatch hc

theorem steps (h : s.Wired) {trace : List Event} (hsteps : Steps s trace t) : t.Wired := by
  induction hsteps with
  | nil => exact h
  | concat _ hstep ih => exact ih.step hstep

end Wired

/-! ### Contracts apart from each other -/

/-- The cell of a contract has what was put there. -/
theorem cell?_put_self (hs : s.Wired) (h : s.fetches.find? key = some c) (cell : Cell) :
    (s.put c cell).cell? key = some cell := by
  have hfind : (s.put c cell).fetches.find? key = some c := h
  rw [cell?_eq hfind, put, List.getElem?_set_self (hs.lt_length h)]

theorem cell?_create_self (s : Session) (key : ContractKey) :
    (s.create key).cell? key = some .empty := by
  rw [cell?_eq (c := s.cells.length) (by rw [find?_fetches_create, if_pos rfl]), create,
    List.getElem?_concat_length]

/-- **Nothing has changed for a contract**: neither its records, nor its cell, nor its lookups. -/
structure SameFor (key : ContractKey) (s t : Session) : Prop where
  store_eq : t.store.contracts.find? key = s.store.contracts.find? key
  cell_eq : t.cell? key = s.cell? key
  lookups_eq : ∀ {i : Nat} {l : Lookup}, l.key = key → t.lookups[i]? = some l →
    s.lookups[i]? = some l

namespace SameFor

theorem trans (h₁ : SameFor key s t) (h₂ : SameFor key t u) : SameFor key s u where
  store_eq := h₂.store_eq.trans h₁.store_eq
  cell_eq := h₂.cell_eq.trans h₁.cell_eq
  lookups_eq hkey hlookup := h₁.lookups_eq hkey (h₂.lookups_eq hkey hlookup)

theorem start {address chain : String} (hne : .of address chain ≠ key) :
    SameFor key s (s.start address chain) where
  store_eq := rfl
  cell_eq := rfl
  lookups_eq hkey hlookup := by
    rcases lookups_start_eq_some hlookup with hold | ⟨-, rfl⟩
    · exact hold
    · exact absurd hkey hne

theorem enter (hlookup : s.lookups[i]? = some l) (hne : l.key ≠ key) (phase : Phase) :
    SameFor key s (s.enter i phase) where
  store_eq := rfl
  cell_eq := rfl
  lookups_eq hkey hlater := by
    rcases lookups_enter_eq_some hlater with ⟨-, hold⟩ | ⟨-, before, hbefore, rfl⟩
    · exact hold
    · obtain rfl : l = before := Option.some.inj (hlookup.symm.trans hbefore)
      exact absurd hkey hne

/-- The cell of one contract is not that of another one. -/
theorem put (hs : s.Wired) {key' : ContractKey} (hcell : s.fetches.find? key' = some c)
    (hne : key' ≠ key) (cell : Cell) : SameFor key s (s.put c cell) where
  store_eq := rfl
  cell_eq := by
    cases hfind : s.fetches.find? key with
    | none => rw [cell?, Session.put, hfind, cell?, hfind]; rfl
    | some c' =>
        -- One cell for both contracts would make them the same.
        have hc : c ≠ c' := by
          rintro rfl
          exact hne (hs.inj hcell hfind)
        have hput : (s.put c cell).fetches.find? key = some c' := hfind
        rw [cell?_eq hput, cell?_eq hfind, Session.put, List.getElem?_set_ne hc]
  lookups_eq _ hlookup := hlookup

theorem create (hs : s.Wired) {key' : ContractKey} (hne : key' ≠ key) :
    SameFor key s (s.create key') where
  store_eq := rfl
  cell_eq := by
    rw [cell?, find?_fetches_create, if_neg hne, cell?]
    cases hfind : s.fetches.find? key with
    | none => rfl
    | some c =>
        rw [Option.bind_some, Option.bind_some, Session.create]
        exact List.getElem?_append_left (hs.lt_length hfind)
  lookups_eq _ hlookup := hlookup

theorem keep (hne : l.key ≠ key) (records : List ContractRecord) :
    SameFor key s (s.keep l records) where
  store_eq := Assoc.find?_insert_of_ne _ hne _
  cell_eq := rfl
  lookups_eq _ hlookup := hlookup

/-- A lookup may put something into the cell that it has taken. -/
theorem put_enter (hs : s.Wired) (hlookup : s.lookups[i]? = some l)
    (htaken : l.phase.cell? = some c) (hne : l.key ≠ key) (cell : Cell) (phase : Phase) :
    SameFor key s ((s.put c cell).enter i phase) := by
  have hafter : (s.put c cell).lookups[i]? = some l := hlookup
  exact (put hs (hs.taken hlookup htaken) hne cell).trans (enter hafter hne phase)

theorem content_eq (h : SameFor key s t) : t.content key = s.content key := by
  rw [content, h.cell_eq, content]

end SameFor

/-- **A step changes nothing for another contract.** -/
theorem Step.frame (hs : s.Wired) (hstep : Step s e t) (hne : e.key ≠ key) : SameFor key s t := by
  cases hstep with
  | start address chain => exact .start hne
  | hit hlookup => exact .enter hlookup hne _
  | miss hlookup => exact .enter hlookup hne _
  | take hlookup => exact .enter hlookup hne _
  | create hlookup =>
      refine (SameFor.create hs hne).trans (.enter ?_ hne _)
      exact hlookup
  | join hlookup => exact .enter hlookup hne _
  | begin hlookup hphase => exact .put_enter hs hlookup (by rw [hphase]; rfl) hne _ _
  | fail hlookup hphase => exact .put_enter hs hlookup (by rw [hphase]; rfl) hne _ _
  | succeedEmpty hlookup hphase => exact .put_enter hs hlookup (by rw [hphase]; rfl) hne _ _
  | answer hlookup => exact .enter hlookup hne _
  | keep hlookup =>
      refine (SameFor.keep hne _).trans (.enter ?_ hne _)
      exact hlookup
  | fill hlookup hphase => exact .put_enter hs hlookup (by rw [hphase]; rfl) hne _ _
  | cancel hlookup => exact .enter hlookup hne _
  | abort hlookup _ htaken => exact .put_enter hs hlookup htaken hne _ _

/-! ### Contents of cells -/

theorem getElem?_cells (hs : s.Wired) (h : s.fetches.find? key = some c) :
    s.cells[c]? = some (s.content key) := by
  rw [content, cell?_eq h, List.getElem?_eq_getElem (hs.lt_length h), Option.getD_some]

theorem content_put (hs : s.Wired) (h : s.fetches.find? key = some c) (cell : Cell)
    (key' : ContractKey) :
    (s.put c cell).content key' = if key = key' then cell else s.content key' := by
  split
  · rename_i heq
    rw [← heq, content, cell?_put_self hs h, Option.getD_some]
  · rename_i hne
    exact (SameFor.put hs h hne cell).content_eq

theorem content_create (hs : s.Wired) (h : s.fetches.find? key = none) (key' : ContractKey) :
    (s.create key).content key' = s.content key' := by
  by_cases heq : key = key'
  · rw [← heq, content, cell?_create_self, content, cell?, h]
    rfl
  · exact (SameFor.create hs heq).content_eq

/-- **A lookup that the store did not help takes the cell of its contract.** -/
theorem exists_took (hs : s.Wired) (hlookup : s.lookups[i]? = some l)
    (hphase : l.phase = .missed) :
    ∃ c u, Step s ⟨i, l.key, .took⟩ u ∧ u.lookups[i]? = some { l with phase := .waiting c } ∧
      u.cells[c]? = some (s.content l.key) ∧ u.store = s.store ∧
      ∀ key, u.content key = s.content key := by
  cases hfind : s.fetches.find? l.key with
  | none =>
      have hcreate : (s.create l.key).lookups[i]? = some l := hlookup
      refine ⟨_, _, .create hlookup hphase hfind, lookups_enter_self hcreate _, ?_, rfl,
        content_create hs hfind⟩
      rw [content, cell?, hfind]
      exact List.getElem?_concat_length
  | some c =>
      have hcell := getElem?_cells hs hfind
      exact ⟨c, _, .take hlookup hphase hfind, lookups_enter_self hlookup _, hcell, rfl,
        fun _ => rfl⟩

end Session

end AddressTrace.Explorer
