import AddressTrace.Contract.Store
import AddressTrace.Proofs.Data.Assoc

/-!
# A store is a map

Whatever is asked of a store, and in whatever order, it answers as a map from contracts to lists of
records would.  The map is a function of the folded address and the chain, so that neither the
order in which contracts came in nor the spelling of their addresses can be seen from outside.

## Main definitions

* `ContractStore.Request`, `ContractStore.Answer` — what is asked of a store, and what it says;
* `ContractStore.Service` — what answers requests one after the other;
* `ContractStore.service` — the store as a service;
* `Contents.service` — the map as a service;
* `ContractStore.Holds` — a store holds some contents;
* `ContractStore.writes` — what some requests write.

## Main statements

* `ContractStore.Holds.answer_eq`, `ContractStore.Holds.next` — one request;
* `ContractStore.Service.Simulates.answers_eq` — from one request to many;
* `ContractStore.holds_ofRecords` — records are grouped by contract;
* `ContractStore.answers_as_contents` — a store is a map.
-/

namespace AddressTrace

/-- The contract that a record belongs to. -/
def ContractRecord.key (r : ContractRecord) : ContractKey := .of r.address r.chain

/-- **Contracts are told apart** by their addresses up to the case of the letters, and by their
chains exactly. -/
theorem ContractKey.of_eq_of_iff {address chain address' chain' : String} :
    ContractKey.of address chain = .of address' chain' ↔
      Address.foldCase address = Address.foldCase address' ∧ chain = chain' := by
  rw [ContractKey.of, ContractKey.of, ContractKey.mk.injEq]

namespace ContractStore

/-! ### Services -/

/-- What is asked of a store. -/
inductive Request where
  | insert (address chain : String) (records : List ContractRecord)
  | get (address chain : String)
  | records (address chain : String)
  | size
  | isEmpty

/-- What a store says. -/
inductive Answer where
  | done
  | found (records : Option (List ContractRecord))
  | listed (records : List ContractRecord)
  | count (n : Nat)
  | truth (b : Bool)
deriving Repr, DecidableEq

/-- **What answers requests one after the other**, with a state of its own. -/
structure Service (σ : Type) where
  answer : σ → Request → Answer
  next : σ → Request → σ

namespace Service

variable {σ τ : Type}

/-- The state that some requests leave. -/
def after (service : Service σ) (s : σ) (requests : List Request) : σ :=
  requests.foldl service.next s

theorem after_concat (service : Service σ) (s : σ) (requests : List Request) (q : Request) :
    service.after s (requests ++ [q]) = service.next (service.after s requests) q := by
  rw [after, List.foldl_append]
  rfl

/-- The answers to some requests, each from the state that those before it leave. -/
def answers (service : Service σ) (s : σ) : List Request → List Answer
  | [] => []
  | q :: rest => service.answer s q :: service.answers (service.next s q) rest

/-- **Related states answer alike, and stay related.** -/
structure Simulates (service : Service σ) (spec : Service τ) (R : σ → τ → Prop) : Prop where
  answer_eq : ∀ {s t}, R s t → ∀ q, service.answer s q = spec.answer t q
  next : ∀ {s t}, R s t → ∀ q, R (service.next s q) (spec.next t q)

variable {service : Service σ} {spec : Service τ} {R : σ → τ → Prop} {s : σ} {t : τ}

theorem Simulates.after (h : Simulates service spec R) (hR : R s t) (requests : List Request) :
    R (service.after s requests) (spec.after t requests) := by
  induction requests generalizing s t with
  | nil => exact hR
  | cons q rest ih => exact ih (h.next hR q)

/-- **A simulation makes all answers of all runs alike.** -/
theorem Simulates.answers_eq (h : Simulates service spec R) (hR : R s t)
    (requests : List Request) : service.answers s requests = spec.answers t requests := by
  induction requests generalizing s t with
  | nil => rfl
  | cons q rest ih => rw [answers, answers, h.answer_eq hR, ih (h.next hR q)]

end Service

/-- **The store as a service.** -/
def service : Service ContractStore where
  answer s
    | .insert .. => .done
    | .get address chain => .found (s.get? address chain)
    | .records address chain => .listed (s.records address chain)
    | .size => .count s.size
    | .isEmpty => .truth s.isEmpty
  next s
    | .insert address chain records => s.insert address chain records
    | _ => s

end ContractStore

/-! ### Contents -/

/-- **The contents of a store**: for each contract its records, if it was ever written. -/
abbrev Contents : Type := ContractKey → Option (List ContractRecord)

namespace Contents

open ContractStore

/-- The contents that some records make: each contract has its own, in their order. -/
def ofRecords (records : List ContractRecord) : Contents := fun key =>
  let own := records.filter (·.key = key)
  if own = [] then none else some own

open Classical in
/-- **The map as a service.**  A contract is written as a whole, and counted once it is written,
with records or without. -/
noncomputable def service : Service Contents where
  answer contents
    | .insert .. => .done
    | .get address chain => .found (contents (.of address chain))
    | .records address chain => .listed ((contents (.of address chain)).getD [])
    | .size => .count (Set.ncard {key | (contents key).isSome})
    | .isEmpty => .truth (decide (∀ key, contents key = none))
  next contents
    | .insert address chain records =>
        Function.update contents (.of address chain) (some records)
    | _ => contents

theorem ofRecords_eq_some {records own : List ContractRecord} {key : ContractKey} :
    ofRecords records key = some own ↔ own = records.filter (·.key = key) ∧ own ≠ [] := by
  rw [ofRecords]
  split
  · next h => simp [h]
  · next h =>
      rw [Option.some_inj]
      exact ⟨fun heq => ⟨heq.symm, heq ▸ h⟩, fun heq => heq.1.symm⟩

theorem isSome_ofRecords {records : List ContractRecord} {key : ContractKey} :
    (ofRecords records key).isSome ↔ key ∈ records.map ContractRecord.key := by
  simp only [Option.isSome_iff_exists, ofRecords_eq_some, exists_eq_left]
  simp [List.filter_eq_nil_iff]

/-- One more record comes last among those of its contract, and changes no other contract. -/
theorem ofRecords_concat (records : List ContractRecord) (r : ContractRecord) :
    ofRecords (records ++ [r]) = Function.update (ofRecords records) r.key
      (some ((ofRecords records r.key).getD [] ++ [r])) := by
  funext key
  by_cases hkey : key = r.key
  · subst hkey
    have hown : (ofRecords records r.key).getD [] = records.filter (·.key = r.key) := by
      rw [ofRecords]
      split
      · next h => exact h.symm
      · rfl
    rw [Function.update_self, hown]
    simp [ofRecords, List.filter_append]
  · rw [Function.update_of_ne hkey]
    simp [ofRecords, List.filter_append, Ne.symm hkey]

end Contents

namespace ContractStore

/-! ### Stores and their contents -/

/-- **A store holds some contents**: it finds them, and nothing else. -/
def Holds (s : ContractStore) (contents : Contents) : Prop :=
  ∀ key, s.contracts.find? key = contents key

variable {s : ContractStore} {contents : Contents}

theorem Holds.get?_eq (h : s.Holds contents) (address chain : String) :
    s.get? address chain = contents (.of address chain) :=
  h _

theorem Holds.size_eq (h : s.Holds contents) :
    s.size = Set.ncard {key | (contents key).isSome} := by
  rw [size, Assoc.size_eq]
  simp only [h _]

theorem Holds.isEmpty_iff (h : s.Holds contents) :
    s.isEmpty ↔ ∀ key, contents key = none := by
  rw [isEmpty, Assoc.isEmpty_iff]
  simp only [h _]

theorem Holds.insert (h : s.Holds contents) (address chain : String)
    (records : List ContractRecord) :
    (s.insert address chain records).Holds
      (Function.update contents (.of address chain) (some records)) := by
  intro key
  by_cases hkey : key = .of address chain
  · rw [hkey, Function.update_self]
    exact Assoc.find?_insert_self ..
  · rw [Function.update_of_ne hkey, ← h key]
    exact Assoc.find?_insert_of_ne _ (Ne.symm hkey) _

/-- A store answers as its contents do. -/
theorem Holds.answer_eq (h : s.Holds contents) (q : Request) :
    service.answer s q = Contents.service.answer contents q := by
  cases q with
  | insert => rfl
  | get address chain => exact congrArg Answer.found (h.get?_eq address chain)
  | records address chain =>
      exact congrArg (fun found => Answer.listed (found.getD [])) (h.get?_eq address chain)
  | size => exact congrArg Answer.count h.size_eq
  | isEmpty =>
      classical
      exact congrArg Answer.truth (Bool.eq_iff_iff.2 (h.isEmpty_iff.trans decide_eq_true_iff.symm))

/-- A store and its contents change alike. -/
theorem Holds.next (h : s.Holds contents) (q : Request) :
    (service.next s q).Holds (Contents.service.next contents q) := by
  cases q with
  | insert address chain records => exact h.insert address chain records
  | get | records | size | isEmpty => exact h

theorem simulates : service.Simulates Contents.service Holds := ⟨Holds.answer_eq, Holds.next⟩

/-- **Records are grouped by contract.** -/
theorem holds_ofRecords (records : List ContractRecord) :
    (ofRecords records).Holds (Contents.ofRecords records) := by
  induction records using List.reverseRecOn with
  | nil => exact fun _ => rfl
  | append_singleton records r ih =>
      have hown : (Contents.ofRecords records r.key).getD [] =
          (ofRecords records).records r.address r.chain :=
        congrArg (fun found => found.getD []) (ih.get?_eq r.address r.chain).symm
      rw [Contents.ofRecords_concat, hown, ofRecords, List.foldl_append]
      exact ih.insert r.address r.chain _

/-! ### What is written -/

/-- The contract that a request writes, with its records. -/
def Request.write? : Request → Option (ContractKey × List ContractRecord)
  | .insert address chain own => some (.of address chain, own)
  | _ => none

/-- **What some requests write**, in their order. -/
def writes (requests : List Request) : List (ContractKey × List ContractRecord) :=
  requests.filterMap Request.write?

theorem writes_concat (requests : List Request) (q : Request) :
    writes (requests ++ [q]) = writes requests ++ q.write?.toList := by
  rw [writes, List.filterMap_append]
  cases hq : q.write? with
  | none => rw [List.filterMap_cons_none hq, List.filterMap_nil, writes, Option.toList_none]
  | some e => rw [List.filterMap_cons_some hq, List.filterMap_nil, writes, Option.toList_some]

/-- The contents that a request leaves are those with what it writes. -/
theorem next_eq (contents : Contents) (q : Request) :
    Contents.service.next contents q =
      q.write?.elim contents fun e => Function.update contents e.1 (some e.2) := by
  cases q <;> rfl

/-- **What is written last counts**, and what is not written stays as it was. -/
theorem after_eq_some (contents : Contents) (requests : List Request) (key : ContractKey)
    (own : List ContractRecord) :
    Contents.service.after contents requests key = some own ↔
      Assoc.LastAt key own (writes requests) ∨
        key ∉ (writes requests).map Prod.fst ∧ contents key = some own := by
  induction requests using List.reverseRecOn with
  | nil => simp [Service.after, writes, Assoc.not_lastAt_nil]
  | append_singleton requests q ih =>
      rw [Service.after_concat, next_eq, writes_concat]
      cases q.write? with
      | none =>
          rw [Option.toList_none, List.append_nil]
          exact ih
      | some e =>
          rw [Option.toList_some, Option.elim_some, Assoc.lastAt_concat]
          -- The last request decides about its own contract, and leaves the others to `ih`.
          by_cases hkey : key = e.1
          · subst hkey
            simp [Prod.ext_iff]
          · have hne : e ≠ (key, own) := fun he => hkey (congrArg Prod.fst he).symm
            rw [Function.update_of_ne hkey, ih]
            simp [hkey, Ne.symm hkey, hne]

/-- The contracts with contents are those that had some and those that were written. -/
theorem isSome_after (contents : Contents) (requests : List Request) (key : ContractKey) :
    (Contents.service.after contents requests key).isSome ↔
      (contents key).isSome ∨ key ∈ (writes requests).map Prod.fst := by
  simp only [Option.isSome_iff_exists, after_eq_some, exists_or, exists_and_left]
  have hwritten : (∃ own, Assoc.LastAt key own (writes requests)) ↔
      key ∈ (writes requests).map Prod.fst := by
    constructor
    · rintro ⟨own, hlast⟩
      exact List.mem_map_of_mem hlast.mem
    · intro hkey
      obtain ⟨⟨_, own⟩, hmem, rfl⟩ := List.mem_map.1 hkey
      exact Assoc.exists_lastAt hmem
  rw [hwritten]
  tauto

/-- The contracts that some records and some requests write. -/
def writtenKeys (records : List ContractRecord) (requests : List Request) : List ContractKey :=
  records.map ContractRecord.key ++ (writes requests).map Prod.fst

theorem isSome_after_ofRecords (records : List ContractRecord) (requests : List Request)
    (key : ContractKey) :
    (Contents.service.after (.ofRecords records) requests key).isSome ↔
      key ∈ writtenKeys records requests := by
  rw [isSome_after, Contents.isSome_ofRecords, writtenKeys, List.mem_append]

/-- The store of some records after some requests, with its contents. -/
theorem holds_after (records : List ContractRecord) (requests : List Request) :
    (service.after (ofRecords records) requests).Holds
      (Contents.service.after (.ofRecords records) requests) :=
  simulates.after (holds_ofRecords records) requests

/-- **A store is a map** from contracts to lists of records.

Built from records and asked whatever there is to ask, it answers as the map does.  A contract has
the records of the last request that wrote it, under whatever spelling of its address, and without
such a request those that the store was built from.  The contracts that were written are counted,
each once, and the store is empty when there is none. -/
theorem answers_as_contents (records : List ContractRecord) (requests : List Request) :
    service.answers (ofRecords records) requests =
        Contents.service.answers (.ofRecords records) requests ∧
      (∀ address chain own,
        (service.after (ofRecords records) requests).get? address chain = some own ↔
          Assoc.LastAt (.of address chain) own (writes requests) ∨
            .of address chain ∉ (writes requests).map Prod.fst ∧
              own = records.filter (·.key = .of address chain) ∧ own ≠ []) ∧
      (service.after (ofRecords records) requests).size =
        (writtenKeys records requests).toFinset.card ∧
      ((service.after (ofRecords records) requests).isEmpty ↔
        writtenKeys records requests = []) ∧
      ∀ address chain address' chain',
        ContractKey.of address chain = .of address' chain' ↔
          Address.foldCase address = Address.foldCase address' ∧ chain = chain' := by
  have hafter := holds_after records requests
  refine ⟨simulates.answers_eq (holds_ofRecords records) requests, fun address chain own => ?_, ?_,
    ?_, fun _ _ _ _ => ContractKey.of_eq_of_iff⟩
  · rw [hafter.get?_eq, after_eq_some, Contents.ofRecords_eq_some]
  · have hkeys : {key | (Contents.service.after (.ofRecords records) requests key).isSome} =
        ((writtenKeys records requests).toFinset : Set ContractKey) := by
      ext key
      rw [List.coe_toFinset]
      exact isSome_after_ofRecords records requests key
    rw [hafter.size_eq, hkeys, Set.ncard_coe_finset]
  · rw [hafter.isEmpty_iff, List.eq_nil_iff_forall_not_mem]
    refine forall_congr' fun key => ?_
    rw [← isSome_after_ofRecords, Option.not_isSome_iff_eq_none]

/-- The spelling of an address is not seen, the chain is, and a contract without records counts. -/
example :
    let record address path : ContractRecord := ⟨address, "ethereum", path, "", "", "", none⟩
    service.answers (ofRecords [record "0xAbC1" "/A.sol", record "0xabc1" "/B.sol"])
        [.records "0xABC1" "ethereum", .get "0xabc1" "optimism", .size,
          .insert "0xaBC1" "ethereum" [], .get "0xABc1" "ethereum", .size] =
      [.listed [record "0xAbC1" "/A.sol", record "0xabc1" "/B.sol"], .found none, .count 1,
        .done, .found (some []), .count 1] := by
  decide +kernel

end ContractStore

end AddressTrace
