import AddressTrace.Address
import AddressTrace.Contract.Record
import AddressTrace.Data.Assoc

/-!
# Stored contracts

Records held in memory, by the contract that they belong to.  The case of the letters of an
address does not tell contracts apart.

## Main definitions

* `ContractKey` — the contract at an address of a chain;
* `ContractStore` — the records of some contracts;
* `ContractStore.ofRecords` — the store of some records, grouped by contract.

## Main statements

`get?_insert_of_eq` and `get?_insert_of_ne` say what replacing a contract changes, `size_insert` how
many contracts there are after it.
-/

namespace AddressTrace

/-- **What identifies a contract**: its address in lower case, and its chain. -/
structure ContractKey where
  address : String
  chain : String
deriving Repr, DecidableEq

/-- The key of the contract at an address. -/
def ContractKey.of (address chain : String) : ContractKey := ⟨Address.foldCase address, chain⟩

/-- **The records of some contracts**, each contract's in their order. -/
structure ContractStore where
  contracts : Assoc ContractKey (List ContractRecord)
deriving Repr, DecidableEq

namespace ContractStore

/-- The store without contracts. -/
def empty : ContractStore := ⟨.empty⟩

/-- The records of the contract at an address, if it is stored. -/
def get? (s : ContractStore) (address chain : String) : Option (List ContractRecord) :=
  s.contracts.find? (.of address chain)

/-- The records of the contract at an address, none if it is not stored. -/
def records (s : ContractStore) (address chain : String) : List ContractRecord :=
  (s.get? address chain).getD []

/-- **The store with all records of one contract replaced.** -/
def insert (s : ContractStore) (address chain : String) (records : List ContractRecord) :
    ContractStore :=
  ⟨s.contracts.insert (.of address chain) records⟩

/-- The store with one record put behind those of its contract. -/
def push (s : ContractStore) (r : ContractRecord) : ContractStore :=
  s.insert r.address r.chain (s.records r.address r.chain ++ [r])

/-- **The store of some records**, grouped by contract. -/
def ofRecords (records : List ContractRecord) : ContractStore := records.foldl push empty

/-- The number of contracts. -/
def size (s : ContractStore) : Nat := s.contracts.size

/-- Is there no contract at all? -/
def isEmpty (s : ContractStore) : Bool := s.contracts.isEmpty

@[simp] theorem get?_empty (address chain : String) : empty.get? address chain = none := rfl

/-- A replaced contract is found under any spelling of its address. -/
theorem get?_insert_of_eq (s : ContractStore) {address chain address' chain' : String}
    (h : ContractKey.of address chain = .of address' chain') (records : List ContractRecord) :
    (s.insert address chain records).get? address' chain' = some records := by
  simp [insert, get?, h]

/-- All other contracts keep their records. -/
theorem get?_insert_of_ne (s : ContractStore) {address chain address' chain' : String}
    (h : ContractKey.of address chain ≠ .of address' chain') (records : List ContractRecord) :
    (s.insert address chain records).get? address' chain' = s.get? address' chain' :=
  s.contracts.find?_insert_of_ne h records

/-- A contract that was not stored adds one to their number. -/
theorem size_insert (s : ContractStore) (address chain : String) (records : List ContractRecord) :
    (s.insert address chain records).size =
      if (s.get? address chain).isSome then s.size else s.size + 1 :=
  s.contracts.size_insert _ records

end ContractStore

end AddressTrace
