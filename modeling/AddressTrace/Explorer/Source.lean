import AddressTrace.Config.Basic
import AddressTrace.Contract.Store
import AddressTrace.Explorer.Blockscout
import AddressTrace.Explorer.Etherscan
import AddressTrace.Http.Transport

/-!
# Contracts from explorers

Verified contracts, fetched from the explorer of their chain and kept for later lookups.

## Main definitions

* `Explorer.fetch` — asks the explorer for a contract;
* `Explorer.Cache` — what was fetched so far;
* `Explorer.lookup` — a contract from the cache, or else from the explorer.

A contract is fetched once.  A fetch that fails is made again by the next lookup; one that finds no
verified contract is remembered.
-/

namespace AddressTrace.Explorer

open Http

variable {m : Type → Type} [Monad m]

/-- **What the explorers are asked with.** -/
structure Access (m : Type → Type) where
  config : Config
  /-- The value of an environment variable. -/
  environment? : String → m (Option String)
  send : Transport m

/-- The URL of an explorer without slashes at its end. -/
def baseUrl (explorer : String) : String :=
  String.ofList (explorer.toList.reverse.dropWhile (· == '/')).reverse

/-- The key for the explorer of a chain, given the value of its variable; an empty one does not
count. -/
def usableKey (name : String) (value : Option String) : Except Failure String :=
  match value.filter fun key => !key.isEmpty with
  | some key => .ok key
  | none => .error (.config (.noApiKey name))

/-- The key for the explorer of a chain. -/
def apiKey (access : Access m) (name : String) (chain : Chain) : m (Except Failure String) := do
  match chain.apiKeyVariable with
  | none => return usableKey name none
  | some keyVariable => return usableKey name (← access.environment? keyVariable)

/-- The URL at which an explorer of the Etherscan kind has the source of a contract. -/
def etherscanUrl? (explorer address key : String) : Option Url :=
  (Url.parse? (baseUrl explorer ++ "/api")).map fun url =>
    url.withQuery [("module", "contract"), ("action", "getsourcecode"), ("address", address),
      ("apikey", key)]

/-- The URL at which an explorer of the Blockscout kind has a contract. -/
def blockscoutUrl? (explorer address : String) : Option Url :=
  Url.parse? (baseUrl explorer ++ "/" ++ address)

/-- The response of a resource. -/
def get (access : Access m) (url : Option Url) : m (Except Failure Response) := do
  match url with
  | none => return .error .http
  | some url =>
    match ← access.send (.get url) with
    | none => return .error .http
    | some response => return .ok response

/-- The body of a response that reports no error. -/
def bodyOf (response : Response) : Except Failure String :=
  if response.isError then .error .http else .ok response.body

/-- **Asks the explorer of a chain for a contract.** -/
def fetch (access : Access m) (address name : String) :
    m (Except Failure (List ContractRecord)) := do
  match access.config.chain name with
  | .error failure => return .error failure
  | .ok chain =>
    match chain.kind with
    | .etherscan =>
      match ← apiKey access name chain with
      | .error failure => return .error failure
      | .ok key =>
        let response ← get access (etherscanUrl? chain.explorer address key)
        return (response.bind bodyOf).bind (Etherscan.records address name)
    | .blockscout =>
      match ← get access (blockscoutUrl? chain.explorer address) with
      | .error failure => return .error failure
      | .ok response =>
        if response.status = Response.notFound then return .ok []
        else return (bodyOf response).bind (Blockscout.records address name)

/-- **What was fetched so far.** -/
structure Cache where
  /-- The contracts that are verified. -/
  store : ContractStore
  /-- The outcome of each successful fetch. -/
  fetched : Assoc ContractKey (List ContractRecord)
deriving Repr, DecidableEq

namespace Cache

/-- The cache before the first fetch. -/
def empty : Cache := ⟨.empty, .empty⟩

/-- The records of a contract, if it was fetched. -/
def find? (c : Cache) (address chain : String) : Option (List ContractRecord) :=
  (c.store.get? address chain).or (c.fetched.find? (.of address chain))

/-- **The cache with a fetch remembered.**  A contract that is not verified is not stored. -/
def remember (c : Cache) (address chain : String) (records : List ContractRecord) : Cache where
  store := if records.isEmpty then c.store else c.store.insert address chain records
  fetched := c.fetched.insert (.of address chain) records

end Cache

/-- **The records of a contract**, from the cache or else from its explorer. -/
def lookup (access : Access m) (address chain : String) :
    StateT Cache m (Except Failure (List ContractRecord)) := fun cache => do
  match cache.find? address chain with
  | some records => return (.ok records, cache)
  | none =>
    match ← fetch access address chain with
    | .error failure => return (.error failure, cache)
    | .ok records => return (.ok records, cache.remember address chain records)

end AddressTrace.Explorer
