import AddressTrace.Linkage.Descriptor
import AddressTrace.Linkage.Library
import AddressTrace.Network.Basic

/-!
# Loading libraries

The libraries that a contract is linked with, those that they are linked with in turn, and so on,
level by level.

## Main definitions

* `Libraries` — what was found;
* `Libraries.Search` — what is known while levels are still being visited;
* `loadLibraries` — all libraries of a contract down to a level;
* `libraryFunctions` — which functions of the linked libraries return an address.
-/

namespace AddressTrace

/-- **The libraries of a contract.** -/
structure Libraries where
  /-- The libraries that the contract itself is linked with. -/
  direct : Linkage
  /-- All libraries that were found. -/
  linkage : Linkage
  /-- The addresses of libraries whose own links could not be loaded. -/
  failed : List String
deriving Repr, DecidableEq

/-- The links of a contract, given the answer to its lookup.  The first record counts. -/
def linksOf (address chain : String) (outcome : Except Failure (List ContractRecord)) :
    Except Failure Linkage := do
  match ← outcome with
  | r :: _ => return .ofDescriptor r.library
  | [] => throw (.contractNotFound address chain)

namespace Libraries

/-- **What is known during a search**: the addresses seen, in lower case, the links found, and
the addresses whose links could not be loaded. -/
structure Search where
  seen : List String
  linkage : Linkage
  failed : List String
deriving Repr, DecidableEq

namespace Search

/-- Adds one link.  The first address of a name stays; an address that was not seen before, in any
spelling, is to be visited. -/
def addLink (s : Search) (name address : String) : Search × List String :=
  let folded := Address.foldCase address
  let known := s.seen.contains folded
  ({ s with
      seen := if known then s.seen else s.seen ++ [folded]
      linkage := s.linkage.insertNew name address },
    if known then [] else [address])

/-- Adds some links, and gives the addresses to be visited in their order. -/
def addLinks (s : Search) : List (String × String) → Search × List String
  | [] => (s, [])
  | (name, address) :: rest =>
    let (s, new) := s.addLink name address
    let (s, more) := s.addLinks rest
    (s, new ++ more)

/-- Adds what the lookups of a level gave, and gives the addresses of the next level. -/
def addLevel (s : Search) : List (String × Except Failure Linkage) → Search × List String
  | [] => (s, [])
  | (address, .error _) :: rest => { s with failed := s.failed ++ [address] }.addLevel rest
  | (_, .ok links) :: rest =>
    let (s, new) := s.addLinks links.toList
    let (s, more) := s.addLevel rest
    (s, new ++ more)

end Search

end Libraries

variable {m : Type → Type} [Monad m]

/-- The links of the contract at an address. -/
def Network.links (net : Network m) (address chain : String) : m (Except Failure Linkage) := do
  return linksOf address chain (← net.lookup address chain).outcome

/-- The links of each of some contracts. -/
def Network.linksOfAll (net : Network m) (chain : String) (addresses : List String) :
    m (List (String × Except Failure Linkage)) :=
  addresses.mapM fun address => return (address, ← net.links address chain)

/-- Visits the addresses of a level, then those that they link to, for so many levels at most. -/
def followLinks (net : Network m) (chain : String) (s : Libraries.Search) :
    Nat → List String → m Libraries.Search
  | _, [] => return s
  | 0, _ :: _ => return s
  | levels + 1, address :: addresses => do
    let links ← net.linksOfAll chain (address :: addresses)
    let (s, next) := s.addLevel links
    followLinks net chain s levels next

/-- **All libraries of a contract down to a level**, each visited once.  The contract itself is
the first level and is always visited; only a failure to load it is one of the whole. -/
def loadLibraries (net : Network m) (address chain : String) (maxDepth : Nat) :
    m (Except Failure Libraries) := do
  match ← net.links address chain with
  | .error failure => return .error failure
  | .ok direct =>
    let start : Libraries.Search := ⟨[Address.foldCase address], .empty, []⟩
    let (s, first) := start.addLinks direct.toList
    let s ← followLinks net chain s (maxDepth - 1) first
    return .ok ⟨direct, s.linkage, s.failed⟩

/-! ### Functions of libraries -/

/-- A library as the source of a contract sees it, if its interface is there and can be read. -/
def linkedLibrary? (name address : String)
    (outcome : Except Failure (Option Abi.Interface)) : Option (String × LinkedLibrary) :=
  match outcome with
  | .ok (some i) => some (name, ⟨address, i.addressFunctions⟩)
  | _ => none

/-- **Which functions of the linked libraries return an address.**  Libraries without a usable
interface are left out. -/
def libraryFunctions (net : Network m) (linkage : Linkage) (chain : String) :
    m LinkedLibraries := do
  let found ← linkage.toList.mapM fun link => do
    let reply ← net.interface link.2 chain
    return linkedLibrary? link.1 link.2 reply.outcome
  return .ofList (found.filterMap id)

end AddressTrace
