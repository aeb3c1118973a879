import AddressTrace.Linkage.Load
import AddressTrace.Reference.Collect
import AddressTrace.Resolve.Deferred
import AddressTrace.Resolve.Options
import AddressTrace.Tree.OfSource

/-!
# Analysing contracts

The references to addresses in the source files of a contract, with the calls made that some of
them wait for.

## Main definitions

* `Report`, `Analysis` — what was lost, and what was found;
* `analyse` — the references of one source file;
* `addressesByPath` — the references of all source files of a deployed contract.
-/

namespace AddressTrace

/-- **What was lost** while one file was analysed. -/
structure Report where
  /-- The source does not parse, so there are no references at all. -/
  parseFailed : Bool
  /-- The number of findings without a place. -/
  skippedNodes : Nat
  /-- The number of libraries whose own links could not be loaded. -/
  failedLibraries : Nat
  /-- The number of calls that gave no address. -/
  dropped : Nat
deriving Repr, DecidableEq

/-- **The references of one file** and what was lost. -/
structure Analysis where
  references : List Reference
  report : Report
deriving Repr, DecidableEq

/-- The analysis of a source that does not parse. -/
def Analysis.unparsed : Analysis := ⟨[], ⟨true, 0, 0, 0⟩⟩

/-- **A reference after its call was made**, or as it was if there was none to make.  A call that
fails leaves nothing. -/
def Reference.settle (r : Reference) : Option (Except Failure String) → Option Reference
  | none => some r
  | some (.ok address) => some { r with resolution := .resolved address }
  | some (.error _) => none

/-- Did a call fail? -/
def isDropped : Option (Except Failure String) → Bool
  | some (.error _) => true
  | _ => false

variable {m : Type → Type} [Monad m]

/-- The outcome of the call that a reference waits for, if it waits for one. -/
def outcomeOf (net : Network m) (chain : String) (limit : Nat) (r : Reference) :
    m (Option (Except Failure String)) :=
  match r.request? with
  | none => return none
  | some request => return some (← deferredAddress net chain request limit)

/-- The libraries that a source can call, and the number of libraries that could not be loaded.
Where the contract itself cannot be loaded there are none. -/
def callableLibraries (net : Network m) (address chain : String) (maxDepth : Nat) :
    m (LinkedLibraries × Nat) := do
  match ← loadLibraries net address chain maxDepth with
  | .error _ => return (.empty, 0)
  | .ok libraries =>
    return (← libraryFunctions net libraries.direct chain, libraries.failed.length)

/-- **The references of one source file.**  Only the libraries that the contract itself is linked
with can be called by name from its source. -/
def analyse (net : Network m) (options : Options) (record : ContractRecord) : m Analysis := do
  match SyntaxTree.ofSource? record.sourceCode with
  | none => return .unparsed
  | some tree =>
    let (libraries, failed) ←
      callableLibraries net record.address record.chain options.maxLibraryDepth
    let file := SourceFile.ofText record.path record.name record.sourceCode
    let found := collect file tree (.ofTree tree) libraries Pass.all
    let outcomes ← found.references.mapM (outcomeOf net record.chain options.callTimeout)
    return {
      references := (found.references.zip outcomes).filterMap fun e => e.1.settle e.2
      report := ⟨false, found.skipped, failed, outcomes.countP isDropped⟩ }

/-- **The references of all source files of a contract**, by path.  Of files with one path the
last counts. -/
def addressesByPath (net : Network m) (options : Options) (address chain : String) :
    m (Except Failure (SortedMap String (List Reference))) := do
  match (← net.lookup address chain).outcome with
  | .error failure => return .error failure
  | .ok [] => return .error (.contractNotFound address chain)
  | .ok records =>
    let files ← records.mapM fun r => return (r.path, (← analyse net options r).references)
    return .ok (.ofList files)

end AddressTrace
