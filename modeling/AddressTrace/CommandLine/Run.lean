import AddressTrace.CommandLine.Arguments
import AddressTrace.Explorer.Source
import AddressTrace.Resolve.Analysis
import AddressTrace.Rpc

/-!
# Running the program

What the program prints for its arguments, given the files, the environment and the network.

## Main definitions

* `Surroundings` — what the program finds around it;
* `Outcome` — what it ends with;
* `scan`, `resolve`, `run` — its two commands, and the whole.
-/

namespace AddressTrace.CommandLine

open Text Json

/-- **What the program finds around it.** -/
structure Surroundings (m : Type → Type) where
  readFile : String → m (Except FileProblem String)
  /-- The value of an environment variable. -/
  environment? : String → m (Option String)
  send : Http.Transport m

/-- **What the program ends with.** -/
inductive Outcome
  /-- It prints a text. -/
  | printed (text : String)
  /-- It reports a failure. -/
  | failed (failure : Failure)
  /-- It does not understand its arguments. -/
  | usage
deriving Repr, DecidableEq

/-- The exit code of an outcome. -/
def Outcome.code : Outcome → Nat
  | .printed _ => 0
  | .failed _ => 1
  | .usage => 2

/-- The name of a file without its last extension.  A dot in front begins no extension. -/
def stem (name : List Char) : List Char :=
  match splitLast? '.' name with
  | some ([], _) | none => name
  | some (before, _) => before

/-- **The stem of the file that a path names**; empty if it names none. -/
def fileStem (path : String) : String :=
  let parts := (pieces '/' path.toList).filter fun p => p != [] && p != ['.']
  match parts.getLast? with
  | none | some ['.', '.'] => ""
  | some name => String.ofList (stem name)

/-- A value as it is printed, with the end of its last line. -/
def printed (pretty : Bool) (value : Value) : Outcome :=
  .printed ((if pretty then value.pretty else value.compact) ++ "\n")

/-- References as a list. -/
def referencesValue (references : List Reference) : Value :=
  .array (references.map Reference.report)

/-- References by path, as an object. -/
def filesValue (files : SortedMap String (List Reference)) : Value :=
  .object (files.toList.map fun (path, references) => (path, referencesValue references))

/-- **The world without a network**: no contract is verified, and no call is made. -/
def offline : World where
  lookup _ _ := ⟨0, .ok []⟩
  call chain target method _ := ⟨0, .error (.rpc (.offline chain target method.name))⟩

/-- The references of a source that belongs to no contract. -/
def scanSource (path contractName sourceCode : String) : List Reference :=
  let record : ContractRecord :=
    { address := "", chain := "", path, name := contractName, sourceCode, library := ""
      abi := none }
  (analyse offline.network .standard record).value.references

/-- **The command that scans a file.** -/
def scan (path : String) (contractName : Option String) (pretty : Bool) :
    Except FileProblem String → Outcome
  | .error problem => .failed (.file problem)
  | .ok sourceCode =>
    let name := contractName.getD (fileStem path)
    printed pretty (referencesValue (scanSource path name sourceCode))

variable {m : Type → Type} [Monad m]

/-- The network of a configuration: explorers with a cache, and the endpoints of the chains.  What
it takes to answer is not measured. -/
def networkOf (access : Explorer.Access m) : Network (StateT Explorer.Cache m) where
  lookup address chain := return ⟨0, ← Explorer.lookup access address chain⟩
  call chain target method arguments := do
    return ⟨0, ← liftM (Rpc.callAddress access.send access.config chain target method arguments)⟩

/-- **The command that resolves a contract.**  An unknown chain is reported before anything is
fetched. -/
def resolve (around : Surroundings m) (config : Config) (address chain : String) (pretty : Bool) :
    m Outcome := do
  match config.chain chain with
  | .error failure => return .failed failure
  | .ok _ =>
    let net := networkOf ⟨config, around.environment?, around.send⟩
    let (files, _) ← (addressesByPath net config.options address chain).run .empty
    match files with
    | .error failure => return .failed failure
    | .ok files => return printed pretty (filesValue files)

/-- The configuration of a file, or the standard one. -/
def configOf (around : Surroundings m) : Option String → m (Except Failure Config)
  | none => return .ok .standard
  | some path => return Config.ofFile path (← around.readFile path)

/-- **What the program does.** -/
def run (around : Surroundings m) (arguments : List String) : m Outcome := do
  match Command.ofArguments? arguments with
  | none => return .usage
  | some (.scan path contractName pretty) =>
    return scan path contractName pretty (← around.readFile path)
  | some (.resolve address chain config pretty) =>
    match ← configOf around config with
    | .error failure => return .failed failure
    | .ok config => resolve around config address chain pretty

end AddressTrace.CommandLine
