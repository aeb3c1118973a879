import AddressTrace.Data.SortedMap
import AddressTrace.Failure
import AddressTrace.Resolve.Options
import AddressTrace.Toml.Fields
import AddressTrace.Toml.Reader

/-!
# Configuration

The chains that can be asked, and the limits of an analysis.  A configuration file adds chains to
those that are known anyway, or replaces them.

## Main definitions

* `Chain`, `Config` — a chain, and a configuration;
* `Config.standard` — the configuration without a file;
* `Config.ofToml`, `Config.ofFile` — the configuration of a text or a file;
* `Config.chain` — the chain of a name.
-/

namespace AddressTrace

open Toml

/-- **The interfaces that explorers have.** -/
inductive ExplorerKind
  | etherscan
  | blockscout
deriving Repr, DecidableEq

/-- The word for a kind of explorer. -/
def ExplorerKind.word : ExplorerKind → String
  | .etherscan => "etherscan"
  | .blockscout => "blockscout"

/-- The kind of explorer that a word stands for. -/
def ExplorerKind.ofWord? (word : String) : Option ExplorerKind :=
  [etherscan, blockscout].find? fun kind => kind.word == word

/-- **A chain** and where to ask about it. -/
structure Chain where
  /-- The endpoint that calls are sent to. -/
  rpc : String
  explorer : String
  kind : ExplorerKind
  /-- The environment variable that holds the key of the explorer. -/
  apiKeyVariable : Option String
deriving Repr, DecidableEq

/-- **A configuration.** -/
structure Config where
  options : Options
  chains : SortedMap String Chain
deriving Repr, DecidableEq

namespace Config

/-- The chains that are known without a file. -/
def standardChains : SortedMap String Chain :=
  .ofList [
    ("ethereum", ⟨"https://cloudflare-eth.com", "https://api.etherscan.io", .etherscan,
      some "ETHERSCAN_API_KEY"⟩),
    ("goerli-ethereum", ⟨"https://rpc.ankr.com/eth_goerli", "https://api-goerli.etherscan.io",
      .etherscan, some "ETHERSCAN_API_KEY"⟩),
    ("sepolia-ethereum", ⟨"https://rpc.sepolia.org", "https://api-sepolia.etherscan.io",
      .etherscan, some "ETHERSCAN_API_KEY"⟩),
    ("optimism", ⟨"https://mainnet.optimism.io", "https://api-optimistic.etherscan.io",
      .etherscan, some "ETHERSCAN_API_KEY_OPTIMISM"⟩),
    ("goerli-optimism", ⟨"https://goerli.optimism.io",
      "https://api-goerli-optimistic.etherscan.io", .etherscan,
      some "ETHERSCAN_API_KEY_OPTIMISM"⟩),
    ("mode", ⟨"https://sepolia.mode.network",
      "https://sepolia.explorer.mode.network/api/v2/smart-contracts", .blockscout, none⟩)]

/-- **The configuration without a file.** -/
def standard : Config := ⟨.standard, standardChains⟩

/-! ### Reading -/

/-- A field that may be missing. -/
def orElse {α : Type} (default : α) (read : Item → Option α) : Option Item → Option α
  | none => some default
  | some item => read item

/-- The limits that an item sets; those that it does not set stay as they are. -/
def options? (item : Item) : Option Options := do
  match ← item.fields? ["call-timeout-ms", "max-library-depth"] with
  | [timeout, depth] =>
    return {
      callTimeout := ← orElse Options.standard.callTimeout Item.natural? timeout
      maxLibraryDepth := ← orElse Options.standard.maxLibraryDepth Item.natural? depth }
  | _ => none

/-- The chain that an item describes; only the variable of the key may be missing. -/
def chain? (item : Item) : Option Chain := do
  match ← item.fields? ["rpc", "explorer", "explorer-kind", "api-key-env"] with
  | [rpc, explorer, kind, keyVariable] =>
    return {
      rpc := ← (← rpc).text?
      explorer := ← (← explorer).text?
      kind := ← ExplorerKind.ofWord? (← (← kind).alternative?)
      apiKeyVariable := ← orElse none (fun item => item.text?.map some) keyVariable }
  | _ => none

/-- The chains that an item describes, by name. -/
def chains? : Item → Option (SortedMap String Chain)
  | .table _ entries => do
    let chains ← entries.mapM fun (name, item) => return (name, ← chain? item)
    return .ofList chains
  | _ => none

/-- The configuration of a document, laid over the chains that are known without it. -/
def ofEntries? (entries : Entries) : Option Config := do
  let options ← orElse .standard options? (entries.lookup "resolver")
  let chains ← orElse .empty chains? (entries.lookup "chains")
  return ⟨options, standardChains.override chains⟩

/-- **The configuration of a text.** -/
def ofToml (text : String) : Except Failure Config :=
  match (parse? text).bind ofEntries? with
  | some config => .ok config
  | none => .error (.config .malformed)

/-- **The configuration of a file**, given what reading it brought. -/
def ofFile (path : String) : Except FileProblem String → Except Failure Config
  | .ok text => ofToml text
  | .error cause => .error (.config (.unreadable path cause))

/-- **The chain of a name.** -/
def chain (config : Config) (name : String) : Except Failure Chain :=
  match config.chains.find? name with
  | some c => .ok c
  | none => .error (.unknownChain name)

end Config

end AddressTrace
