import Mathlib.Data.Set.List
import AddressTrace.Proofs.Network.Traced
import AddressTrace.Proofs.Resolve.Accounting

/-!
# Calls under way at one time

The calls that references wait for are made at one time.  Each asks for the interface of its
contract and then makes its call; which of them is answered next is open, and so is what it is
answered, for the world may have changed since.  Yet each comes to the outcome that it has on its
own, with the answers that were given to it, so the order in which the calls end does not matter.

## Main definitions

* `Stage`, `Stage.advance` — how far a call has come, and what an answer makes of it;
* `Turn`, `run` — who is answered next in which world, and what comes of some turns;
* `worldsOf`, `heard` — the worlds that one call met, as the one world that it heard.

## Main statements

* `Stage.conclude_advance` — an answer does not change what a call is coming to;
* `getElem?_run` — a call is moved by its own turns only;
* `run_finished`, `exists_run_finished` — what the calls come to, and that two turns each are
  enough;
* `analyse_accounts` — every reference is accounted for, in whatever order the calls end.
-/

namespace AddressTrace

variable {chain : String} {limit : Nat} {queries : List CallRequest}
  {outcomes : List (Except Failure String)}

/-! ### One call -/

/-- **How far a call has come.** -/
inductive Stage
  /-- The interface of the contract is being looked up. -/
  | lookingUp (request : CallRequest)
  /-- An overload was found after `elapsed`, and is being called. -/
  | calling (request : CallRequest) (method : Abi.Method) (elapsed : Nat)
  | finished (outcome : Except Failure String)

namespace Stage

/-- **What the answer to its question makes of a call.**  The question is answered by the world as
it is at that moment. -/
def advance (w : World) (chain : String) (limit : Nat) : Stage → Stage
  | .lookingUp request =>
    let found := (w.network.addressMethod request.target chain request.function).value
    if exceeds limit found.delay then .finished (.error request.timeout)
    else
      match found.outcome with
      | .error failure => .finished (.error failure)
      | .ok none => .finished (.error (request.notFound chain))
      | .ok (some method) => .calling request method found.delay
  | .calling request method elapsed =>
    let called := w.call chain request.target method request.arguments
    if exceeds limit (elapsed + called.delay) then .finished (.error request.timeout)
    else .finished called.outcome
  | .finished outcome => .finished outcome

/-- Is the interface still being looked up? -/
def isLookingUp : Stage → Bool
  | .lookingUp _ => true
  | _ => false

/-- **What a call comes to** if the world stays as it is. -/
def conclude (w : World) (chain : String) (limit : Nat) : Stage → Except Failure String
  | .lookingUp request => (deferredAddress w.network chain request limit).value
  | .calling request method elapsed =>
    let called := w.call chain request.target method request.arguments
    if exceeds limit (elapsed + called.delay) then .error request.timeout else called.outcome
  | .finished outcome => outcome

/-- **What some answers make of a call**, one after the other. -/
def through (chain : String) (limit : Nat) (s : Stage) (worlds : List World) : Stage :=
  worlds.foldl (fun s w => s.advance w chain limit) s

/-- **An answer does not change what a call is coming to**, even if the world changes after it: the
lookup is answered by the first world and the call by the second. -/
theorem conclude_advance (first second : World) (request : CallRequest) :
    ((lookingUp request).advance first chain limit).conclude second chain limit =
      (deferredAddress (World.network ⟨first.lookup, second.call⟩) chain request limit).value := by
  have hlookup : (World.network ⟨first.lookup, second.call⟩).addressMethod request.target chain
      request.function = first.network.addressMethod request.target chain request.function := rfl
  simp only [advance, deferredAddress, Traced.value_bind, hlookup]
  generalize (first.network.addressMethod request.target chain request.function).value = found
  obtain ⟨elapsed, failure | _ | method⟩ := found
  · split <;> rfl
  · split <;> rfl
  · split
    · rfl
    · let called := second.call chain request.target method request.arguments
      show (if exceeds limit (elapsed + called.delay) then _ else _) =
        Traced.value (if exceeds limit (elapsed + called.delay) then _ else _)
      rw [apply_ite Traced.value]
      rfl

/-- An answer ends the lookup. -/
theorem isLookingUp_advance (w : World) (s : Stage) :
    (s.advance w chain limit).isLookingUp = false := by
  fun_cases advance w chain limit s <;> rfl

/-- A call whose interface was looked up is finished by its next answer. -/
theorem advance_eq {s : Stage} (h : s.isLookingUp = false) (w : World) :
    s.advance w chain limit = .finished (s.conclude w chain limit) := by
  cases s with
  | lookingUp request => cases h
  | calling request method elapsed =>
    rw [advance, conclude]
    split <;> rfl
  | finished outcome => rfl

/-- A call that has ended is not moved any more. -/
theorem through_finished (outcome : Except Failure String) (worlds : List World) :
    through chain limit (.finished outcome) worlds = .finished outcome := by
  induction worlds with
  | nil => rfl
  | cons _ _ ih => exact ih

/-- Two answers end a call, with the outcome that it was coming to. -/
theorem through_lookingUp (first second : World) (request : CallRequest) (worlds : List World) :
    through chain limit (.lookingUp request) (first :: second :: worlds) = .finished
      (deferredAddress (World.network ⟨first.lookup, second.call⟩) chain request limit).value := by
  show through chain limit (((lookingUp request).advance first chain limit).advance second chain
    limit) worlds = _
  rw [advance_eq (isLookingUp_advance first _), through_finished, conclude_advance]

end Stage

/-- **The world that a call heard**, of the worlds that it met: its lookup was answered by the first
and its call by the second.  What it did not ask is answered by `w`. -/
def heard (w : World) : List World → World
  | [] => w
  | [first] => ⟨first.lookup, w.call⟩
  | first :: second :: _ => ⟨first.lookup, second.call⟩

/-- **A call that has ended has the outcome that it has on its own**, in the world that it heard. -/
theorem Stage.outcome_eq {request : CallRequest} {worlds : List World}
    {outcome : Except Failure String}
    (h : through chain limit (.lookingUp request) worlds = .finished outcome) (w : World) :
    outcome = (deferredAddress (heard w worlds).network chain request limit).value := by
  match worlds, h with
  | [first], h =>
    have hended : (lookingUp request).advance first chain limit = .finished outcome := h
    rw [heard, ← conclude_advance first w, hended]
    rfl
  | first :: second :: worlds, h =>
    rw [through_lookingUp] at h
    exact (finished.inj h).symm

/-! ### All calls -/

/-- **A turn**: which call is answered next, and the world at that moment. -/
structure Turn where
  index : Nat
  world : World

variable {turns : List Turn}

/-- **What some turns make of calls** that are under way at one time. -/
def run (chain : String) (limit : Nat) (turns : List Turn) (stages : List Stage) : List Stage :=
  turns.foldl (fun stages t => stages.modify t.index (Stage.advance t.world chain limit)) stages

/-- The worlds that one of the calls met, in the order of its turns. -/
def worldsOf (i : Nat) (turns : List Turn) : List World :=
  (turns.filter fun t => t.index = i).map Turn.world

/-- **A call is moved by its own turns only.** -/
theorem getElem?_run (chain : String) (limit : Nat) (turns : List Turn) (stages : List Stage)
    (i : Nat) :
    (run chain limit turns stages)[i]? =
      stages[i]?.map fun s => s.through chain limit (worldsOf i turns) := by
  induction turns generalizing stages with
  | nil => simp [run, worldsOf, Stage.through]
  | cons t turns ih =>
    show (run chain limit turns (stages.modify t.index _))[i]? = _
    rw [ih, List.getElem?_modify]
    by_cases h : t.index = i
    · simp [worldsOf, Stage.through, h, Function.comp_def]
    · simp [worldsOf, h]

@[simp] theorem length_run (stages : List Stage) :
    (run chain limit turns stages).length = stages.length := by
  induction turns generalizing stages with
  | nil => rfl
  | cons t turns ih => exact (ih _).trans (List.length_modify ..)

/-- **Calls that have all ended have the outcomes that they have on their own**, each in the world
that it heard. -/
theorem run_finished
    (h : run chain limit turns (queries.map .lookingUp) = outcomes.map .finished) :
    outcomes.length = queries.length ∧
      ∀ (w : World) (i : Nat) (request : CallRequest), queries[i]? = some request →
        outcomes[i]? = some
          (deferredAddress (heard w (worldsOf i turns)).network chain request limit).value := by
  constructor
  · simpa using (congrArg List.length h).symm
  · intro w i request hrequest
    have hstage := congrArg (·[i]?) h
    simp only [getElem?_run, List.getElem?_map, hrequest, Option.map_some] at hstage
    obtain ⟨outcome, houtcome, hended⟩ := Option.map_eq_some_iff.mp hstage.symm
    rw [houtcome, Stage.outcome_eq hended.symm w]

/-- **Two turns each are enough** for all calls to end. -/
theorem exists_run_finished (h : ∀ i < queries.length, 2 ≤ (worldsOf i turns).length) :
    ∃ outcomes : List (Except Failure String),
      run chain limit turns (queries.map .lookingUp) = outcomes.map .finished := by
  have hended : ∀ s ∈ run chain limit turns (queries.map .lookingUp),
      s ∈ Set.range Stage.finished := by
    intro s hs
    obtain ⟨i, hi⟩ := List.mem_iff_getElem?.mp hs
    simp only [getElem?_run, List.getElem?_map, Option.map_map, Option.map_eq_some_iff] at hi
    obtain ⟨request, hrequest, rfl⟩ := hi
    have htwo := h i (List.getElem?_eq_some_iff.mp hrequest).1
    match hworlds : worldsOf i turns, htwo with
    | first :: second :: worlds, _ =>
      simp only [Function.comp_apply, Stage.through_lookingUp]
      exact Set.mem_range_self _
  have hrange : run chain limit turns (queries.map .lookingUp) ∈
      Set.range (List.map Stage.finished) := by
    rw [Set.range_list_map]
    exact hended
  obtain ⟨outcomes, houtcomes⟩ := hrange
  exact ⟨outcomes, houtcomes.symm⟩

/-! ### The analysis -/

/-- Asking something for each element of a list gives one answer for each. -/
theorem length_mapM_stateM {σ α β : Type} (f : α → StateM σ β) (l : List α) (s : σ) :
    (l.mapM f s).1.length = l.length := by
  induction l generalizing s with
  | nil => rfl
  | cons a l ih =>
    rw [List.mapM_cons]
    exact congrArg (· + 1) (ih (f a s).2)

/-- **Every reference is accounted for**, in whatever order the calls end.

An analysis asks for the requests of the references that it found, in any monad, and is assembled
from what was found and from the outcomes.  In a network that changes with each question it accounts
for each reference, with the outcomes that the requests had there.  If the requests are asked for at
one time, it does so once all of them have ended, and the outcome at each place is that of the
request at this place, asked for on its own in the world that it heard; and all of them end. -/
theorem analyse_accounts (options : Options) {record : ContractRecord} {tree : SyntaxTree}
    (hsource : SyntaxTree.ofSource? record.sourceCode = some tree) :
    (∀ (m : Type → Type) [Monad m] [LawfulMonad m] (net : Network m),
      analyse net options record = do
        let (libraries, failed) ←
          callableLibraries net record.address record.chain options.maxLibraryDepth
        let found := record.collected tree libraries
        let outcomes ← (requests found.references).mapM
          (deferredAddress net record.chain · options.callTimeout)
        return .assemble found failed outcomes) ∧
    (∀ (σ : Type) (net : Network (StateM σ)) (s : σ),
      let loaded := callableLibraries net record.address record.chain options.maxLibraryDepth s
      let found := record.collected tree loaded.1.1
      let asked := (requests found.references).mapM
        (deferredAddress net record.chain · options.callTimeout) loaded.2
      Accounts found asked.1 (analyse net options record s).1) ∧
    ∀ (libraries : LinkedLibraries) (failed : Nat) (turns : List Turn),
      let found := record.collected tree libraries
      let queries := requests found.references
      (∀ outcomes : List (Except Failure String),
        run record.chain options.callTimeout turns (queries.map .lookingUp) =
            outcomes.map .finished →
          Accounts found outcomes (.assemble found failed outcomes) ∧
          ∀ (w : World) (i : Nat) (request : CallRequest), queries[i]? = some request →
            outcomes[i]? = some (deferredAddress (heard w (worldsOf i turns)).network record.chain
              request options.callTimeout).value) ∧
      ((∀ i < queries.length, 2 ≤ (worldsOf i turns).length) →
        ∃ outcomes : List (Except Failure String),
          run record.chain options.callTimeout turns (queries.map .lookingUp) =
            outcomes.map .finished) := by
  refine ⟨fun m _ _ net => analyse_eq net options hsource, fun σ net s => ?_,
    fun libraries failed turns => ⟨fun outcomes hended => ?_, exists_run_finished⟩⟩
  · intro loaded found asked
    rw [analyse_eq net options hsource]
    exact accounts_assemble found loaded.1.2 (length_mapM_stateM _ _ _)
  · obtain ⟨hlength, hown⟩ := run_finished hended
    exact ⟨accounts_assemble _ failed hlength, hown⟩

/-- A contract that calls two functions of another one. -/
def twoCalls : ContractRecord where
  address := "0x9999999999999999999999999999999999999999"
  chain := "eth"
  path := "/c.sol"
  name := "c"
  sourceCode := "contract c \x7b function f() public \x7b " ++
    "address a = 0x1111111111111111111111111111111111111111; i(a).g(); i(a).h(); \x7d \x7d"
  library := ""
  abi := none

/-- The interface of the other contract, which has only one of the functions. -/
def hInterface : String :=
  "[\x7b\"type\":\"function\",\"name\":\"h\",\"inputs\":[],\"outputs\":[\x7b\"name\":\"\"," ++
    "\"type\":\"address\"\x7d],\"stateMutability\":\"view\"\x7d]"

/-- A world in which each contract has this interface. -/
def hWorld : World where
  lookup _ _ := ⟨5, .ok [{ twoCalls with abi := some hInterface }]⟩
  call _ _ _ _ := ⟨7, .ok "0x2222222222222222222222222222222222222222"⟩

/-- The second call ends before the first one, and yet the first one has the first outcome. -/
theorem analyse_accounts_twoCalls :
    ∃ tree, SyntaxTree.ofSource? twoCalls.sourceCode = some tree ∧
      let found := twoCalls.collected tree .empty
      ∃ outcomes : List (Except Failure String),
        run "eth" 5000 [⟨1, hWorld⟩, ⟨1, hWorld⟩, ⟨0, hWorld⟩, ⟨0, hWorld⟩]
          ((requests found.references).map .lookingUp) = outcomes.map .finished ∧
        outcomes[0]? = some (.error (.functionNotFound
          "0x1111111111111111111111111111111111111111" "eth" "g")) ∧
        outcomes[1]? = some (.ok "0x2222222222222222222222222222222222222222") ∧
        Accounts found outcomes (.assemble found 0 outcomes) := by
  have hsource : ∃ tree ∈ SyntaxTree.ofSource? twoCalls.sourceCode,
      requests (twoCalls.collected tree .empty).references =
        [⟨"0x1111111111111111111111111111111111111111", "g", []⟩,
          ⟨"0x1111111111111111111111111111111111111111", "h", []⟩] := by
    decide +kernel
  obtain ⟨tree, htree, hrequests⟩ := hsource
  obtain ⟨-, -, hturns⟩ := analyse_accounts .standard htree
  obtain ⟨hown, hends⟩ := hturns .empty 0 [⟨1, hWorld⟩, ⟨1, hWorld⟩, ⟨0, hWorld⟩, ⟨0, hWorld⟩]
  rw [hrequests] at hown hends
  obtain ⟨outcomes, houtcomes⟩ := hends (by decide)
  obtain ⟨haccounts, houtcome⟩ := hown outcomes houtcomes
  have hg := houtcome hWorld 0 _ rfl
  have hh := houtcome hWorld 1 _ rfl
  refine ⟨tree, htree, outcomes, ?_, hg.trans ?_, hh.trans ?_, haccounts⟩
  · rw [hrequests]
    exact houtcomes
  · decide +kernel
  · decide +kernel

end AddressTrace
