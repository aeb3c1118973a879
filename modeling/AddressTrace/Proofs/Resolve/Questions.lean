import AddressTrace.Proofs.Abi.Interface
import AddressTrace.Proofs.Network.Logged
import AddressTrace.Proofs.Resolve.Interleaved

/-!
# What an analysis asks

An analysis asks for what it needs and for nothing else.  A source that does not parse needs
nothing.  For any other one the libraries of the contract are loaded, the interfaces of the directly
linked ones are looked up, and then each pending reference has its contract looked up, and is called
if the lookup told in time what to call.  The world may change with each question, so what is asked
is read off a log that has the answers as well.

## Main definitions

* `CallRequest.Asks` — what is asked for a request, and what is answered;
* `exchanges` — what is asked and answered while requests are under way at one time.

## Main statements

* `CallRequest.asks_or` — the answer to the lookup decides whether there is a call;
* `asks_log_deferredAddress`, `asks_exchanges` — what a request asks for, on its own and among
  others;
* `analyse_asks` — what an analysis asks for.
-/

namespace AddressTrace

open Abi

variable {chain : String} {limit : Nat}

/-! ### Requests -/

/-- **What is asked for a request**, and what is answered: one lookup of its contract, and one call
if the lookup ended in time with an interface that has an overload for it. -/
inductive CallRequest.Asks (chain : String) (limit : Nat) (request : CallRequest) :
    List Exchange → Prop
  /-- The lookup ended in time, which is before the limit or at once, and the overload that it told
  is called. -/
  | called {found : Reply (List ContractRecord)} {records : List ContractRecord} {i : Interface}
      {method : Method} (reply : Reply String) (intime : found.delay = 0 ∨ found.delay < limit)
      (outcome_eq : found.outcome = .ok records) (interface_eq : interfaceOf records = .ok (some i))
      (method_eq : i.addressMethod? request.function = some method)
      (overload : i.IsAddressOverload request.function method) :
      Asks chain limit request [.lookup request.target chain found,
        .call chain request.target method request.arguments reply]
  /-- The lookup did not end in time. -/
  | late {found : Reply (List ContractRecord)} (pos : 0 < found.delay)
      (late : limit ≤ found.delay) :
      Asks chain limit request [.lookup request.target chain found]
  /-- The lookup told of no overload. -/
  | without {found : Reply (List ContractRecord)}
      (without : ∀ (records : List ContractRecord) (i : Interface), found.outcome = .ok records →
        interfaceOf records = .ok (some i) →
          ∀ method, ¬ i.IsAddressOverload request.function method) :
      Asks chain limit request [.lookup request.target chain found]

/-- The overload that the answer to a lookup tells, if it tells one. -/
def Reply.method? (found : Reply (List ContractRecord)) (function : String) :
    Except Failure (Option Method) :=
  (found.outcome.bind interfaceOf).map fun i => i.bind fun i => i.addressMethod? function

theorem Reply.method?_eq_some {found : Reply (List ContractRecord)} {function : String}
    {method : Method} :
    found.method? function = .ok (some method) ↔ ∃ records i, found.outcome = .ok records ∧
      interfaceOf records = .ok (some i) ∧ i.addressMethod? function = some method := by
  rw [method?]
  constructor
  · intro h
    cases houtcome : found.outcome with
    | error failure =>
      rw [houtcome] at h
      cases h
    | ok records =>
      rw [houtcome] at h
      cases hinterface : interfaceOf records with
      | error failure =>
        simp only [Except.bind, hinterface, Except.map] at h
        cases h
      | ok i? =>
        simp only [Except.bind, hinterface, Except.map, Except.ok.injEq,
          Option.bind_eq_some_iff] at h
        obtain ⟨i, rfl, hmethod⟩ := h
        exact ⟨records, i, rfl, hinterface, hmethod⟩
  · rintro ⟨records, i, houtcome, hinterface, hmethod⟩
    simp only [houtcome, Except.bind, hinterface, Except.map, Option.bind_some, hmethod]

/-- **The answer to the lookup decides whether there is a call**: there is one exactly if it came in
time and tells an overload. -/
theorem CallRequest.asks_or (request : CallRequest) (chain : String) (limit : Nat)
    (found : Reply (List ContractRecord)) :
    ((exceeds limit found.delay = true ∨
          ∀ method, found.method? request.function ≠ .ok (some method)) ∧
        request.Asks chain limit [.lookup request.target chain found]) ∨
      exceeds limit found.delay = false ∧ ∃ method,
        found.method? request.function = .ok (some method) ∧
        ∀ reply, request.Asks chain limit [.lookup request.target chain found,
          .call chain request.target method request.arguments reply] := by
  by_cases hlate : exceeds limit found.delay
  · obtain ⟨hpos, hlimit⟩ : found.delay ≠ 0 ∧ limit ≤ found.delay := by
      simpa [exceeds] using hlate
    exact .inl ⟨.inl hlate, .late (Nat.pos_of_ne_zero hpos) hlimit⟩
  by_cases hmethod : ∃ method, found.method? request.function = .ok (some method)
  · obtain ⟨method, hmethod⟩ := hmethod
    obtain ⟨records, i, houtcome, hinterface, hoverload⟩ := Reply.method?_eq_some.1 hmethod
    have hintime : found.delay = 0 ∨ found.delay < limit := by
      simp only [exceeds, Bool.and_eq_true, bne_iff_ne, decide_eq_true_eq] at hlate
      omega
    have hkeyed := Interface.keyed_of_interfaceOf hinterface
    exact .inr ⟨by simpa using hlate, method, hmethod, fun reply => .called reply hintime houtcome
      hinterface hoverload (hkeyed.isAddressOverload hoverload)⟩
  · refine .inl ⟨.inr (not_exists.1 hmethod), .without fun records i houtcome hinterface m hm => ?_⟩
    have hkeyed := Interface.keyed_of_interfaceOf hinterface
    obtain ⟨method, hfound, -⟩ :=
      hkeyed.exists_addressMethod? (hkeyed.mem_addressFunctions.2 ⟨m, hm⟩)
    exact hmethod ⟨method, Reply.method?_eq_some.2 ⟨records, i, houtcome, hinterface, hfound⟩⟩

/-- **What a request asks for on its own.** -/
theorem asks_log_deferredAddress {σ : Type} (net : Network (StateM σ)) (chain : String)
    (request : CallRequest) (limit : Nat) (s : σ) :
    request.Asks chain limit ((deferredAddress net.logged chain request limit).log s) := by
  let found : Reply (List ContractRecord) := (net.lookup request.target chain s).1
  have hfound : (net.logged.addressMethod request.target chain request.function).value s =
    ⟨found.delay, found.method? request.function⟩ := rfl
  have hlookup : (net.logged.addressMethod request.target chain request.function).log s =
    [.lookup request.target chain found] := rfl
  rw [deferredAddress, Logged.log_bind, hfound, hlookup]
  dsimp only
  rcases request.asks_or chain limit found with
    ⟨hnone, hasks⟩ | ⟨hintime, method, hmethod, hasks⟩
  · split
    · exact hasks
    · next hintime =>
      split
      · exact hasks
      · exact hasks
      · next method hmethod => exact absurd hmethod (hnone.resolve_left hintime method)
  · rw [if_neg (by simp [hintime]), hmethod]
    dsimp only
    rw [Logged.log_bind]
    split
    · exact hasks _
    · exact hasks _

/-! ### Requests under way at one time -/

namespace Stage

/-- **What a call asks when it is its turn**, and what the world answers. -/
def exchange? (w : World) (chain : String) : Stage → Option Exchange
  | .lookingUp request => some (.lookup request.target chain (w.lookup request.target chain))
  | .calling request method _ =>
    some (.call chain request.target method request.arguments
      (w.call chain request.target method request.arguments))
  | .finished _ => none

/-- What a call asks over some turns. -/
def exchanges (chain : String) (limit : Nat) : Stage → List World → List Exchange
  | _, [] => []
  | s, w :: worlds =>
    (s.exchange? w chain).toList ++ (s.advance w chain limit).exchanges chain limit worlds

/-- A call that has ended asks nothing. -/
theorem exchanges_finished (outcome : Except Failure String) (worlds : List World) :
    (finished outcome).exchanges chain limit worlds = [] := by
  induction worlds with
  | nil => rfl
  | cons _ _ ih => exact ih

section Advance

variable {w : World} {request : CallRequest}

/-- A lookup that tells no overload in time ends the call. -/
theorem exists_advance_eq_finished
    (h : exceeds limit (w.lookup request.target chain).delay = true ∨ ∀ method,
      (w.lookup request.target chain).method? request.function ≠ .ok (some method)) :
    ∃ outcome, (lookingUp request).advance w chain limit = .finished outcome := by
  have hfound : (w.network.addressMethod request.target chain request.function).value =
    ⟨(w.lookup request.target chain).delay,
      (w.lookup request.target chain).method? request.function⟩ := rfl
  simp only [advance, hfound]
  split
  · exact ⟨_, rfl⟩
  · next hintime =>
    split
    · exact ⟨_, rfl⟩
    · exact ⟨_, rfl⟩
    · next method hmethod => exact absurd hmethod (h.resolve_left hintime method)

/-- A lookup that tells an overload in time is followed by a call of it. -/
theorem advance_eq_calling {method : Method}
    (hintime : exceeds limit (w.lookup request.target chain).delay = false)
    (hmethod : (w.lookup request.target chain).method? request.function = .ok (some method)) :
    (lookingUp request).advance w chain limit =
      .calling request method (w.lookup request.target chain).delay := by
  have hfound : (w.network.addressMethod request.target chain request.function).value =
      ⟨(w.lookup request.target chain).delay, .ok (some method)⟩ := by
    rw [← hmethod]
    rfl
  simp only [advance, hfound, hintime]
  exact if_neg (by decide)

end Advance

/-- **What a call that has ended asked for**, in the worlds that it met. -/
theorem asks_exchanges_of_finished {request : CallRequest} {worlds : List World}
    {outcome : Except Failure String}
    (h : through chain limit (.lookingUp request) worlds = .finished outcome) :
    request.Asks chain limit ((lookingUp request).exchanges chain limit worlds) := by
  cases worlds with
  | nil => cases h
  | cons first worlds =>
    let found : Reply (List ContractRecord) := first.lookup request.target chain
    show request.Asks chain limit (.lookup request.target chain found ::
      ((lookingUp request).advance first chain limit).exchanges chain limit worlds)
    rcases request.asks_or chain limit found with ⟨hnone, hasks⟩ | ⟨hintime, method, hmethod, hasks⟩
    · obtain ⟨ended, hended⟩ := exists_advance_eq_finished hnone
      rw [hended, exchanges_finished]
      exact hasks
    · rw [through, List.foldl_cons, advance_eq_calling hintime hmethod] at h
      rw [advance_eq_calling hintime hmethod]
      cases worlds with
      | nil => cases h
      | cons second worlds =>
        rw [exchanges, advance_eq rfl, exchanges_finished]
        exact hasks _

end Stage

/-- **What is asked and answered** while requests are under way at one time, each with the place of
its request. -/
def exchanges (chain : String) (limit : Nat) : List Turn → List Stage → List (Nat × Exchange)
  | [], _ => []
  | t :: turns, stages =>
    ((stages[t.index]?.bind (Stage.exchange? t.world chain)).map (t.index, ·)).toList ++
      exchanges chain limit turns (stages.modify t.index (Stage.advance t.world chain limit))

/-- What is asked for one request depends on its own turns only. -/
theorem filter_exchanges (turns : List Turn) (stages : List Stage) (i : Nat) :
    ((exchanges chain limit turns stages).filter fun e => e.1 = i).map Prod.snd =
      (stages[i]?.map fun s => s.exchanges chain limit (worldsOf i turns)).getD [] := by
  induction turns generalizing stages with
  | nil => cases stages[i]? <;> rfl
  | cons t turns ih =>
    rw [exchanges, List.filter_append, List.map_append, ih, List.getElem?_modify]
    by_cases h : t.index = i
    · subst h
      cases hstage : stages[t.index]? with
      | none => simp [worldsOf]
      | some stage =>
        cases hexchange : stage.exchange? t.world chain <;>
          simp [worldsOf, Stage.exchanges, hexchange]
    · have hothers : (((stages[t.index]?.bind (Stage.exchange? t.world chain)).map
          (t.index, ·)).toList.filter fun e => e.1 = i) = [] := by
        cases stages[t.index]?.bind (Stage.exchange? t.world chain) <;> simp [h]
      rw [hothers]
      simp [worldsOf, h]

/-- Nothing is asked for other than the requests that are under way. -/
theorem lt_length_of_mem_exchanges {turns : List Turn} {stages : List Stage} {e : Nat × Exchange}
    (h : e ∈ exchanges chain limit turns stages) : e.1 < stages.length := by
  induction turns generalizing stages with
  | nil => cases h
  | cons t turns ih =>
    rcases List.mem_append.1 h with h | h
    · simp only [Option.mem_toList, Option.map_eq_some_iff, Option.bind_eq_some_iff] at h
      obtain ⟨_, ⟨stage, hstage, -⟩, rfl⟩ := h
      exact (List.getElem?_eq_some_iff.1 hstage).1
    · exact (ih h).trans_eq (List.length_modify ..)

/-- **What a request asks for among others** is what it asks for on its own. -/
theorem asks_exchanges {queries : List CallRequest} {turns : List Turn} {i : Nat}
    {request : CallRequest} {outcome : Except Failure String}
    (hrequest : queries[i]? = some request)
    (hended : (run chain limit turns (queries.map .lookingUp))[i]? = some (.finished outcome)) :
    request.Asks chain limit (((exchanges chain limit turns (queries.map .lookingUp)).filter
      fun e => e.1 = i).map Prod.snd) := by
  simp only [getElem?_run, List.getElem?_map, hrequest, Option.map_some,
    Option.some.injEq] at hended
  rw [filter_exchanges, List.getElem?_map, hrequest]
  exact Stage.asks_exchanges_of_finished hended

/-! ### The analysis -/

/-- The libraries whose interfaces are looked up: the direct ones, if loading succeeded. -/
def listedLinks : Except Failure Libraries → List (String × String)
  | .error _ => []
  | .ok libraries => libraries.direct.toList

/-- **All that is asked are lookups** on a chain. -/
def AreLookups (chain : String) (log : List Exchange) : Prop :=
  ∀ e ∈ log, ∃ address reply, e = .lookup address chain reply

theorem AreLookups.append {log more : List Exchange} (h : AreLookups chain log)
    (hmore : AreLookups chain more) : AreLookups chain (log ++ more) :=
  List.forall_mem_append.2 ⟨h, hmore⟩

section

variable {σ : Type} (net : Network (StateM σ))

theorem areLookups_followLinks (search : Libraries.Search) (levels : Nat) (level : List String)
    (s : σ) : AreLookups chain ((followLinks net.logged chain search levels level).log s) := by
  induction levels generalizing search level s with
  | zero => cases level <;> exact List.forall_mem_nil _
  | succ levels ih =>
    cases level with
    | nil => exact List.forall_mem_nil _
    | cons address addresses =>
      rw [followLinks, Logged.log_bind]
      exact .append (Logged.forall_mem_log_mapM
        (fun a s => List.forall_mem_singleton.2 ⟨a, _, rfl⟩) _ s) (ih _ _ _)

/-- **Loading libraries asks for lookups only.** -/
theorem areLookups_loadLibraries (address : String) (maxDepth : Nat) (s : σ) :
    AreLookups chain ((loadLibraries net.logged address chain maxDepth).log s) := by
  rw [loadLibraries, Logged.log_bind]
  refine .append (List.forall_mem_singleton.2 ⟨address, _, rfl⟩) ?_
  split
  · exact List.forall_mem_nil _
  · rw [Logged.log_bind, Logged.log_pure, List.append_nil]
    exact areLookups_followLinks net _ _ _ _

theorem question_log_libraryFunctions (linkage : Linkage) (s : σ) :
    ((libraryFunctions net.logged linkage chain).log s).map Exchange.question =
      linkage.toList.map fun link => .lookup link.2 chain := by
  let one : String × String → Logged σ (Option (String × LinkedLibrary)) := fun link => do
    let reply ← net.logged.interface link.2 chain
    return linkedLibrary? link.1 link.2 reply.outcome
  obtain ⟨parts, hparts, hall⟩ := Logged.exists_log_mapM (f := one)
    (R := fun link part => part.map Exchange.question = [.lookup link.2 chain]) linkage.toList
    (fun _ _ => rfl) s
  have hlog : (libraryFunctions net.logged linkage chain).log s = parts.flatten := by
    rw [libraryFunctions, Logged.log_bind, Logged.log_pure, List.append_nil]
    exact hparts
  rw [hlog]
  clear hparts hlog
  generalize linkage.toList = links at hall
  induction hall with
  | nil => rfl
  | cons hhead _ ih => rw [List.flatten_cons, List.map_append, hhead, ih, List.map_cons]; rfl

/-- **What is asked for the libraries of a source**: what loading them asks for, and the interface
of each direct one. -/
theorem exists_log_callableLibraries (address chain : String) (maxDepth : Nat) (s : σ) :
    let loading := loadLibraries net.logged address chain maxDepth
    ∃ listing, (callableLibraries net.logged address chain maxDepth).log s =
        loading.log s ++ listing ∧
      listing.map Exchange.question =
        (listedLinks (loading.value s)).map fun link => .lookup link.2 chain := by
  intro loading
  rw [callableLibraries, Logged.log_bind]
  refine ⟨_, rfl, ?_⟩
  change List.map _ (Logged.log (match loading.value s with | .error _ => _ | .ok _ => _) _) = _
  cases loading.value s with
  | error failure => rfl
  | ok libraries =>
    dsimp only
    rw [Logged.log_bind, Logged.log_pure, List.append_nil]
    exact question_log_libraryFunctions net libraries.direct _

end

/-- **An analysis asks for what it needs, and for nothing else.**

A source that does not parse needs nothing.  For any other one, whatever the world answers and
however it changes, what is asked is what loading the libraries of the contract asks for; then one
lookup for each library that the contract itself links, if loading succeeded; and then for each
request one lookup of its contract, and one call of the overload that the lookup told if it ended in
time.  If the requests are under way at one time, each that has ended has asked the same, and
nothing else was asked.  The log leaves the analysis as it is. -/
theorem analyse_asks (options : Options) (record : ContractRecord) :
    (SyntaxTree.ofSource? record.sourceCode = none →
      ∀ (σ : Type) (net : Network (StateM σ)) (s : σ),
        (analyse net.logged options record).log s = []) ∧
    ∀ tree, SyntaxTree.ofSource? record.sourceCode = some tree →
      (∀ (σ : Type) (net : Network (StateM σ)) (s : σ),
        let loading := loadLibraries net.logged record.address record.chain options.maxLibraryDepth
        let libraries := ((callableLibraries net.logged record.address record.chain
          options.maxLibraryDepth).value s).1
        ∃ listing asking,
          (analyse net.logged options record).log s =
            loading.log s ++ listing ++ asking.flatten ∧
          AreLookups record.chain (loading.log s) ∧
          listing.map Exchange.question =
            (listedLinks (loading.value s)).map (fun link => .lookup link.2 record.chain) ∧
          List.Forall₂ (CallRequest.Asks record.chain options.callTimeout)
            (requests (record.collected tree libraries).references) asking) ∧
      (∀ (σ : Type) (net : Network (StateM σ)),
        (analyse net.logged options record).unlogged = analyse net options record) ∧
      ∀ (libraries : LinkedLibraries) (turns : List Turn),
        let queries := requests (record.collected tree libraries).references
        let asked := exchanges record.chain options.callTimeout turns (queries.map .lookingUp)
        (∀ e ∈ asked, e.1 < queries.length) ∧
        ∀ (i : Nat) (request : CallRequest) (outcome : Except Failure String),
          queries[i]? = some request →
          (run record.chain options.callTimeout turns (queries.map .lookingUp))[i]? =
            some (.finished outcome) →
          request.Asks record.chain options.callTimeout
            ((asked.filter fun e => e.1 = i).map Prod.snd) := by
  refine ⟨fun hsource σ net s => ?_, fun tree hsource => ⟨fun σ net s => ?_, fun σ net =>
    Logged.unlogged_analyse net options record, fun libraries turns => ⟨fun e he => ?_, ?_⟩⟩⟩
  · simp only [analyse, hsource]
    rfl
  · intro loading
    obtain ⟨listing, hlog, hlisting⟩ := exists_log_callableLibraries net record.address record.chain
      options.maxLibraryDepth s
    obtain ⟨asking, hasking, hall⟩ := Logged.exists_log_mapM
      (requests (record.collected tree ((callableLibraries net.logged record.address record.chain
        options.maxLibraryDepth).value s).1).references)
      (fun request => asks_log_deferredAddress net record.chain request options.callTimeout)
      ((callableLibraries net.logged record.address record.chain options.maxLibraryDepth).state s)
    refine ⟨listing, asking, ?_, areLookups_loadLibraries net _ _ s, hlisting, hall⟩
    rw [analyse_eq net.logged options hsource, Logged.log_bind, hlog]
    dsimp only
    rw [Logged.log_bind, hasking, Logged.log_pure, List.append_nil]
  · exact (lt_length_of_mem_exchanges he).trans_eq (List.length_map ..)
  · exact fun i request outcome hrequest hended => asks_exchanges hrequest hended

/-- A world in which each contract has the interface of `hWorld`, and each lookup takes longer than
the one before. -/
def slowing : Network (StateM Nat) where
  lookup address chain := fun n => (⟨n, (hWorld.lookup address chain).outcome⟩, n + 1)
  call chain target method arguments := fun n => (hWorld.call chain target method arguments, n)

/-- The lookup for the first request ends in time but tells no overload, and the one for the second
request tells one: there are three lookups and a call. -/
theorem analyse_asks_twoCalls :
    let options : Options := ⟨10, 8⟩
    let target := "0x1111111111111111111111111111111111111111"
    let log := (analyse slowing.logged options twoCalls).log 0
    ∃ own first second, log = own ++ first ++ second ∧ log.length = 4 ∧
      AreLookups "eth" own ∧
      CallRequest.Asks "eth" 10 ⟨target, "g", []⟩ first ∧
      CallRequest.Asks "eth" 10 ⟨target, "h", []⟩ second := by
  intro options target log
  let loading :=
    loadLibraries slowing.logged twoCalls.address twoCalls.chain options.maxLibraryDepth
  have hfacts : ∃ tree ∈ SyntaxTree.ofSource? twoCalls.sourceCode,
      requests (twoCalls.collected tree ((callableLibraries slowing.logged twoCalls.address
        twoCalls.chain 8).value 0).1).references =
          [⟨target, "g", []⟩, ⟨target, "h", []⟩] := by
    decide +kernel
  obtain ⟨tree, htree, hrequests⟩ := hfacts
  have hlinks : listedLinks (loading.value 0) = [] := by
    decide +kernel
  have hlength : log.length = 4 := by
    decide +kernel
  obtain ⟨-, hparsed⟩ := analyse_asks options twoCalls
  obtain ⟨hasks, -⟩ := hparsed tree htree
  obtain ⟨listing, asking, hlog, hown, hlisting, hall⟩ := hasks Nat slowing 0
  rw [hlinks] at hlisting
  rw [hrequests] at hall
  obtain rfl := List.map_eq_nil_iff.1 hlisting
  obtain ⟨first, rest, hfirst, hrest, rfl⟩ := List.forall₂_cons_left_iff.1 hall
  obtain ⟨second, rest, hsecond, hnil, rfl⟩ := List.forall₂_cons_left_iff.1 hrest
  obtain rfl := List.forall₂_nil_left_iff.1 hnil
  refine ⟨loading.log 0, first, second, hlog.trans ?_, hlength, hown, hfirst, hsecond⟩
  simp [loading]

end AddressTrace
