import AddressTrace.Proofs.Abi.Interface
import AddressTrace.Proofs.Network.Ensures
import AddressTrace.Proofs.Resolve.Isolation
import AddressTrace.Proofs.Tree.Sources

/-!
# Calls by the name of a library

A source calls a library by its name, and which functions of it return an address is asked twice:
once for all names when the libraries of the contract are listed, and once for the one name when the
call is made.  Where a repeated lookup is answered alike, the second answer bears out the first one,
so that a call that was found for its listed name is always made.

## Main definitions

* `NamedCall` — a call of a function by the name of a library;
* `NamedCall.Gives`, `NamedCall.Asks` — a reference is found for it, and what it asks for;
* `callOnce`, `CallRequest.AnsweredBy` — one lookup, and one call of a method behind it.

## Main statements

* `Network.AnswersAs.ensures_callableLibraries` — which libraries an analysis loads;
* `Network.AnswersAs.exists_answeredBy` — a request for a listed function is one call;
* `NamedCall.Gives.exists_asks`, `NamedCall.CanBeMade.exists_gives` — what is found asks for what
  the call names, and what can be made is found;
* `ensures_calls_by_name` — what is found is called, and what can be called is found.
-/

namespace AddressTrace

open Abi SyntaxTree

section

variable {m : Type → Type} [Monad m]

/-- **One call of a method**, behind one lookup of its contract, within a limit of time. -/
def callOnce (net : Network m) (chain : String) (request : CallRequest) (method : Method)
    (limit : Nat) : m (Except Failure String) := do
  let found ← net.lookup request.target chain
  if exceeds limit found.delay then return .error request.timeout
  else
    let called ← net.call chain request.target method request.arguments
    if exceeds limit (found.delay + called.delay) then return .error request.timeout
    else return called.outcome

/-- Is the outcome that there is no such function? -/
def SaysNotFound (outcome : Except Failure String) : Prop :=
  ∃ address chain function, outcome = .error (.functionNotFound address chain function)

/-- **A request is answered by one call** of a method, whatever the limit of time.  That there is no
such function is not among the outcomes, unless whoever makes the call says so. -/
structure CallRequest.AnsweredBy (net : Network m) (chain : String) (request : CallRequest)
    (method : Method) : Prop where
  once : ∀ limit, deferredAddress net chain request limit = callOnce net chain request method limit
  found : Ensures (fun reply => ¬ SaysNotFound reply.outcome)
      (net.call chain request.target method request.arguments) →
    ∀ limit, Ensures (fun outcome => ¬ SaysNotFound outcome)
      (deferredAddress net chain request limit)

variable [LawfulMonad m]

/-- **One call says that there is no such function only if whoever makes the call says so.** -/
theorem ensures_callOnce {net : Network m} {chain : String} {request : CallRequest}
    {method : Method} {limit : Nat}
    (h : Ensures (fun reply => ¬ SaysNotFound reply.outcome)
      (net.call chain request.target method request.arguments)) :
    Ensures (fun outcome => ¬ SaysNotFound outcome) (callOnce net chain request method limit) := by
  have htimeout : ¬ SaysNotFound (.error request.timeout) := by
    rintro ⟨_, _, _, heq⟩
    cases heq
  refine .bind fun found => ?_
  split
  · exact .pure htimeout
  · refine h.then fun called hcalled => ?_
    split
    · exact .pure htimeout
    · exact .pure hcalled

/-- **A request whose contract has an overload for it is one call** of this overload. -/
theorem deferredAddress_eq_callOnce {net : Network m} {chain : String} {request : CallRequest}
    {i : Interface} {method : Method}
    (hinterface : Ensures (fun reply => reply.outcome.bind interfaceOf = .ok (some i))
      (net.lookup request.target chain))
    (hmethod : i.addressMethod? request.function = some method) (limit : Nat) :
    deferredAddress net chain request limit = callOnce net chain request method limit := by
  simp only [deferredAddress, Network.addressMethod, Network.interface, bind_assoc, pure_bind,
    callOnce]
  refine hinterface.bind_eq_bind fun reply hreply => ?_
  have hfound : (reply.outcome.bind interfaceOf).map
      (fun i => i.bind fun i => i.addressMethod? request.function) = .ok (some method) := by
    rw [hreply, ← hmethod]
    rfl
  rw [hfound]

/-- Where it is made in time, one call is one question behind the lookup. -/
theorem World.questions_callOnce {w : World} {chain : String} {request : CallRequest}
    {method : Method} {limit : Nat}
    (hintime : exceeds limit (w.lookup request.target chain).delay = false) :
    (callOnce w.network chain request method limit).questions =
      [.lookup request.target chain, .call chain request.target method request.arguments] := by
  simp only [callOnce, World.network, Traced.ask, Traced.questions_bind, hintime]
  simp only [Bool.false_eq_true, if_false, Traced.questions_bind]
  split <;> rfl

/-! ### Loading and asking again -/

/-- The interface that a world tells has each overload under its name. -/
theorem World.keyed_of_interfaceOutcome {w : World} {chain address : String} {i : Interface}
    (h : w.interfaceOutcome chain address = .ok (some i)) : i.Keyed := by
  rw [interfaceOutcome] at h
  cases hlookup : (w.lookup address chain).outcome with
  | error failure =>
    rw [hlookup] at h
    cases h
  | ok records =>
    rw [hlookup] at h
    exact Interface.keyed_of_interfaceOf h

namespace Network.AnswersAs

variable {net : Network m} {w : World}

theorem ensures_interface (h : net.AnswersAs w) (address chain : String) :
    Ensures (fun reply => reply.outcome = w.interfaceOutcome chain address)
      (net.interface address chain) :=
  (h address chain).then fun reply hreply => .pure (by rw [hreply]; rfl)

/-- The functions that are listed are those of the interfaces that can be read. -/
theorem ensures_libraryFunctions (h : net.AnswersAs w) (direct : Linkage) (chain : String) :
    Ensures (· = .ofList (direct.toList.filterMap fun link =>
        linkedLibrary? link.1 link.2 (w.interfaceOutcome chain link.2)))
      (libraryFunctions net direct chain) := by
  have hone : ∀ link : String × String,
      Ensures (linkedLibrary? link.1 link.2 (w.interfaceOutcome chain link.2) = ·) (do
        let reply ← net.interface link.2 chain
        return linkedLibrary? link.1 link.2 reply.outcome) := fun link =>
    (h.ensures_interface link.2 chain).then fun reply hreply => .pure (by rw [hreply])
  refine (Ensures.mapM_eq fun link _ => hone link).then fun found hfound => .pure ?_
  rw [← hfound, List.filterMap_map]
  rfl

/-- **The libraries that an analysis loads** are those of a world that answers alike. -/
theorem ensures_callableLibraries (h : net.AnswersAs w) (options : Options)
    (record : ContractRecord) :
    Ensures (fun loaded => loaded.1 = w.libraries options record)
      (callableLibraries net record.address record.chain options.maxLibraryDepth) := by
  rw [World.libraries_eq, World.links, World.links?]
  refine (h.ensures_loadLibraries _ _ _).then fun loaded hloaded => ?_
  rw [← hloaded]
  cases loaded with
  | error failure => exact .pure rfl
  | ok libraries =>
    exact (h.ensures_libraryFunctions libraries.direct record.chain).then
      fun found hfound => .pure hfound

/-- Looking up the interface again finds the overload again, and it is called. -/
theorem deferredAddress_eq (h : net.AnswersAs w) {chain : String} {request : CallRequest}
    {i : Interface} {method : Method}
    (hinterface : w.interfaceOutcome chain request.target = .ok (some i))
    (hmethod : i.addressMethod? request.function = some method) (limit : Nat) :
    deferredAddress net chain request limit = callOnce net chain request method limit := by
  -- The lookup is repeated, and its outcome is the one from which the functions were listed.
  refine deferredAddress_eq_callOnce ((h request.target chain).imp fun reply hreply => ?_) hmethod
    limit
  rw [hreply]
  exact hinterface

/-- **A request for a function that was listed is answered by one call** of an overload that returns
exactly one address. -/
theorem exists_answeredBy (h : net.AnswersAs w) {chain : String} {request : CallRequest}
    {i : Interface} (hinterface : w.interfaceOutcome chain request.target = .ok (some i))
    (hlisted : request.function ∈ i.addressFunctions) :
    ∃ method, i.IsAddressOverload request.function method ∧
      request.AnsweredBy net chain method := by
  obtain ⟨method, hmethod, hoverload⟩ :=
    (World.keyed_of_interfaceOutcome hinterface).exists_addressMethod? hlisted
  refine ⟨method, hoverload, h.deferredAddress_eq hinterface hmethod, fun hcall limit => ?_⟩
  rw [h.deferredAddress_eq hinterface hmethod]
  exact ensures_callOnce hcall

end Network.AnswersAs

end

/-! ### Calls by name -/

/-- **A call of a function by the name of a library**: the member that names both, the call around
it, and the arguments. -/
structure NamedCall where
  member : NodeId
  call : NodeId
  library : String
  function : String
  arguments : List NodeId

namespace NamedCall

/-- A tree has this call. -/
structure IsIn (c : NamedCall) (t : SyntaxTree) : Prop where
  member_kind : ∃ object, t.kind? c.member = some (.member object c.function) ∧
    t.kind? object = some (.identifier c.library)
  parent_eq : t.parent? c.member = some c.call
  call_kind : t.kind? c.call = some (.call c.member c.arguments)

/-- **A reference is found for a call** in the source of a record, when these libraries can be
called. -/
def Gives (c : NamedCall) (record : ContractRecord) (t : SyntaxTree) (libraries : LinkedLibraries)
    (r : Reference) : Prop :=
  ∃ f ∈ callFindings t (.ofTree t) libraries, f.node = c.member ∧
    (SourceFile.ofText record.path record.name record.sourceCode).reference? t f = some r

variable {c : NamedCall} {record : ContractRecord} {t : SyntaxTree} {libraries : LinkedLibraries}
  {r : Reference}

/-- What is found for a call is among the references of the source. -/
theorem Gives.mem_collected (h : c.Gives record t libraries r) :
    r ∈ (record.collected t libraries).references := by
  obtain ⟨f, hf, -, hr⟩ := h
  exact mem_references_collect.2 ⟨.calls, by decide, f, hf, hr⟩

/-- **A call by name is found** if its library has such a function and its arguments are known. -/
theorem gives_iff (hl : t.Linked) (hc : c.IsIn t) :
    c.Gives record t libraries r ↔
      ∃ library values, libraries.find? c.library = some library ∧
        c.function ∈ library.functions ∧
        c.arguments.mapM (argumentValue? t (.ofTree t)) = some values ∧
        (SourceFile.ofText record.path record.name record.sourceCode).reference? t
          ⟨c.member, some c.call, .pending ⟨library.address, c.function, values⟩,
            .publicFunction⟩ = some r := by
  obtain ⟨⟨object, hmember, hobject⟩, hparent, hcall⟩ := hc
  have htarget : ∀ target, callTarget? t (.ofTree t) libraries object c.function = some target ↔
      ∃ library, libraries.find? c.library = some library ∧ c.function ∈ library.functions ∧
        library.address = target := by
    intro target
    simp only [callTarget?, hobject, Option.bind_eq_some_iff, Option.ite_none_right_eq_some,
      List.contains_iff_mem, Option.some_inj]
  constructor
  · rintro ⟨f, hf, hnode, hr⟩
    obtain ⟨id, -, hf⟩ := List.mem_filterMap.1 hf
    obtain ⟨object', function, call, arguments, target, values, hkind, hparent', hcall', hcalled,
      hvalues, rfl⟩ := callFinding?_eq_some.1 hf
    obtain rfl : id = c.member := hnode
    cases hmember.symm.trans hkind
    cases hparent.symm.trans hparent'
    cases hcall.symm.trans hcall'
    obtain ⟨library, hfind, hlisted, rfl⟩ := (htarget target).1 hcalled
    exact ⟨library, values, hfind, hlisted, hvalues, hr⟩
  · rintro ⟨library, values, hfind, hlisted, hvalues, hr⟩
    refine ⟨_, List.mem_filterMap.2 ⟨c.member, hl.mem_walk.2 (lt_size_of_kind? hmember), ?_⟩, rfl,
      hr⟩
    exact callFinding?_eq_some.2 ⟨object, c.function, c.call, c.arguments, library.address, values,
      hmember, hparent, hcall, (htarget _).2 ⟨library, hfind, hlisted, rfl⟩, hvalues, rfl⟩

/-- **What a call by name asks for**: the function that it names, of the library that the contract
itself links under that name, and it is answered by one call of an overload that returns exactly one
address. -/
structure Asks {m : Type → Type} [Monad m] (c : NamedCall) (net : Network m) (w : World)
    (record : ContractRecord) (request : CallRequest) : Prop where
  function_eq : request.function = c.function
  linked : (c.library, request.target) ∈ w.links record.chain record.address
  answered : ∃ i method, w.interfaceOutcome record.chain request.target = .ok (some i) ∧
    i.IsAddressOverload c.function method ∧ request.AnsweredBy net record.chain method

/-- **A call by name can be made**: the contract itself links the library, its interface can be read
and has an overload that returns exactly one address, and the arguments are known. -/
structure CanBeMade (c : NamedCall) (w : World) (record : ContractRecord) (t : SyntaxTree)
    (target : String) (values : List String) : Prop where
  linked : (c.library, target) ∈ w.links record.chain record.address
  listed : ∃ i method, w.interfaceOutcome record.chain target = .ok (some i) ∧
    i.IsAddressOverload c.function method
  values_eq : c.arguments.mapM (argumentValue? t (.ofTree t)) = some values

section

variable {w : World} {options : Options}

/-- **What is found for a call by name asks for what the call names**, when the libraries are those
of the contract in a world that answers alike. -/
theorem Gives.exists_asks {m : Type → Type} [Monad m] [LawfulMonad m] {net : Network m}
    (h : c.Gives record t (w.libraries options record) r) (hnet : net.AnswersAs w)
    (hl : t.Linked) (hc : c.IsIn t) :
    ∃ request, r.resolution = .pending request ∧ c.Asks net w record request := by
  obtain ⟨library, values, hfind, hlisted, -, hplaced⟩ := (gives_iff hl hc).1 h
  obtain ⟨hlink, i, hinterface, hfunctions⟩ := World.find?_libraries.1 hfind
  rw [hfunctions] at hlisted
  let request : CallRequest := ⟨library.address, c.function, values⟩
  obtain ⟨method, hoverload, hanswered⟩ : ∃ method, i.IsAddressOverload request.function method ∧
      request.AnsweredBy net record.chain method :=
    hnet.exists_answeredBy hinterface hlisted
  exact ⟨request, (reference?_eq_some hplaced).2.1, rfl, hlink, i, method, hinterface, hoverload,
    hanswered⟩

/-- **A call that can be made is found** if it has a place. -/
theorem CanBeMade.exists_gives {target : String} {values : List String}
    (h : c.CanBeMade w record t target values) (hl : t.Linked) (hc : c.IsIn t)
    (hplace : (t.span? c.member).isSome) :
    ∃ r, c.Gives record t (w.libraries options record) r ∧
      r.resolution = .pending ⟨target, c.function, values⟩ := by
  obtain ⟨hlink, ⟨i, method, hinterface, hoverload⟩, hvalues⟩ := h
  have hlisted : c.function ∈ i.addressFunctions :=
    (World.keyed_of_interfaceOutcome hinterface).mem_addressFunctions.2 ⟨method, hoverload⟩
  have hfind : (w.libraries options record).find? c.library = some ⟨target, i.addressFunctions⟩ :=
    World.find?_libraries.2 ⟨hlink, i, hinterface, rfl⟩
  obtain ⟨span, hspan⟩ := Option.isSome_iff_exists.1 hplace
  let file := SourceFile.ofText record.path record.name record.sourceCode
  let f : Finding :=
    ⟨c.member, some c.call, .pending ⟨target, c.function, values⟩, .publicFunction⟩
  obtain ⟨r, hr⟩ : ∃ r, file.reference? t f = some r := file.exists_reference? hspan
  exact ⟨r, (gives_iff hl hc).2 ⟨_, values, hfind, hlisted, hvalues, hr⟩,
    (reference?_eq_some hr).2.1⟩

end

end NamedCall

/-- **Calls by name are those that can be made, and they are made.**  Let an analysis load the
libraries of a contract from a network that answers a repeated lookup alike.  What it then finds for
a call by name asks for the function on the library that the contract itself links, and is answered
by one call.  A call that can be made is found if it has a place.  Under a name that the contract
itself does not link nothing is found, whatever the libraries link. -/
theorem ensures_calls_by_name {m : Type → Type} [Monad m] [LawfulMonad m] {net : Network m}
    {w : World} (hnet : net.AnswersAs w) (options : Options) {record : ContractRecord}
    {t : SyntaxTree} (hsource : ofSource? record.sourceCode = some t) :
    Ensures (fun loaded => ∀ c : NamedCall, c.IsIn t →
        (∀ r, c.Gives record t loaded.1 r → r ∈ (record.collected t loaded.1).references ∧
          ∃ request, r.resolution = .pending request ∧ c.Asks net w record request) ∧
        (∀ target values, c.CanBeMade w record t target values → (t.span? c.member).isSome →
          ∃ r ∈ (record.collected t loaded.1).references, c.Gives record t loaded.1 r ∧
            r.resolution = .pending ⟨target, c.function, values⟩) ∧
        (c.library ∉ (w.links record.chain record.address).map Prod.fst →
          ∀ r, ¬ c.Gives record t loaded.1 r))
      (callableLibraries net record.address record.chain options.maxLibraryDepth) := by
  have hl := (parsed_ofSource? hsource).linked
  refine (hnet.ensures_callableLibraries options record).imp fun loaded hloaded c hc => ?_
  rw [hloaded]
  refine ⟨fun r hr => ⟨hr.mem_collected, hr.exists_asks hnet hl hc⟩, ?_, fun hname r hr => ?_⟩
  · intro target values hmade hplace
    obtain ⟨r, hgives, hresolution⟩ := hmade.exists_gives hl hc hplace
    exact ⟨r, hgives.mem_collected, hgives, hresolution⟩
  · -- What is found is directly linked, so nothing is found under another name.
    obtain ⟨request, -, hrequest⟩ := hr.exists_asks hnet hl hc
    exact hname (List.mem_map.2 ⟨_, hrequest.linked, rfl⟩)

/-! ### A library of a library -/

/-- An interface with two overloads of a function, of which the second one returns an address. -/
def overloaded : String :=
  "[\x7b\"type\":\"function\",\"name\":\"h\",\"inputs\":[]," ++
    "\"outputs\":[\x7b\"name\":\"\",\"type\":\"uint256\"\x7d]\x7d," ++
    "\x7b\"type\":\"function\",\"name\":\"h\"," ++
    "\"inputs\":[\x7b\"name\":\"a\",\"type\":\"address\"\x7d]," ++
    "\"outputs\":[\x7b\"name\":\"\",\"type\":\"address\"\x7d]\x7d]"

/-- A contract that calls two libraries by name and is linked with the first one. -/
def chained : ContractRecord where
  address := "0x9999999999999999999999999999999999999999"
  chain := "eth"
  path := "/c.sol"
  name := "c"
  sourceCode := "contract c \x7b function f() public \x7b " ++
    "L.h(0x1111111111111111111111111111111111111111); M.h(); \x7d \x7d"
  library := "L:aaaaaaaaaaaaaaaaaaaaaaaaaaaaaaaaaaaaaaaa"
  abi := some overloaded

/-- A world in which the first library is linked with the second one. -/
def chainedWorld : World where
  lookup address _ :=
    if address = "0xaaaaaaaaaaaaaaaaaaaaaaaaaaaaaaaaaaaaaaaa" then
      ⟨5, .ok [{ chained with library := "M:bbbbbbbbbbbbbbbbbbbbbbbbbbbbbbbbbbbbbbbb" }]⟩
    else ⟨5, .ok [chained]⟩
  call _ target _ _ := ⟨7, .ok target⟩

/-- The call of the first library is found, and answered by a call of the overload that returns an
address.  That of the second one is not found. -/
theorem ensures_calls_by_name_chained :
    let first : NamedCall := ⟨6, 5, "L", "h", [8]⟩
    let second : NamedCall := ⟨11, 10, "M", "h", []⟩
    let libraries := chainedWorld.libraries .standard chained
    let request : CallRequest := ⟨"0xaaaaaaaaaaaaaaaaaaaaaaaaaaaaaaaaaaaaaaaa", "h",
      ["0x1111111111111111111111111111111111111111"]⟩
    ∃ t, ofSource? chained.sourceCode = some t ∧ first.IsIn t ∧ second.IsIn t ∧
      (∃ r ∈ (chained.collected t libraries).references, first.Gives chained t libraries r ∧
        r.resolution = .pending request ∧ ∃ method, method.outputs = [.address] ∧
          (deferredAddress chainedWorld.network "eth" request 5000).questions =
            [.lookup request.target "eth", .call "eth" request.target method request.arguments]) ∧
      ∀ r, ¬ second.Gives chained t libraries r := by
  intro first second libraries request
  have hfound : ∃ t ∈ ofSource? chained.sourceCode,
      (t.kind? 6 = some (.member 7 "h") ∧ t.kind? 7 = some (.identifier "L") ∧
        t.parent? 6 = some 5 ∧ t.kind? 5 = some (.call 6 [8]) ∧ (t.span? 6).isSome ∧
        [8].mapM (argumentValue? t (.ofTree t)) = some request.arguments) ∧
      t.kind? 11 = some (.member 12 "h") ∧ t.kind? 12 = some (.identifier "M") ∧
        t.parent? 11 = some 10 ∧ t.kind? 10 = some (.call 11 []) := by
    decide +kernel
  obtain ⟨t, ht, ⟨hmember, hobject, hparent, hcall, hplace, hvalues⟩, hmember', hobject', hparent',
    hcall'⟩ := hfound
  have hfirst : first.IsIn t := ⟨⟨7, hmember, hobject⟩, hparent, hcall⟩
  have hsecond : second.IsIn t := ⟨⟨12, hmember', hobject'⟩, hparent', hcall'⟩
  have hlinks : chainedWorld.links "eth" chained.address = [("L", request.target)] := by
    decide +kernel
  have hlisted : (chainedWorld.interfaceOutcome "eth" request.target).toOption.join.map
      Interface.addressFunctions = some ["h"] := by
    decide +kernel
  obtain ⟨i, hinterface, hfunctions⟩ := Option.map_eq_some_iff.1 hlisted
  replace hinterface : chainedWorld.interfaceOutcome "eth" request.target = .ok (some i) := by
    cases houtcome : chainedWorld.interfaceOutcome "eth" request.target with
    | error failure =>
      rw [houtcome] at hinterface
      cases hinterface
    | ok interface =>
      rw [houtcome] at hinterface
      exact congrArg _ (Option.some.inj (Option.join_eq_some_iff.1 hinterface))
  obtain ⟨method, hmethod⟩ := (World.keyed_of_interfaceOutcome hinterface).mem_addressFunctions.1
    (hfunctions ▸ List.mem_singleton.2 rfl)
  have hcalls := ensures_iff_value.1
    (ensures_calls_by_name chainedWorld.answersAs_network .standard ht)
  obtain ⟨hasks, hmade, -⟩ := hcalls first hfirst
  obtain ⟨-, -, hbeyond⟩ := hcalls second hsecond
  refine ⟨t, ht, hfirst, hsecond, ?_, hbeyond ?_⟩
  · obtain ⟨r, hr, hgives, hresolution⟩ := hmade request.target request.arguments
      ⟨hlinks ▸ List.mem_singleton.2 rfl, ⟨i, method, hinterface, hmethod⟩, hvalues⟩ hplace
    obtain ⟨-, asked, hasked, hrequest⟩ := hasks r hgives
    cases hresolution.symm.trans hasked
    obtain ⟨_, called, -, hoverload, hanswered⟩ := hrequest.answered
    have hintime : exceeds 5000 (chainedWorld.lookup request.target "eth").delay = false := by
      decide +kernel
    exact ⟨r, hr, hgives, hresolution, called, hoverload.outputs_eq,
      (congrArg Traced.questions (hanswered.once 5000)).trans (World.questions_callOnce hintime)⟩
  · show "M" ∉ (chainedWorld.links "eth" chained.address).map Prod.fst
    rw [hlinks]
    decide

end AddressTrace
