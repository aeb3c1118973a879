import AddressTrace.Proofs.Linkage.BreadthFirst
import AddressTrace.Proofs.Resolve.Static

/-!
# Contracts that cannot be looked up

Two worlds that differ in one contract, of which every lookup fails in the second one.  An analysis
of another contract meets the failure on three ways: where it follows the links of libraries, where
it asks for their functions, and where it looks for the interface of a contract that is called.  On
each of them it loses what the contract alone would have told, and goes on.

## Main definitions

* `World.Loses` — a world without a contract of another one;
* `Reference.targets` — does a reference wait for a call of this contract;
* `LinkedLibraries.AgreeBeside` — libraries that differ at most in those at one address;
* `World.resolved` — the references that an analysis finds, with what becomes of them.

## Main statements

* `World.find?_libraries` — which libraries a source can call;
* `callFinding?_of_find?` — a call is found wherever the libraries at its target are;
* `LinkedLibraries.AgreeBeside.callFinding?_eq` — a call of another contract is found all the same;
* `World.Loses.becomes_eq` — what becomes of a reference without the contract;
* `World.Loses.analyse_eq_filter` — an analysis loses the calls of the contract and nothing else.
-/

namespace AddressTrace

open Address

/-! ### Two worlds -/

/-- **A world that loses a contract** of another one: every lookup of the contract fails, in each
spelling of its address, and all else is answered as before. -/
structure World.Loses (w w' : World) (lost : String) : Prop where
  fails : ∀ a chain, foldCase a = foldCase lost →
    ∃ failure, (w'.lookup a chain).outcome = .error failure
  lookup_eq : ∀ a chain, foldCase a ≠ foldCase lost → w'.lookup a chain = w.lookup a chain
  call_eq : w'.call = w.call

/-- Is this a call of the contract at an address, in some spelling? -/
def CallRequest.targets (request : CallRequest) (address : String) : Bool :=
  foldCase request.target = foldCase address

/-- **Does a reference wait for a call** of the contract at an address? -/
def Reference.targets (r : Reference) (address : String) : Bool :=
  r.request?.any (·.targets address)

theorem linkedLibrary?_eq_some {name address : String}
    {outcome : Except Failure (Option Abi.Interface)} {e : String × LinkedLibrary} :
    linkedLibrary? name address outcome = some e ↔
      ∃ i, outcome = .ok (some i) ∧ e = (name, ⟨address, i.addressFunctions⟩) := by
  fun_cases linkedLibrary? name address outcome <;> simp_all [eq_comm]

/-- The libraries that some links lead to keep the names of their links. -/
theorem sublist_names_linkedLibraries (links : List (String × String))
    (outcome : String → Except Failure (Option Abi.Interface)) :
    ((links.filterMap fun link => linkedLibrary? link.1 link.2 (outcome link.2)).map
      Prod.fst).Sublist (links.map Prod.fst) := by
  induction links with
  | nil => exact .slnil
  | cons link links ih =>
    simp only [List.filterMap_cons]
    cases hlibrary : linkedLibrary? link.1 link.2 (outcome link.2) with
    | none => exact ih.cons _
    | some e =>
      obtain ⟨i, -, rfl⟩ := linkedLibrary?_eq_some.1 hlibrary
      exact ih.cons_cons _

namespace World

variable (w : World) (options : Options) (record : ContractRecord)

/-- The libraries that a source can call. -/
def libraries : LinkedLibraries :=
  (callableLibraries w.network record.address record.chain options.maxLibraryDepth).value.1

/-- The references that are found in a source, before any of their calls are made. -/
def found : List Reference :=
  match SyntaxTree.ofSource? record.sourceCode with
  | none => []
  | some tree => (record.collected tree (w.libraries options record)).references

/-- What becomes of a reference: it is as it was, has the address that its call gave, or is gone. -/
def becomes (r : Reference) : Option Reference :=
  r.settle (outcomeOf w.network record.chain options.callTimeout r).value

/-- **The references that an analysis gives**, each after the one that was found for it. -/
def resolved : List (Reference × Reference) :=
  (w.found options record).filterMap fun r => (w.becomes options record r).map (r, ·)

theorem references_analyse :
    (analyse w.network options record).value.references =
      (w.found options record).filterMap (w.becomes options record) := by
  rw [found, analyse]
  cases SyntaxTree.ofSource? record.sourceCode with
  | none => rfl
  | some tree =>
    simp only [Traced.value_bind, Traced.value_pure, Traced.value_mapM]
    rw [← List.map_prod_left_eq_zip, List.filterMap_map]
    rfl

theorem references_analyse_eq_map_resolved :
    (analyse w.network options record).value.references =
      (w.resolved options record).map Prod.snd := by
  rw [references_analyse, resolved, List.map_filterMap]
  simp

variable {w options record} in
/-- A reference that waits for a call of a contract is one of a call. -/
theorem origin_of_targets {r : Reference} {address : String} (h : r ∈ w.found options record)
    (htargets : r.targets address = true) : r.origin = .publicFunction := by
  rw [found] at h
  split at h
  · cases h
  · obtain ⟨request, hrequest, -⟩ := (Option.any_eq_true _ _).1 htargets
    rw [← ContractRecord.isPending_iff h, Reference.isPending_eq, hrequest]
    rfl

/-! ### The libraries that a source can call -/

/-- What the lookup of a contract says about its interface. -/
def interfaceOutcome (chain address : String) : Except Failure (Option Abi.Interface) :=
  (w.lookup address chain).outcome.bind interfaceOf

/-- The libraries of a source are those of the direct links of its contract. -/
theorem libraries_eq :
    w.libraries options record = .ofList ((w.links record.chain record.address).filterMap
      fun link => linkedLibrary? link.1 link.2 (w.interfaceOutcome record.chain link.2)) := by
  rw [libraries, callableLibraries, links, links?]
  cases hlinks : w.linksOutcome record.chain record.address with
  | error failure =>
    have hload : loadLibraries w.network record.address record.chain options.maxLibraryDepth =
        ⟨.error failure, [.lookup record.address record.chain]⟩ := by
      rw [loadLibraries, links_network, hlinks]
      rfl
    rw [hload]
    rfl
  | ok direct =>
    rw [loadLibraries_network hlinks]
    simp only [Traced.value_bind, Traced.value_pure, libraryFunctions, Traced.value_mapM]
    rw [List.filterMap_map]
    rfl

variable {w options record}

/-- A request comes to the same in two worlds that look up its contract alike and make the same
calls. -/
theorem deferredAddress_congr {w' : World} {chain : String} {request : CallRequest}
    (hlookup : w'.lookup request.target chain = w.lookup request.target chain)
    (hcall : w'.call = w.call) (limit : Nat) :
    deferredAddress w'.network chain request limit =
      deferredAddress w.network chain request limit := by
  have hmethod : w'.network.addressMethod request.target chain request.function =
      w.network.addressMethod request.target chain request.function := by
    simp only [Network.addressMethod, Network.interface, World.network, hlookup]
  have hnetwork : w'.network.call = w.network.call := by
    simp only [World.network, hcall]
  rw [deferredAddress, deferredAddress, hmethod, hnetwork]

/-- A request fails if its contract cannot be looked up. -/
theorem deferredAddress_of_error {chain : String} {request : CallRequest} {failure : Failure}
    (h : (w.lookup request.target chain).outcome = .error failure) (limit : Nat) :
    ∃ failure, (deferredAddress w.network chain request limit).value = .error failure := by
  have hmethod : (w.network.addressMethod request.target chain request.function).value =
      ⟨(w.lookup request.target chain).delay, .error failure⟩ := by
    show Reply.mk _ (((w.lookup request.target chain).outcome.bind interfaceOf).map _) = _
    rw [h]
    rfl
  simp only [deferredAddress, Traced.value_bind, hmethod]
  split
  · exact ⟨_, rfl⟩
  · exact ⟨_, rfl⟩

/-- The links of a contract have different names. -/
theorem nodup_names_links (w : World) (chain a : String) :
    ((w.links chain a).map Prod.fst).Nodup := by
  rw [links, links?_eq]
  rcases (w.lookup a chain).outcome with failure | _ | ⟨r, records⟩
  · exact .nil
  · exact .nil
  · exact SortedMap.nodup_keys _

/-- **A library can be called** if the contract is linked with it under its name and its interface
can be read. -/
theorem find?_libraries {name : String} {library : LinkedLibrary} :
    (w.libraries options record).find? name = some library ↔
      (name, library.address) ∈ w.links record.chain record.address ∧
        ∃ i, w.interfaceOutcome record.chain library.address = .ok (some i) ∧
          library.functions = i.addressFunctions := by
  rw [libraries_eq, SortedMap.find?_ofList
    ((w.nodup_names_links _ _).sublist (sublist_names_linkedLibraries _ _)), List.mem_filterMap]
  constructor
  · rintro ⟨⟨name', a⟩, hlink, hlibrary⟩
    obtain ⟨i, hi, he⟩ := linkedLibrary?_eq_some.1 hlibrary
    obtain ⟨rfl, rfl⟩ := Prod.mk.inj he
    exact ⟨hlink, i, hi, rfl⟩
  · rintro ⟨hlink, i, hi, hfunctions⟩
    refine ⟨_, hlink, linkedLibrary?_eq_some.2 ⟨i, hi, ?_⟩⟩
    rw [← hfunctions]

end World

/-! ### Calls that are found without a contract -/

/-- **Libraries that differ at most in those at one address**, in some spelling of it. -/
def LinkedLibraries.AgreeBeside (lost : String) (libraries libraries' : LinkedLibraries) : Prop :=
  ∀ name (library : LinkedLibrary), foldCase library.address ≠ foldCase lost →
    (libraries.find? name = some library ↔ libraries'.find? name = some library)

section Found

variable {tree : SyntaxTree} {ds : Declarations} {libraries libraries' : LinkedLibraries}

/-- What a member is called on depends on the libraries at that address only. -/
theorem callTarget?_of_find? {object : NodeId} {function target : String}
    (h : ∀ name (library : LinkedLibrary), library.address = target →
      libraries.find? name = some library → libraries'.find? name = some library)
    (hcalled : callTarget? tree ds libraries object function = some target) :
    callTarget? tree ds libraries' object function = some target := by
  unfold callTarget? at hcalled ⊢
  split at hcalled
  · exact hcalled
  · obtain ⟨library, hlibrary, hfunction⟩ := Option.bind_eq_some_iff.1 hcalled
    obtain ⟨hcontains, htaken⟩ := Option.ite_none_right_eq_some.1 hfunction
    rw [h _ library (Option.some.inj htaken) hlibrary]
    exact hfunction
  · cases hcalled

/-- **A call is found with other libraries as well** if these have the ones at its target. -/
theorem callFinding?_of_find? {id : NodeId} {f : Finding}
    (h : ∀ request, f.resolution = .pending request → ∀ name (library : LinkedLibrary),
      library.address = request.target →
      libraries.find? name = some library → libraries'.find? name = some library)
    (hfound : callFinding? tree ds libraries id = some f) :
    callFinding? tree ds libraries' id = some f := by
  obtain ⟨object, function, call, arguments, target, values, hkind, hparent, hcall, hcalled,
    hvalues, rfl⟩ := callFinding?_eq_some.1 hfound
  have hcalled' := callTarget?_of_find? (h ⟨target, function, values⟩ rfl) hcalled
  exact callFinding?_eq_some.2 ⟨object, function, call, arguments, target, values, hkind, hparent,
    hcall, hcalled', hvalues, rfl⟩

end Found

namespace LinkedLibraries.AgreeBeside

variable {lost : String} {libraries libraries' : LinkedLibraries} {tree : SyntaxTree}
  {ds : Declarations}

theorem symm (h : AgreeBeside lost libraries libraries') :
    AgreeBeside lost libraries' libraries :=
  fun name library hlibrary => (h name library hlibrary).symm

/-- A call of a contract is found whatever libraries there are at another address. -/
theorem callFinding?_eq (h : AgreeBeside lost libraries libraries') {id : NodeId} {f : Finding}
    (hother : ∀ request, f.resolution = .pending request →
      foldCase request.target ≠ foldCase lost)
    (hfound : callFinding? tree ds libraries id = some f) :
    callFinding? tree ds libraries' id = some f := by
  refine callFinding?_of_find? (fun request hrequest name library htarget => ?_) hfound
  exact (h name library (htarget ▸ hother request hrequest)).1

end LinkedLibraries.AgreeBeside

theorem Reference.targets_eq_false {r : Reference} {address : String}
    (h : r.targets address = false) {request : CallRequest}
    (hrequest : r.resolution = .pending request) : foldCase request.target ≠ foldCase address := by
  simpa [targets, request?, hrequest, CallRequest.targets] using h

section Collected

variable {lost : String} {libraries libraries' : LinkedLibraries}

/-- **The references of a record beside the calls of a contract** do not depend on the libraries at
its address. -/
theorem ContractRecord.filter_collected_eq (h : libraries.AgreeBeside lost libraries')
    (record : ContractRecord) (tree : SyntaxTree) :
    ((record.collected tree libraries').references.filter fun r => !r.targets lost) =
      (record.collected tree libraries).references.filter fun r => !r.targets lost := by
  simp only [collected_eq, Collection.append, List.filter_append]
  congr 3
  simp only [Collection.ofFindings, callFindings, List.filterMap_filterMap, List.filter_filterMap]
  refine List.filterMap_congr fun id _ => Option.ext fun r => ?_
  simp only [Option.filter_eq_some_iff, Option.bind_eq_some_iff]
  refine and_congr_left fun hkeep => exists_congr fun f => and_congr_left fun hplaced => ?_
  have hother : ∀ request, f.resolution = .pending request →
      foldCase request.target ≠ foldCase lost := fun request hrequest =>
    Reference.targets_eq_false (by simpa using hkeep)
      ((reference?_eq_some hplaced).2.1.trans hrequest)
  exact ⟨h.symm.callFinding?_eq hother, h.callFinding?_eq hother⟩

end Collected

/-! ### An analysis without a contract -/

namespace World.Loses

variable {w w' : World} {lost chain : String} {options : Options} {record : ContractRecord}

theorem links_eq (h : w.Loses w' lost) {a : String} (ha : foldCase a ≠ foldCase lost) :
    w'.links chain a = w.links chain a := by
  rw [links, links, links?, links?, linksOutcome, linksOutcome, h.lookup_eq a chain ha]

theorem interfaceOutcome_eq (h : w.Loses w' lost) {a : String} (ha : foldCase a ≠ foldCase lost) :
    w'.interfaceOutcome chain a = w.interfaceOutcome chain a := by
  rw [interfaceOutcome, interfaceOutcome, h.lookup_eq a chain ha]

/-- The libraries at other addresses can be called as before. -/
theorem agreeBeside_libraries (h : w.Loses w' lost)
    (hother : foldCase record.address ≠ foldCase lost) :
    (w.libraries options record).AgreeBeside lost (w'.libraries options record) := by
  intro name library hlibrary
  rw [find?_libraries, find?_libraries, h.links_eq hother, h.interfaceOutcome_eq hlibrary]

/-- A request for another contract comes to what it came to before. -/
theorem deferredAddress_eq (h : w.Loses w' lost) {request : CallRequest} (limit : Nat)
    (hother : foldCase request.target ≠ foldCase lost) :
    deferredAddress w'.network chain request limit =
      deferredAddress w.network chain request limit :=
  deferredAddress_congr (h.lookup_eq _ _ hother) h.call_eq limit

/-- A request for the contract fails. -/
theorem deferredAddress_lost (h : w.Loses w' lost) {request : CallRequest} (limit : Nat)
    (htarget : foldCase request.target = foldCase lost) :
    ∃ failure, (deferredAddress w'.network chain request limit).value = .error failure := by
  obtain ⟨failure, hfailure⟩ := h.fails request.target chain htarget
  exact deferredAddress_of_error hfailure limit

/-- **What becomes of a reference without the contract**: nothing if it waits for a call of the
contract, and otherwise what became of it before. -/
theorem becomes_eq (h : w.Loses w' lost) (r : Reference) :
    w'.becomes options record r =
      if r.targets lost then none else w.becomes options record r := by
  cases hrequest : r.request? with
  | none => simp [becomes, outcomeOf, Reference.targets, hrequest, Reference.settle]
  | some request =>
    simp only [becomes, outcomeOf, Reference.targets, hrequest, Traced.value_bind,
      Traced.value_pure, Option.any_some, CallRequest.targets, decide_eq_true_eq]
    split
    · next htarget =>
      obtain ⟨failure, hfailure⟩ := h.deferredAddress_lost options.callTimeout htarget
      rw [hfailure]
      rfl
    · next hother => rw [h.deferredAddress_eq options.callTimeout hother]

/-- The references that wait for other calls, or for none, are found in both worlds. -/
theorem filter_found_eq (h : w.Loses w' lost) (hother : foldCase record.address ≠ foldCase lost) :
    ((w'.found options record).filter fun r => !r.targets lost) =
      (w.found options record).filter fun r => !r.targets lost := by
  rw [found, found]
  cases SyntaxTree.ofSource? record.sourceCode with
  | none => rfl
  | some tree => exact record.filter_collected_eq (h.agreeBeside_libraries hother) tree

/-- What is resolved without the contract is what was resolved before, the references apart that
wait for its calls. -/
theorem resolved_eq (h : w.Loses w' lost) (hother : foldCase record.address ≠ foldCase lost) :
    w'.resolved options record =
      (w.resolved options record).filter fun e => !e.1.targets lost := by
  let keeps : Reference → Bool := fun r => !r.targets lost
  let pairs (w : World) (r : Reference) : Option (Reference × Reference) :=
    (w.becomes options record r).map (r, ·)
  have hlost : ∀ r, pairs w' r = if keeps r then pairs w r else none := by
    intro r
    cases htargets : r.targets lost <;> simp [pairs, keeps, h.becomes_eq, htargets]
  calc (w'.found options record).filterMap (pairs w')
      = ((w'.found options record).filter keeps).filterMap (pairs w) := by
        rw [List.filterMap_filter]
        exact List.filterMap_congr fun r _ => hlost r
    _ = ((w.found options record).filter keeps).filterMap (pairs w) := by
        rw [h.filter_found_eq hother]
    _ = ((w.found options record).filterMap (pairs w)).filter fun e => keeps e.1 := by
        rw [List.filterMap_filter, List.filter_filterMap]
        refine List.filterMap_congr fun r _ => ?_
        cases hbecomes : w.becomes options record r <;>
          simp [pairs, hbecomes, Option.filter]

/-- **An analysis without a contract loses the calls of the contract** and nothing else.  The
references are those of before, in the same order and with the same addresses, but for those that
were found as a call of the contract. -/
theorem analyse_eq_filter (h : w.Loses w' lost) (options : Options)
    (hother : foldCase record.address ≠ foldCase lost) :
    (analyse w.network options record).value.references =
        (w.resolved options record).map Prod.snd ∧
      (analyse w'.network options record).value.references =
        ((w.resolved options record).filter fun e => !e.1.targets lost).map Prod.snd ∧
      ∀ e ∈ w.resolved options record,
        e.2.place = e.1.place ∧ (e.1.targets lost = true → e.2.origin = .publicFunction) := by
  refine ⟨w.references_analyse_eq_map_resolved options record, ?_, ?_⟩
  · rw [references_analyse_eq_map_resolved, h.resolved_eq hother]
  · intro e he
    obtain ⟨r, hr, hbecomes⟩ := List.mem_filterMap.1 he
    obtain ⟨settled, hsettled, rfl⟩ := Option.map_eq_some_iff.1 hbecomes
    have hplace : settled.place = r.place := Reference.place_of_settle hsettled
    refine ⟨hplace, fun htargets => ?_⟩
    have hcall : r.origin = .publicFunction := origin_of_targets hr htargets
    calc settled.origin = settled.place.origin := rfl
      _ = r.place.origin := by rw [hplace]
      _ = .publicFunction := hcall

end World.Loses

/-! ### A library under two names -/

/-- A world that loses a contract. -/
def World.without (w : World) (lost : String) : World where
  lookup address chain :=
    if foldCase address = foldCase lost then ⟨0, .error .http⟩ else w.lookup address chain
  call := w.call

theorem World.loses_without (w : World) (lost : String) : w.Loses (w.without lost) lost where
  fails _ _ h := ⟨.http, congrArg Reply.outcome (if_pos h)⟩
  lookup_eq _ _ h := if_neg h
  call_eq := rfl

/-- A contract that calls two other ones: both as libraries, one of them under two names, and that
one by its address as well. -/
def fourCalls : ContractRecord where
  address := "0x9999999999999999999999999999999999999999"
  chain := "eth"
  path := "/c.sol"
  name := "c"
  sourceCode := "contract c \x7b function f() public \x7b L.h(); M.h(); N.h(); " ++
    "i(0xaAaAaAaAaAaAaAaAaAaAaAaAaAaAaAaAaAaAaAaA).h(); \x7d \x7d"
  library := "L:aaaaaaaaaaaaaaaaaaaaaaaaaaaaaaaaaaaaaaaa;" ++
    "M:bbbbbbbbbbbbbbbbbbbbbbbbbbbbbbbbbbbbbbbb;N:AAAAAAAAAAAAAAAAAAAAAAAAAAAAAAAAAAAAAAAA"
  abi := some hInterface

/-- A world in which each contract is this one, and returns its own address. -/
def echoWorld : World where
  lookup _ _ := ⟨5, .ok [fourCalls]⟩
  call _ target _ _ := ⟨7, .ok target⟩

/-- Without the first contract its three calls are gone.  The literal in one of them stays, and so
does the call of the other contract. -/
theorem World.Loses.analyse_eq_filter_fourCalls :
    let lost := "0xAaaaaaaaaaaaaaaaaaaaaaaaaaaaaaaaaaaaaaaa"
    let w' := echoWorld.without lost
    foldCase fourCalls.address ≠ foldCase lost ∧ echoWorld.Loses w' lost ∧
      (analyse echoWorld.network .standard fourCalls).value.references.map
          (fun r => (r.span.start, r.origin)) =
        [(58, .hardcoded), (35, .publicFunction), (42, .publicFunction), (49, .publicFunction),
          (56, .publicFunction)] ∧
      (analyse w'.network .standard fourCalls).value.references.map
          (fun r => (r.span.start, r.address)) =
        [(58, "0xaAaAaAaAaAaAaAaAaAaAaAaAaAaAaAaAaAaAaAaA"),
          (42, "0xbbbbbbbbbbbbbbbbbbbbbbbbbbbbbbbbbbbbbbbb")] := by
  intro lost w'
  have hother : foldCase fourCalls.address ≠ foldCase lost := by decide +kernel
  have hloses : echoWorld.Loses w' lost := echoWorld.loses_without lost
  obtain ⟨hbefore, hafter, -⟩ := hloses.analyse_eq_filter .standard hother
  have hresolved :
      let resolved := echoWorld.resolved .standard fourCalls
      (resolved.map Prod.snd).map (fun r => (r.span.start, r.origin)) =
          [(58, .hardcoded), (35, .publicFunction), (42, .publicFunction), (49, .publicFunction),
            (56, .publicFunction)] ∧
        ((resolved.filter fun e => !e.1.targets lost).map Prod.snd).map
            (fun r => (r.span.start, r.address)) =
          [(58, "0xaAaAaAaAaAaAaAaAaAaAaAaAaAaAaAaAaAaAaAaA"),
            (42, "0xbbbbbbbbbbbbbbbbbbbbbbbbbbbbbbbbbbbbbbbb")] := by
    decide +kernel
  rw [hbefore, hafter]
  exact ⟨hother, hloses, hresolved⟩

end AddressTrace
