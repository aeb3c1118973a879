import AddressTrace.Proofs.Resolve.Callable
import AddressTrace.Rpc

/-!
# Which overload is called

An interface may list several functions of one name.  The one that is called is chosen by what it
returns: of those that return exactly one address it is the first one listed.  The arguments are
only looked at afterwards, where the call is made.  So an overload that fits the arguments is called
unless one that does not fit them, but returns an address as well, is listed in front of it.

## Main definitions

* `Interface.listed?`, `Interface.ofMethods` — the functions that an interface lists, and the
  interface of some functions;
* `Method.Answers`, `Method.Accepts` — a function returns what is asked for, and takes what is
  given;
* `IsFirstOverload` — the first function of a name that returns exactly one address.

## Main statements

* `Interface.named_ofMethods` — the overloads of a name stand in the order of the list;
* `Interface.addressMethod?_ofMethods` — the one that is chosen is the first one;
* `Method.accepts_iff` — arguments are taken if they can be read;
* `first_overload_called` — the first overload is called, whatever it takes.
-/

namespace AddressTrace

namespace Abi

/-- **A function answers a request** for one of this name: it returns one address and nothing
else. -/
def Method.Answers (m : Method) (function : String) : Prop :=
  m.name = function ∧ m.outputs = [.address]

/-- **A function takes some arguments**: there are as many as it has inputs, and each can be read as
a value of the type at its place. -/
def Method.Accepts (m : Method) (arguments : List String) : Prop :=
  List.Forall₂ (fun k text => ∃ datum, Kind.readArgument k text = .ok datum) m.inputs arguments

instance (m : Method) (function : String) : Decidable (m.Answers function) :=
  decidable_of_iff (m.name = function ∧ m.returnsAddress = true)
    (and_congr_right fun _ => Method.returnsAddress_iff)

/-- **The first overload** of a function among those that return exactly one address. -/
def IsFirstOverload (methods : List Method) (function : String) (first : Method) : Prop :=
  first.Answers function ∧
    ∃ before after, methods = before ++ first :: after ∧ ∀ m ∈ before, ¬ m.Answers function

/-! ### The functions of an interface -/

namespace Interface

/-- **The functions that an interface lists**, in the order of the text, if all of it can be
read. -/
def listed? (text : String) : Option (List Method) := do
  let form ← Json.Form.parse? text
  let _ ← form.value?
  return (← form.list? entry?).filterMap id

/-- The interface of some functions, the overloads of a name in their order. -/
def ofMethods (methods : List Method) : Interface := methods.foldl push .empty

/-- **An interface that can be read is the one of the functions that it lists.** -/
theorem ofJson_of_listed {text : String} {methods : List Method}
    (h : listed? text = some methods) : ofJson text = .ok (ofMethods methods) := by
  simp only [listed?, Option.bind_eq_bind, Option.bind_eq_some_iff] at h
  obtain ⟨form, hform, value, hvalue, entries, hentries, hmethods⟩ := h
  rw [← Option.some.inj hmethods]
  simp only [ofJson, hform, hvalue, hentries, Option.bind_eq_bind, Option.bind_some]
  rfl

/-- **The interface that records hold** is the one whose text comes first. -/
theorem interfaceOf_of_findSome? {records : List ContractRecord} {text : String}
    {methods : List Method}
    (hrecords : records.findSome? (fun r => r.abi.filter fun text => !text.isEmpty) = some text)
    (hlisted : listed? text = some methods) :
    interfaceOf records = .ok (some (ofMethods methods)) := by
  rw [interfaceOf, hrecords]
  simp only [ofJson_of_listed hlisted]

/-- A function is put behind the overloads of its own name. -/
theorem named_push (i : Interface) (m : Method) (name : String) :
    (i.push m).named name = i.named name ++ [m].filter (·.name = name) := by
  rw [named, push]
  by_cases hname : m.name = name
  · subst hname
    simp [named]
  · rw [SortedMap.find?_insert_of_ne _ hname]
    simp [named, hname]

/-- **The overloads of a name** are the functions of this name, in the order of the list. -/
theorem named_ofMethods (methods : List Method) (name : String) :
    (ofMethods methods).named name = methods.filter (·.name = name) := by
  have hfold : ∀ i : Interface, (methods.foldl push i).named name =
      i.named name ++ methods.filter (·.name = name) := by
    induction methods with
    | nil => exact fun i => (List.append_nil _).symm
    | cons m methods ih =>
        intro i
        rw [List.foldl_cons, ih, named_push, List.append_assoc, ← List.filter_append]
        rfl
  exact hfold empty

/-- **The overload that is chosen is the first one** that returns exactly one address. -/
theorem addressMethod?_ofMethods {methods : List Method} {function : String} {first : Method} :
    (ofMethods methods).addressMethod? function = some first ↔
      IsFirstOverload methods function first := by
  have hanswers : ∀ m : Method, (m.name = function ∧ m.returnsAddress = true) ↔
      m.Answers function := fun m => and_congr_right fun _ => Method.returnsAddress_iff
  rw [addressMethod?, named_ofMethods, List.find?_filter, List.find?_eq_some_iff_append]
  simp only [IsFirstOverload, decide_eq_true_iff, hanswers, Bool.not_eq_true',
    decide_eq_false_iff_not]

/-- Where a function answers a request, there is a first one. -/
theorem exists_isFirstOverload {methods : List Method} {function : String} {m : Method}
    (hm : m ∈ methods) (h : m.Answers function) :
    ∃ first, IsFirstOverload methods function first := by
  have hsome : ((ofMethods methods).addressMethod? function).isSome := by
    rw [addressMethod?, named_ofMethods, List.find?_isSome]
    exact ⟨m, List.mem_filter.2 ⟨hm, decide_eq_true h.1⟩, Method.returnsAddress_iff.2 h.2⟩
  obtain ⟨first, hfirst⟩ := Option.isSome_iff_exists.1 hsome
  exact ⟨first, addressMethod?_ofMethods.1 hfirst⟩

end Interface

/-! ### The arguments of a call -/

theorem forall₂_of_readArgumentList {ks : List Kind} {texts : List String} {data : List Datum}
    (hlength : ks.length = texts.length) (h : readArgumentList ks texts = .ok data) :
    List.Forall₂ (fun k text => ∃ datum, Kind.readArgument k text = .ok datum) ks texts := by
  induction ks generalizing texts data with
  | nil =>
      obtain rfl := List.eq_nil_of_length_eq_zero hlength.symm
      exact .nil
  | cons k ks ih =>
      obtain ⟨text, texts, rfl⟩ := List.exists_cons_of_length_eq_add_one hlength.symm
      rw [readArgumentList] at h
      cases hdatum : k.readArgument text with
      | error problem =>
          rw [hdatum] at h
          cases h
      | ok datum =>
          cases hrest : readArgumentList ks texts with
          | error problem =>
              rw [hdatum, hrest] at h
              cases h
          | ok rest => exact .cons ⟨datum, hdatum⟩ (ih (Nat.succ.inj hlength) hrest)

theorem exists_readArgumentList {ks : List Kind} {texts : List String}
    (h : List.Forall₂ (fun k text => ∃ datum, Kind.readArgument k text = .ok datum) ks texts) :
    ∃ data, readArgumentList ks texts = .ok data := by
  induction h with
  | nil => exact ⟨[], rfl⟩
  | cons hhead _ ih =>
      obtain ⟨datum, hdatum⟩ := hhead
      obtain ⟨rest, hrest⟩ := ih
      refine ⟨datum :: rest, ?_⟩
      rw [readArgumentList, hdatum, hrest]
      rfl

/-- **A function takes the arguments that can be read for it.** -/
theorem Method.accepts_iff {m : Method} {arguments : List String} :
    m.Accepts arguments ↔ ∃ data, m.readArguments arguments = .ok data := by
  constructor
  · intro h
    rw [readArguments, if_pos h.length_eq]
    exact exists_readArgumentList h
  · rintro ⟨data, hdata⟩
    rw [readArguments] at hdata
    split at hdata
    · next hlength => exact forall₂_of_readArgumentList hlength hdata
    · cases hdata

instance (m : Method) (arguments : List String) : Decidable (m.Accepts arguments) :=
  decidable_of_iff ((m.readArguments arguments).toOption.isSome = true) <| by
    rw [Method.accepts_iff]
    cases m.readArguments arguments <;> simp [Except.toOption]

end Abi

/-! ### Calls -/

namespace Rpc

open Abi

variable {m : Type → Type} [Monad m] {config : Config} {name : String} {chain : Chain}
  {method : Method} {arguments : List String}

/-- Arguments that can be read are sent with the selector of the function. -/
theorem callAddress_of_ok (transport : Http.Transport m) (hchain : config.chain name = .ok chain)
    {data : List Datum} (hdata : method.readArguments arguments = .ok data) (address : String) :
    callAddress transport config name address method arguments = do
      let response ← send transport chain.rpc address (method.calldata data)
      return (response.bind fun r => result r.body).bind fun data =>
        (method.returnedAddress data).mapError .ofReturn := by
  have hprepare : prepare config name method arguments = .ok (chain.rpc, method.calldata data) := by
    rw [prepare, hchain, hdata]
    rfl
  simp only [callAddress, hprepare]

/-- For arguments that cannot be read nothing is sent. -/
theorem callAddress_of_error (transport : Http.Transport m)
    (hchain : config.chain name = .ok chain) {problem : ArgumentProblem}
    (hproblem : method.readArguments arguments = .error problem) (address : String) :
    callAddress transport config name address method arguments =
      pure (.error (.ofArgument problem)) := by
  have hprepare : prepare config name method arguments = .error (.ofArgument problem) := by
    rw [prepare, hchain, hproblem]
    rfl
  simp only [callAddress, hprepare]

end Rpc

section

open Abi

variable {m : Type → Type} [Monad m] [LawfulMonad m]

/-- **The first overload is called**, and no other one.  Let a function that returns exactly one
address fit a request for it.  Then the request is one call of the first overload that returns
exactly one address, whatever else is listed.  If that one takes the arguments, they are sent to it.
If it does not, nothing is sent, and the request fails because of them. -/
theorem first_overload_called {net : Network m} {chain text : String} {request : CallRequest}
    {methods : List Method} (hlisted : Interface.listed? text = some methods)
    (hlookup : Ensures (fun reply => ∃ records, reply.outcome = .ok records ∧
        records.findSome? (fun r => r.abi.filter fun text => !text.isEmpty) = some text)
      (net.lookup request.target chain))
    (hfits : ∃ method ∈ methods, method.Answers request.function ∧
      method.Accepts request.arguments) :
    ∃ first, IsFirstOverload methods request.function first ∧
      (∀ limit, deferredAddress net chain request limit =
        callOnce net chain request first limit) ∧
      (first.Accepts request.arguments →
        ∃ data, first.readArguments request.arguments = .ok data ∧
          ∀ (transport : Http.Transport m) (config : Config) (c : Chain),
            config.chain chain = .ok c →
            Rpc.callAddress transport config chain request.target first request.arguments = do
              let response ← Rpc.send transport c.rpc request.target (first.calldata data)
              return (response.bind fun r => Rpc.result r.body).bind fun data =>
                (first.returnedAddress data).mapError .ofReturn) ∧
      (¬ first.Accepts request.arguments →
        ∃ problem, first.readArguments request.arguments = .error problem ∧
          ∀ (transport : Http.Transport m) (config : Config) (c : Chain),
            config.chain chain = .ok c →
            Rpc.callAddress transport config chain request.target first request.arguments =
              pure (.error (.ofArgument problem))) := by
  obtain ⟨method, hmethod, hanswers, -⟩ := hfits
  obtain ⟨first, hfirst⟩ := Interface.exists_isFirstOverload hmethod hanswers
  have hinterface : Ensures (fun reply =>
        reply.outcome.bind interfaceOf = .ok (some (Interface.ofMethods methods)))
      (net.lookup request.target chain) :=
    hlookup.imp fun reply ⟨records, houtcome, hrecords⟩ => by
      rw [houtcome]
      exact Interface.interfaceOf_of_findSome? hrecords hlisted
  refine ⟨first, hfirst,
    deferredAddress_eq_callOnce hinterface (Interface.addressMethod?_ofMethods.2 hfirst),
    fun haccepts => ?_, fun hrefuses => ?_⟩
  · obtain ⟨data, hdata⟩ := Method.accepts_iff.1 haccepts
    exact ⟨data, hdata, fun transport _ _ hchain =>
      Rpc.callAddress_of_ok transport hchain hdata request.target⟩
  · cases hread : first.readArguments request.arguments with
    | ok data => exact absurd (Method.accepts_iff.2 ⟨data, hread⟩) hrefuses
    | error problem =>
        exact ⟨problem, rfl, fun transport _ _ hchain =>
          Rpc.callAddress_of_error transport hchain hread request.target⟩

/-- The only overload that returns an address takes the arguments, and is called behind another
one. -/
theorem first_overload_called_overloaded :
    let request : CallRequest := ⟨"0x9999999999999999999999999999999999999999", "h",
      ["0x1111111111111111111111111111111111111111"]⟩
    ∃ methods first, Interface.listed? overloaded = some methods ∧ methods.length = 2 ∧
      IsFirstOverload methods "h" first ∧ first.Accepts request.arguments ∧
      (deferredAddress chainedWorld.network "eth" request 5000).questions =
        [.lookup request.target "eth", .call "eth" request.target first request.arguments] := by
  intro request
  have hfacts : ∃ methods ∈ Interface.listed? overloaded, methods.length = 2 ∧
      (∃ method ∈ methods, method.Answers request.function ∧ method.Accepts request.arguments) ∧
      ∃ first ∈ (Interface.ofMethods methods).addressMethod? request.function,
        first.Accepts request.arguments := by
    decide +kernel
  obtain ⟨methods, hlisted, hlength, hfits, chosen, hchosen, haccepts⟩ := hfacts
  have hlookup : (chainedWorld.lookup request.target "eth").outcome = .ok [chained] := by
    decide +kernel
  have hrecords : [chained].findSome? (fun r => r.abi.filter fun text => !text.isEmpty) =
      some overloaded := by
    decide +kernel
  obtain ⟨first, hfirst, hcalled, -⟩ := first_overload_called hlisted
    (ensures_iff_value (x := chainedWorld.network.lookup request.target "eth").2
      ⟨_, hlookup, hrecords⟩) hfits
  obtain rfl : chosen = first :=
    Option.some.inj (hchosen.symm.trans (Interface.addressMethod?_ofMethods.2 hfirst))
  have hintime : exceeds 5000 (chainedWorld.lookup request.target "eth").delay = false := by
    decide +kernel
  exact ⟨methods, chosen, hlisted, hlength, hfirst, haccepts,
    (congrArg Traced.questions (hcalled 5000)).trans (World.questions_callOnce hintime)⟩

end

/-! ### An overload that fits and is not called -/

/-- An interface with two overloads of a function that both return an address.  The first one takes
no argument, the second one takes one. -/
def bothAddresses : String :=
  "[\x7b\"type\":\"function\",\"name\":\"f\",\"inputs\":[]," ++
    "\"outputs\":[\x7b\"name\":\"\",\"type\":\"address\"\x7d]\x7d," ++
    "\x7b\"type\":\"function\",\"name\":\"f\"," ++
    "\"inputs\":[\x7b\"name\":\"a\",\"type\":\"address\"\x7d]," ++
    "\"outputs\":[\x7b\"name\":\"\",\"type\":\"address\"\x7d]\x7d]"

/-- A world of contracts with these overloads, whose chains are the standard ones and where nothing
answers a call. -/
def bothAddressesWorld : World where
  lookup _ _ := ⟨0, .ok [{ chained with abi := some bothAddresses }]⟩
  call chain target method arguments :=
    ⟨0, Rpc.callAddress (m := Id) (fun _ => none) .standard chain target method arguments⟩

open Abi in
/-- The overload that fits is not called: the one in front of it is, and it takes no argument. -/
theorem overload_behind_first_not_called :
    let request : CallRequest := ⟨"0x9999999999999999999999999999999999999999", "f",
      ["0x1111111111111111111111111111111111111111"]⟩
    (∃ methods ∈ Interface.listed? bothAddresses, ∃ method ∈ methods,
        method.Answers request.function ∧ method.Accepts request.arguments) ∧
      (∃ chain, Config.standard.chain "ethereum" = .ok chain) ∧
      (deferredAddress bothAddressesWorld.network "ethereum" request 5000).value =
        .error (.rpc (.argumentCount "f" 0 1)) := by
  refine ⟨?_, ⟨_, rfl⟩, ?_⟩ <;> decide +kernel

end AddressTrace
