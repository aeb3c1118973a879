import AddressTrace.Resolve.Analysis

/-!
# What becomes of pending references

Some references wait for a call.  Their calls are made one for each, in the order of the references,
and what comes of the calls is put back where they were asked for: a reference gets the address that
its own call gave, or is dropped with its own failure.  The others stay as they are.

## Main definitions

* `requests` — the calls that references wait for;
* `distribute` — each reference with the outcome of its own call;
* `ContractRecord.collected`, `Analysis.assemble` — what is found, and what is made of it;
* `Settled`, `Accounts` — what may become of references, and what an analysis owes to them.

## Main statements

* `analyse_eq` — an analysis asks for the requests, and is assembled from their outcomes;
* `settled_distribute` — settling each reference with what it was given settles them all;
* `accounts_assemble` — an analysis accounts for each reference that was found.
-/

namespace AddressTrace

variable {references out : List Reference} {outcomes : List (Except Failure String)}

/-- **The calls that some references wait for**, in the order of the references. -/
def requests (references : List Reference) : List CallRequest :=
  references.filterMap Reference.request?

/-- **Each reference with the outcome of its call**, if it waits for one.  The outcomes are those of
the pending references, in their order. -/
def distribute : List Reference → List (Except Failure String) →
    List (Option (Except Failure String))
  | [], _ => []
  | r :: references, outcomes =>
    match r.request?, outcomes with
    | some _, outcome :: outcomes => some outcome :: distribute references outcomes
    | _, outcomes => none :: distribute references outcomes

/-- **The analysis of a file**, from the references that were found, the number of libraries that
could not be loaded, and the outcomes of the calls. -/
def Analysis.assemble (found : Collection) (failed : Nat)
    (outcomes : List (Except Failure String)) : Analysis :=
  let given := distribute found.references outcomes
  { references := (found.references.zip given).filterMap fun e => e.1.settle e.2
    report := ⟨false, found.skipped, failed, given.countP isDropped⟩ }

/-- **The references of a record**, those of all passes. -/
def ContractRecord.collected (record : ContractRecord) (tree : SyntaxTree)
    (libraries : LinkedLibraries) : Collection :=
  collect (.ofText record.path record.name record.sourceCode) tree (.ofTree tree) libraries
    Pass.all

/-- The references of literals come first, then those of local variables, of state variables and of
calls. -/
theorem ContractRecord.collected_eq (record : ContractRecord) (tree : SyntaxTree)
    (libraries : LinkedLibraries) :
    let placed := Collection.ofFindings (.ofText record.path record.name record.sourceCode) tree
    let locals := localFindings tree (.ofTree tree) (localDeclarations tree)
    let states := stateFindings tree (.ofTree tree) (stateDeclarations tree)
    record.collected tree libraries =
      (placed (hardcodedFindings tree)).append ((placed locals).append ((placed states).append
        (placed (callFindings tree (.ofTree tree) libraries)))) := by
  simp only [collected, Pass.all, collect_cons]
  rw [show ∀ file ds, collect file tree ds libraries [] = .empty from fun _ _ => rfl,
    Collection.append_empty]
  rfl

section Heads

variable {r : Reference} {request : CallRequest}

@[simp] theorem requests_nil : requests [] = [] := rfl

theorem requests_cons_of_none (known : r.request? = none) :
    requests (r :: references) = requests references :=
  List.filterMap_cons_none known

theorem requests_cons_of_some (pending : r.request? = some request) :
    requests (r :: references) = request :: requests references :=
  List.filterMap_cons_some pending

@[simp] theorem distribute_nil : distribute [] outcomes = [] := rfl

theorem distribute_cons_of_none (known : r.request? = none) :
    distribute (r :: references) outcomes = none :: distribute references outcomes := by
  simp only [distribute, known]

theorem distribute_cons_of_some (pending : r.request? = some request)
    (outcome : Except Failure String) :
    distribute (r :: references) (outcome :: outcomes) =
      some outcome :: distribute references outcomes := by
  simp only [distribute, pending]

end Heads

/-! ### Asking -/

section Asking

variable {m : Type → Type} [Monad m] [LawfulMonad m]

/-- **Each reference is asked for its own call**: asking one after the other is asking for the
requests in their order. -/
theorem mapM_outcomeOf (net : Network m) (chain : String) (limit : Nat)
    (references : List Reference) :
    references.mapM (outcomeOf net chain limit) =
      distribute references <$> (requests references).mapM (deferredAddress net chain · limit) := by
  induction references with
  | nil => simp
  | cons r references ih =>
    rw [List.mapM_cons, ih]
    cases hrequest : r.request? with
    | none =>
      have hgiven : distribute (r :: references) =
          fun given => none :: distribute references given :=
        funext fun _ => distribute_cons_of_none hrequest
      simp [outcomeOf, hrequest, requests_cons_of_none, hgiven]
    | some request => simp [outcomeOf, hrequest, requests_cons_of_some, distribute_cons_of_some]

/-- **An analysis in terms of its requests**: the libraries are loaded, the requests are asked for,
and the analysis is assembled from what was found and from the outcomes. -/
theorem analyse_eq (net : Network m) (options : Options) {record : ContractRecord}
    {tree : SyntaxTree} (hsource : SyntaxTree.ofSource? record.sourceCode = some tree) :
    analyse net options record = do
      let (libraries, failed) ←
        callableLibraries net record.address record.chain options.maxLibraryDepth
      let found := record.collected tree libraries
      let outcomes ← (requests found.references).mapM
        (deferredAddress net record.chain · options.callTimeout)
      return .assemble found failed outcomes := by
  simp only [analyse, hsource, mapM_outcomeOf, bind_map_left]
  rfl

end Asking

/-! ### Settling -/

/-- **What becomes of references** of which each pending one has an outcome, in their order. -/
inductive Settled : List Reference → List (Except Failure String) → List Reference → Prop
  | nil : Settled [] [] []
  /-- A reference whose address is known stays as it is. -/
  | kept {r : Reference} {references outcomes out} (known : r.request? = none)
      (rest : Settled references outcomes out) : Settled (r :: references) outcomes (r :: out)
  /-- A pending reference takes the address that its call gave, and nothing else of it changes. -/
  | resolved {r : Reference} {references outcomes out} {request : CallRequest}
      (pending : r.request? = some request) (address : String)
      (rest : Settled references outcomes out) :
      Settled (r :: references) (.ok address :: outcomes)
        ({ r with resolution := .resolved address } :: out)
  /-- A pending reference whose call failed is dropped. -/
  | dropped {r : Reference} {references outcomes out} {request : CallRequest}
      (pending : r.request? = some request) (failure : Failure)
      (rest : Settled references outcomes out) :
      Settled (r :: references) (.error failure :: outcomes) out

/-- **The references settled with the outcomes distributed over them.**  One outcome is used for
each pending reference, so the two lists never get out of step. -/
theorem settled_distribute (h : outcomes.length = (requests references).length) :
    Settled references outcomes
      ((references.zip (distribute references outcomes)).filterMap fun e => e.1.settle e.2) := by
  induction references generalizing outcomes with
  | nil =>
    obtain rfl := List.eq_nil_of_length_eq_zero h
    exact .nil
  | cons r references ih =>
    cases hrequest : r.request? with
    | none =>
      rw [requests_cons_of_none hrequest] at h
      rw [distribute_cons_of_none hrequest]
      exact .kept hrequest (ih h)
    | some request =>
      rw [requests_cons_of_some hrequest, List.length_cons] at h
      obtain ⟨outcome, outcomes, rfl⟩ := List.exists_cons_of_length_eq_add_one h
      rw [distribute_cons_of_some hrequest]
      have hrest := ih (Nat.succ.inj h)
      cases outcome with
      | ok address => exact .resolved hrequest address hrest
      | error failure => exact .dropped hrequest failure hrest

/-- A reference without its address: what a call does not change. -/
def Reference.place (r : Reference) : Reference := { r with resolution := .resolved "" }

/-- A call changes the address of its reference only. -/
theorem Reference.place_of_settle {r settled : Reference}
    {outcome : Option (Except Failure String)} (h : r.settle outcome = some settled) :
    settled.place = r.place := by
  rcases outcome with _ | failure | address
  · cases h
    rfl
  · cases h
  · cases h
    rfl

theorem Reference.isPending_eq (r : Reference) : r.isPending = r.request?.isSome := by
  rw [isPending, request?]
  cases r.resolution <;> rfl

namespace Settled

/-- Nothing is left to be called. -/
theorem not_pending (h : Settled references outcomes out) : ∀ r ∈ out, r.isPending = false := by
  induction h with
  | nil => simp
  | kept known _ ih =>
    exact List.forall_mem_cons.mpr ⟨by rw [Reference.isPending_eq, known]; rfl, ih⟩
  | resolved _ address _ ih => exact List.forall_mem_cons.mpr ⟨rfl, ih⟩
  | dropped _ _ _ ih => exact ih

/-- The order stays, and of each reference all but the address. -/
theorem sublist_place (h : Settled references outcomes out) :
    (out.map Reference.place).Sublist (references.map Reference.place) := by
  induction h with
  | nil => exact .slnil
  | kept _ _ ih => exact ih.cons_cons _
  | resolved _ _ _ ih => exact ih.cons_cons _
  | dropped _ _ _ ih => exact ih.cons _

/-- The references that were not pending are all there, unchanged and in their order. -/
theorem sublist_known (h : Settled references outcomes out) :
    (references.filter fun r => !r.isPending).Sublist out := by
  induction h with
  | nil => exact .slnil
  | kept known _ ih =>
    rw [List.filter_cons_of_pos (by simp [Reference.isPending_eq, known])]
    exact ih.cons_cons _
  | resolved pending _ _ ih =>
    rw [List.filter_cons_of_neg (by simp [Reference.isPending_eq, pending])]
    exact ih.cons _
  | dropped pending _ _ ih =>
    rw [List.filter_cons_of_neg (by simp [Reference.isPending_eq, pending])]
    exact ih

/-- Each reference is there, or one failure is counted for it. -/
theorem length_add_countP (h : Settled references outcomes out) :
    out.length + (distribute references outcomes).countP isDropped = references.length := by
  induction h with
  | nil => rfl
  | kept known _ ih =>
    rw [distribute_cons_of_none known, List.countP_cons_of_neg (by simp [isDropped]),
      List.length_cons, List.length_cons, ← ih]
    omega
  | resolved pending _ _ ih =>
    rw [distribute_cons_of_some pending, List.countP_cons_of_neg (by simp [isDropped]),
      List.length_cons, List.length_cons, ← ih]
    omega
  | dropped pending _ _ ih =>
    rw [distribute_cons_of_some pending, List.countP_cons_of_pos rfl, List.length_cons, ← ih]
    omega

end Settled

/-- **What an analysis owes to the references that were found**, given the outcomes of their calls
in the order of the pending ones. -/
structure Accounts (found : Collection) (outcomes : List (Except Failure String))
    (analysis : Analysis) : Prop where
  /-- Each pending reference has the address that its own call gave, or is not there. -/
  settled : Settled found.references outcomes analysis.references
  /-- No call is left to be made. -/
  not_pending : ∀ r ∈ analysis.references, r.isPending = false
  /-- The references stand in the order in which they were found, and only addresses change. -/
  in_order :
    (analysis.references.map Reference.place).Sublist (found.references.map Reference.place)
  /-- The references whose address was known are there as they were found. -/
  known : (found.references.filter fun r => !r.isPending).Sublist analysis.references
  /-- Those that are not there are counted. -/
  counted : analysis.references.length + analysis.report.dropped = found.references.length

/-- **An analysis accounts for each reference** that was found. -/
theorem accounts_assemble (found : Collection) (failed : Nat)
    (h : outcomes.length = (requests found.references).length) :
    Accounts found outcomes (.assemble found failed outcomes) :=
  have hsettled := settled_distribute h
  { settled := hsettled
    not_pending := hsettled.not_pending
    in_order := hsettled.sublist_place
    known := hsettled.sublist_known
    counted := hsettled.length_add_countP }

end AddressTrace
