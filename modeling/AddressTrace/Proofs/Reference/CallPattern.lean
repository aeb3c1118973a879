import AddressTrace.Proofs.Data.Pointwise
import AddressTrace.Proofs.Declaration.Local
import AddressTrace.Proofs.Declaration.State
import AddressTrace.Proofs.Reference.Origins
import AddressTrace.Tree.Outline

/-!
# Which calls are found

The pass over calls finds a member exactly if it is called, its contract is known, and each argument
of the call has a value.  It looks at the member, its object and the call around it, and at the
values of identifiers; a call farther out is not asked, so a call among the arguments of another one
is found or not found for itself.

## Main definitions

* `HasValue` — the value that two tables have for an identifier;
* `IsOperand`, `IsArgument`, `IsTarget` — what a contract type is applied to, what a call is given,
  and the contract that a member is called on;
* `CallsFor` — a member is called, and what the call asks for;
* `SyntaxTree.judgedBy` — the nodes that the pass looks at for a member.

## Main statements

* `callFinding?_eq_some_iff` — the finding of one member;
* `callFinding?_setKind` — no other node matters, as long as blocks stay blocks;
* `callFindings_exact` — the findings of the pass, in their order.
-/

namespace AddressTrace

open Text SyntaxTree

/-! ### The pattern -/

/-- **The value that two tables have for an identifier**: the address of the local variable which
governs it, or else that of the nearest state variable that is not behind it. -/
inductive HasValue (t : SyntaxTree) (ds : Declarations) (id : NodeId) (name : String) :
    String → Prop
  | local {v : LocalVariable} (hv : ds.locals.Governing t id name v) :
      HasValue t ds id name v.address
  | state {span : Span} {start : Nat} {address : String}
      (hnone : ∀ v, ¬ ds.locals.Governing t id name v) (hspan : t.span? id = some span)
      (hnearest : ds.states.NearestIn name span.start start address) : HasValue t ds id name address

/-- **What a contract type can be applied to**: a number, or an identifier with a value. -/
inductive IsOperand (t : SyntaxTree) (ds : Declarations) (id : NodeId) : String → Prop
  | number {text : String} (h : t.kind? id = some (.number text)) : IsOperand t ds id text
  | identifier {name value : String} (h : t.kind? id = some (.identifier name))
      (hvalue : HasValue t ds id name value) : IsOperand t ds id value

/-- **What a call can be given**: a number, a string, or an identifier with a value. -/
inductive IsArgument (t : SyntaxTree) (ds : Declarations) (id : NodeId) : String → Prop
  | operand {value : String} (h : IsOperand t ds id value) : IsArgument t ds id value
  | string {value : String} (h : t.kind? id = some (.string value)) : IsArgument t ds id value

/-- **The contract that a member is called on**: a name applied to exactly one operand, or the name
of a library with a function of the name of the member. -/
inductive IsTarget (t : SyntaxTree) (ds : Declarations) (libraries : LinkedLibraries)
    (object : NodeId) (function : String) : String → Prop
  | cast {callee operand : NodeId} {name target : String}
      (hobject : t.kind? object = some (.call callee [operand]))
      (hcallee : t.kind? callee = some (.identifier name)) (h : IsOperand t ds operand target) :
      IsTarget t ds libraries object function target
  | library {name : String} {library : LinkedLibrary}
      (hobject : t.kind? object = some (.identifier name))
      (hlibrary : libraries.find? name = some library) (h : function ∈ library.functions) :
      IsTarget t ds libraries object function library.address

/-- **A member is called, and this is what the call asks for**: the member is what the node around
it calls, its object says on which contract, and each argument of the call has its value. -/
structure CallsFor (t : SyntaxTree) (ds : Declarations) (libraries : LinkedLibraries)
    (member call : NodeId) (request : CallRequest) : Prop where
  target : ∃ object, t.kind? member = some (.member object request.function) ∧
    IsTarget t ds libraries object request.function request.target
  parent?_eq : t.parent? member = some call
  arguments : ∃ arguments, t.kind? call = some (.call member arguments) ∧
    List.Forall₂ (IsArgument t ds) arguments request.arguments

variable {t : SyntaxTree} {ds : Declarations} {libraries : LinkedLibraries}

/-! ### The pass follows the pattern -/

theorem identifierValue?_eq_some {id : NodeId} {name value : String} :
    identifierValue? t ds id name = some value ↔ HasValue t ds id name value := by
  unfold identifierValue?
  cases hv : ds.locals.find? t id name with
  | some v =>
      constructor
      · intro h
        cases h
        exact .local (LocalTable.find?_eq_some.1 hv)
      · rintro (⟨hw⟩ | ⟨hnone, -, -⟩)
        · rw [LocalTable.find?_eq_some.2 hw] at hv
          cases hv
          rfl
        · exact absurd (LocalTable.find?_eq_some.1 hv) (hnone v)
  | none =>
      have hnone : ∀ v, ¬ ds.locals.Governing t id name v := by
        intro v hgoverning
        rw [LocalTable.find?_eq_some.2 hgoverning] at hv
        cases hv
      constructor
      · intro h
        obtain ⟨span, hspan, h⟩ := Option.bind_eq_some_iff.1 h
        obtain ⟨⟨start, address⟩, hfound, rfl⟩ := Option.map_eq_some_iff.1 h
        exact .state hnone hspan (StateTable.find?_eq_some.1 hfound)
      · rintro (⟨hw⟩ | ⟨-, hspan, hnearest⟩)
        · exact absurd hw (hnone _)
        · dsimp only
          rw [hspan, Option.bind_some, StateTable.find?_eq_some.2 hnearest, Option.map_some]

theorem castAddress?_eq_some {id : NodeId} {value : String} :
    castAddress? t ds id = some value ↔ IsOperand t ds id value := by
  unfold castAddress?
  constructor
  · intro h
    split at h
    · next hkind =>
        cases h
        exact .number hkind
    · next hkind => exact .identifier hkind (identifierValue?_eq_some.1 h)
    · cases h
  · rintro (⟨hkind⟩ | ⟨hkind, hvalue⟩)
    · rw [hkind]
    · rw [hkind]
      exact identifierValue?_eq_some.2 hvalue

theorem argumentValue?_eq_some {id : NodeId} {value : String} :
    argumentValue? t ds id = some value ↔ IsArgument t ds id value := by
  unfold argumentValue?
  constructor
  · intro h
    split at h
    · next hkind =>
        cases h
        exact .operand (.number hkind)
    · next hkind =>
        cases h
        exact .string hkind
    · next hkind => exact .operand (.identifier hkind (identifierValue?_eq_some.1 h))
    · cases h
  · rintro (⟨⟨hkind⟩ | ⟨hkind, hvalue⟩⟩ | ⟨hkind⟩)
    · rw [hkind]
    · rw [hkind]
      exact identifierValue?_eq_some.2 hvalue
    · rw [hkind]

theorem isIdentifier_iff {id : NodeId} :
    isIdentifier t id = true ↔ ∃ name, t.kind? id = some (.identifier name) := by
  unfold isIdentifier
  constructor
  · intro h
    split at h
    · next name hkind => exact ⟨name, hkind⟩
    · cases h
  · rintro ⟨name, hkind⟩
    rw [hkind]

theorem callTarget?_eq_some {object : NodeId} {function target : String} :
    callTarget? t ds libraries object function = some target ↔
      IsTarget t ds libraries object function target := by
  unfold callTarget?
  constructor
  · intro h
    split at h
    · next callee arguments hobject =>
        split at h
        · next operand =>
            split at h
            · next hcallee =>
                obtain ⟨name, hname⟩ := isIdentifier_iff.1 hcallee
                exact .cast hobject hname (castAddress?_eq_some.1 h)
            · cases h
        · cases h
    · next name hobject =>
        obtain ⟨library, hlibrary, h⟩ := Option.bind_eq_some_iff.1 h
        split at h
        · next hlisted =>
            cases h
            exact .library hobject hlibrary (List.contains_iff_mem.1 hlisted)
        · cases h
    · cases h
  · rintro (⟨hobject, hcallee, hoperand⟩ | ⟨hobject, hlibrary, hlisted⟩)
    · rw [hobject]
      dsimp only
      rw [if_pos (isIdentifier_iff.2 ⟨_, hcallee⟩), castAddress?_eq_some.2 hoperand]
    · rw [hobject]
      dsimp only
      rw [hlibrary, Option.bind_some, if_pos (List.contains_iff_mem.2 hlisted)]

/-- **The finding of a member** is the call that the pattern says. -/
theorem callFinding?_eq_some_iff {member : NodeId} {f : Finding} :
    callFinding? t ds libraries member = some f ↔
      ∃ call request, CallsFor t ds libraries member call request ∧
        f = ⟨member, some call, .pending request, .publicFunction⟩ := by
  rw [callFinding?_eq_some]
  constructor
  · rintro ⟨object, function, call, arguments, target, values, hkind, hcall, hcallkind, htarget,
      hvalues, rfl⟩
    refine ⟨call, ⟨target, function, values⟩,
      ⟨⟨object, hkind, ?_⟩, hcall, arguments, hcallkind, ?_⟩, rfl⟩
    · exact callTarget?_eq_some.1 htarget
    · exact (mapM_eq_some.1 hvalues).imp fun _ _ h => argumentValue?_eq_some.1 h
  · rintro ⟨call, ⟨target, function, values⟩,
      ⟨⟨object, hkind, htarget⟩, hcall, arguments, hcallkind, hvalues⟩, rfl⟩
    refine ⟨object, function, call, arguments, target, values, hkind, hcall, hcallkind, ?_, ?_, rfl⟩
    · exact callTarget?_eq_some.2 htarget
    · exact mapM_eq_some.2 (hvalues.imp fun _ _ h => argumentValue?_eq_some.2 h)

/-- A member has one finding if it is called so, and none if it is not. -/
theorem callsFor_iff {member call : NodeId} {request : CallRequest} :
    CallsFor t ds libraries member call request ↔
      callFinding? t ds libraries member =
        some ⟨member, some call, .pending request, .publicFunction⟩ := by
  rw [callFinding?_eq_some_iff]
  constructor
  · exact fun h => ⟨call, request, h, rfl⟩
  · rintro ⟨call', request', h, heq⟩
    cases heq
    exact h

/-! ### What a member is judged by -/

namespace SyntaxTree

/-- The nodes that the kind of a node mentions. -/
def mentionedBy (t : SyntaxTree) (id : NodeId) : List NodeId :=
  ((t.kind? id).map NodeKind.mentioned).getD []

/-- **The nodes that the pass looks at for a member**: the member, the node around it, what these
two mention, and what the object of the member mentions. -/
def judgedBy (t : SyntaxTree) (member : NodeId) : List NodeId :=
  member :: ((t.parent? member).toList ++ t.mentionedBy member ++
    (t.parent? member).toList.flatMap t.mentionedBy ++
    (t.mentionedBy member).flatMap t.mentionedBy)

theorem mentionedBy_eq {id : NodeId} {k : NodeKind} (h : t.kind? id = some k) :
    t.mentionedBy id = k.mentioned := by
  rw [mentionedBy, h]
  rfl

theorem mem_judgedBy {member id : NodeId} :
    id ∈ t.judgedBy member ↔
      id = member ∨ t.parent? member = some id ∨ id ∈ t.mentionedBy member ∨
        (∃ call, t.parent? member = some call ∧ id ∈ t.mentionedBy call) ∨
        ∃ object ∈ t.mentionedBy member, id ∈ t.mentionedBy object := by
  simp [judgedBy]

/-- Blocks stay blocks, and nothing becomes one. -/
theorem kind?_setKind_eq_block {n : NodeId} {kind : NodeKind} (hn : t.kind? n ≠ some .block)
    (hkind : kind ≠ .block) (id : NodeId) :
    (t.setKind n kind).kind? id = some .block ↔ t.kind? id = some .block := by
  by_cases hid : id = n
  · subst hid
    rw [kind?_setKind_self]
    constructor
    · intro h
      obtain ⟨_, -, heq⟩ := Option.map_eq_some_iff.1 h
      exact absurd heq hkind
    · exact fun h => absurd h hn
  · rw [kind?_setKind_of_ne t kind hid]

end SyntaxTree

section

variable {n : NodeId} {kind : NodeKind}

/-- Identifiers keep their values as long as blocks stay blocks. -/
theorem identifierValue?_setKind (hn : t.kind? n ≠ some .block) (hkind : kind ≠ .block)
    (id : NodeId) (name : String) :
    identifierValue? (t.setKind n kind) ds id name = identifierValue? t ds id name := by
  have hblock : ds.locals.inBlock? (t.setKind n kind) name = ds.locals.inBlock? t name := by
    funext block
    rw [LocalTable.inBlock?, LocalTable.inBlock?, span?_setKind]
    exact if_congr (kind?_setKind_eq_block hn hkind block) rfl rfl
  rw [identifierValue?, identifierValue?, LocalTable.find?, LocalTable.find?, ancestors_setKind,
    hblock, span?_setKind]

theorem argumentValue?_setKind (hn : t.kind? n ≠ some .block) (hkind : kind ≠ .block)
    {id : NodeId} (hid : id ≠ n) :
    argumentValue? (t.setKind n kind) ds id = argumentValue? t ds id := by
  unfold argumentValue?
  simp only [kind?_setKind_of_ne t kind hid, identifierValue?_setKind hn hkind]

theorem castAddress?_setKind (hn : t.kind? n ≠ some .block) (hkind : kind ≠ .block)
    {id : NodeId} (hid : id ≠ n) :
    castAddress? (t.setKind n kind) ds id = castAddress? t ds id := by
  unfold castAddress?
  simp only [kind?_setKind_of_ne t kind hid, identifierValue?_setKind hn hkind]

theorem callTarget?_setKind (hn : t.kind? n ≠ some .block) (hkind : kind ≠ .block)
    {object : NodeId} (hobject : object ≠ n) (hmentioned : n ∉ t.mentionedBy object)
    (function : String) :
    callTarget? (t.setKind n kind) ds libraries object function =
      callTarget? t ds libraries object function := by
  unfold callTarget?
  rw [kind?_setKind_of_ne t kind hobject]
  split
  · next callee arguments hcall =>
      rw [mentionedBy_eq hcall, NodeKind.mentioned, List.mem_cons, not_or] at hmentioned
      obtain ⟨hcallee, harguments⟩ := hmentioned
      split
      · next operand =>
          have hoperand : operand ≠ n := fun h => harguments (h ▸ List.mem_singleton_self _)
          rw [castAddress?_setKind hn hkind hoperand, isIdentifier, isIdentifier,
            kind?_setKind_of_ne t kind (Ne.symm hcallee)]
      · rfl
  · rfl
  · rfl

/-- **A member is judged by the nodes that the pass looks at for it.**  Any other node may become
anything else, as long as blocks stay blocks. -/
theorem callFinding?_setKind (hn : t.kind? n ≠ some .block) (hkind : kind ≠ .block)
    {member : NodeId} (hjudged : n ∉ t.judgedBy member) :
    callFinding? (t.setKind n kind) ds libraries member = callFinding? t ds libraries member := by
  rw [mem_judgedBy] at hjudged
  push Not at hjudged
  obtain ⟨hmember, hcall, hobject, harguments, hmentioned⟩ := hjudged
  unfold callFinding?
  rw [kind?_setKind_of_ne t kind (Ne.symm hmember), parent?_setKind]
  split
  · next object function hkindm =>
      rw [mentionedBy_eq hkindm, NodeKind.mentioned] at hobject hmentioned
      have hobject' : object ≠ n := fun h => hobject (h ▸ List.mem_singleton_self _)
      have htarget : callTarget? (t.setKind n kind) ds libraries object function =
          callTarget? t ds libraries object function :=
        callTarget?_setKind hn hkind hobject' (hmentioned object (List.mem_singleton_self _))
          function
      cases hparent : t.parent? member with
      | none => rfl
      | some call =>
          have hne : call ≠ n := fun h => hcall (h ▸ hparent)
          rw [Option.bind_eq_bind, Option.bind_eq_bind, Option.bind_some, Option.bind_some,
            kind?_setKind_of_ne t kind hne]
          split
          · next callee arguments hcallkind =>
              have hnot := harguments call hparent
              rw [mentionedBy_eq hcallkind, NodeKind.mentioned, List.mem_cons, not_or] at hnot
              have hvalues : arguments.mapM (argumentValue? (t.setKind n kind) ds) =
                  arguments.mapM (argumentValue? t ds) :=
                mapM_congr fun a ha => argumentValue?_setKind hn hkind fun h => hnot.2 (h ▸ ha)
              rw [htarget, hvalues]
          · rfl
  · rfl

end

/-! ### The findings of the pass -/

/-- The members that are called so, in the order of a walk. -/
def calledMembers (t : SyntaxTree) (ds : Declarations) (libraries : LinkedLibraries) :
    List NodeId :=
  t.walk.filter fun id => (callFinding? t ds libraries id).isSome

theorem mem_calledMembers (hl : t.Linked) {member : NodeId} :
    member ∈ calledMembers t ds libraries ↔
      ∃ call request, CallsFor t ds libraries member call request := by
  rw [calledMembers, List.mem_filter, Option.isSome_iff_exists]
  constructor
  · rintro ⟨-, f, hf⟩
    obtain ⟨call, request, h, -⟩ := callFinding?_eq_some_iff.1 hf
    exact ⟨call, request, h⟩
  · rintro ⟨call, request, h⟩
    refine ⟨?_, _, callsFor_iff.1 h⟩
    obtain ⟨_, hkind, -⟩ := h.target
    exact hl.mem_walk.2 (lt_size_of_kind? hkind)

/-- Among some nodes, those that are called so give one finding each. -/
theorem forall₂_callFindings (ids : List NodeId) :
    List.Forall₂ (fun id f => callFinding? t ds libraries id = some f)
      (ids.filter fun id => (callFinding? t ds libraries id).isSome)
      (ids.filterMap (callFinding? t ds libraries)) := by
  induction ids with
  | nil => exact .nil
  | cons id ids ih =>
      rw [List.filter_cons, List.filterMap_cons]
      cases hf : callFinding? t ds libraries id with
      | none => exact ih
      | some f => exact .cons hf ih

/-- **The pass over calls finds exactly the pattern.**  Its findings stand for some members in the
order of a walk, each of them once: those that are called on a known contract with arguments which
all have values.  The finding of a member asks for what its call says.  A member that the node
around it does not call, or with an argument that has no value, is not among them; and whether a
member is, and what is asked for, depends only on the nodes that the pass looks at for it, so not on
a call farther out. -/
theorem callFindings_exact (hb : t.Built) (ds : Declarations) (libraries : LinkedLibraries) :
    ∃ members : List NodeId, members.Sublist t.walk ∧ members.Nodup ∧
      (∀ m, m ∈ members ↔ ∃ call request, CallsFor t ds libraries m call request) ∧
      List.Forall₂ (fun m f => ∀ call request, CallsFor t ds libraries m call request ↔
          f = ⟨m, some call, .pending request, .publicFunction⟩)
        members (callFindings t ds libraries) ∧
      (∀ m call callee arguments, t.parent? m = some call →
        t.kind? call = some (.call callee arguments) →
        (callee ≠ m ∨ ∃ a ∈ arguments, ∀ value, ¬ IsArgument t ds a value) → m ∉ members) ∧
      ∀ m n kind, n ∉ t.judgedBy m → t.kind? n ≠ some .block → kind ≠ .block →
        ∀ call request, CallsFor (t.setKind n kind) ds libraries m call request ↔
          CallsFor t ds libraries m call request := by
  refine ⟨calledMembers t ds libraries, List.filter_sublist, hb.linked.nodup_walk.filter _,
    fun m => mem_calledMembers hb.linked, ?_, ?_, ?_⟩
  · refine (forall₂_callFindings t.walk).imp fun m f hf call request => ?_
    rw [callsFor_iff, hf, Option.some_inj]
  · intro m call callee arguments hparent hcall hvoid hmem
    obtain ⟨call', request, h⟩ := (mem_calledMembers hb.linked).1 hmem
    obtain ⟨arguments', hcall', hvalues⟩ := h.arguments
    obtain rfl : call = call' := Option.some.inj (hparent.symm.trans h.parent?_eq)
    rw [hcall] at hcall'
    cases hcall'
    rcases hvoid with hne | ⟨a, ha, hnone⟩
    · exact hne rfl
    · obtain ⟨value, -, hvalue⟩ := exists_of_forall₂ hvalues ha
      exact hnone value hvalue
  · intro m n kind hjudged hn hkind call request
    rw [callsFor_iff, callsFor_iff, callFinding?_setKind hn hkind hjudged]

/-- A contract with a state variable `s` that calls `J(0x33...).outer(I(s).owner("x"), I(s).f)`. -/
def callInArguments : SyntaxTree := ofOutlines
  [.node (.contract (some "c")) none
    [.node .stateDeclaration none
        [.node (.declared (some "s")) none [.node (.identifier "s") (some ⟨20, 21⟩) []],
          .node (.number "0x2222222222222222222222222222222222222222") none []],
      .node .call none
        [.node (.member "outer") none
            [.node .call none
              [.node (.identifier "J") none [],
                .node (.number "0x3333333333333333333333333333333333333333") none []]],
          .node .call none
            [.node (.member "owner") none
                [.node .call none
                  [.node (.identifier "I") none [],
                    .node (.identifier "s") (some ⟨90, 91⟩) []]],
              .node (.string "x") none []],
          .node (.member "f") none
            [.node .call none
              [.node (.identifier "I") none [], .node (.identifier "s") (some ⟨105, 106⟩) []]]]]]

/-- The inner call is found with its target and argument, the outer one is not, since its first
argument has no value, and the member among its arguments is not called. -/
theorem callFindings_exact_inArguments :
    callInArguments.Built ∧
      ⟨12, some 11, .pending ⟨"0x2222222222222222222222222222222222222222", "owner", ["x"]⟩,
        .publicFunction⟩ ∈ callFindings callInArguments (.ofTree callInArguments) .empty ∧
      ∃ members : List NodeId, 12 ∈ members ∧ 7 ∉ members ∧ 17 ∉ members ∧
        members.length =
          (callFindings callInArguments (.ofTree callInArguments) .empty).length := by
  have hb : callInArguments.Built := built_ofOutlines _
  obtain ⟨members, -, -, hmem, hfindings, hvoid, -⟩ :=
    callFindings_exact hb (.ofTree callInArguments) .empty
  have hinner : CallsFor callInArguments (.ofTree callInArguments) .empty 12 11
      ⟨"0x2222222222222222222222222222222222222222", "owner", ["x"]⟩ :=
    callsFor_iff.2 (by decide +kernel)
  have h12 : 12 ∈ members := (hmem 12).2 ⟨11, _, hinner⟩
  refine ⟨hb, ?_, members, h12, ?_, ?_, hfindings.length_eq⟩
  · obtain ⟨f, hf, hcalls⟩ := exists_of_forall₂ hfindings h12
    rw [(hcalls 11 _).1 hinner] at hf
    exact hf
  · refine hvoid 7 6 7 [11, 17] (by decide +kernel) (by decide +kernel) (.inr ⟨11, by decide, ?_⟩)
    intro value hvalue
    have hnone : argumentValue? callInArguments (.ofTree callInArguments) 11 = none := by
      decide +kernel
    rw [argumentValue?_eq_some.2 hvalue] at hnone
    cases hnone
  · exact hvoid 17 6 7 [11, 17] (by decide +kernel) (by decide +kernel) (.inl (by decide))

end AddressTrace
