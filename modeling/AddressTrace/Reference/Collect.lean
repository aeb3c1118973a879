import AddressTrace.Declaration.Local
import AddressTrace.Declaration.State
import AddressTrace.Linkage.Library
import AddressTrace.Reference.Basic

/-!
# Collecting references

Four passes over a tree find the nodes that produce an address: literals, local variables, state
variables, and calls of other contracts.  The passes run on one collection, which places each
finding in the file as it comes and counts those that have no place.

## Main definitions

* `Finding` — a node that produces an address;
* `hardcodedFindings`, `localFindings`, `stateFindings`, `callFindings` — the four passes;
* `Collection.emit` — a finding is placed or counted;
* `Pass.run`, `collect` — what a pass, or some passes one after the other, leave in a collection;
* `Collection.ofFindings` — the references of some findings, in their order.

## Main statements

`length_references_ofFindings` says that each finding is placed or counted, `Pass.run_eq` what a
pass adds to a collection, and `collect_cons` that the passes do not know of each
other.
-/

namespace AddressTrace

open Text

/-- **A node that produces an address**, before it is placed in the file. -/
structure Finding where
  node : NodeId
  parent : Option NodeId
  resolution : Resolution
  origin : Origin
deriving Repr, DecidableEq

/-- What the passes know of the declarations of a tree. -/
structure Declarations where
  locals : LocalTable
  localDeclarations : List Declaration
  states : StateTable
  stateDeclarations : List Declaration

/-- The declarations of a tree and their tables. -/
def Declarations.ofTree (t : SyntaxTree) : Declarations :=
  ⟨.ofTree t, AddressTrace.localDeclarations t, .ofTree t, AddressTrace.stateDeclarations t⟩

/-! ### Literals -/

/-- The finding of a node that is an address literal. -/
def hardcodedFinding? (t : SyntaxTree) (id : NodeId) : Option Finding :=
  (addressLiteral? t id).map fun address =>
    ⟨id, t.parent? id, .resolved address, .hardcoded⟩

/-- **Every address literal**, wherever it stands. -/
def hardcodedFindings (t : SyntaxTree) : List Finding :=
  t.walk.filterMap (hardcodedFinding? t)

/-! ### Local variables -/

/-- The finding of the identifier that declares a variable. -/
def Declaration.finding (origin : Origin) (d : Declaration) : Finding :=
  ⟨d.identifier, d.parent, .resolved d.address, origin⟩

/-- The finding of an identifier that is governed by a declaration, the declaring one apart, which
stands on the bytes `declaration`. -/
def localUse? (t : SyntaxTree) (locals : LocalTable) (d : Declaration) (declaration : Span)
    (id : NodeId) : Option Finding :=
  match t.kind? id with
  | some (.identifier name) =>
    if name = d.name ∧ t.span? id ≠ some declaration
        ∧ (locals.find? t id name).map (·.declaration) = some declaration then
      some ⟨id, t.parent? id, .resolved d.address, .variable⟩
    else none
  | _ => none

/-- The uses of a declaration that stands directly in a block. -/
def localUses (t : SyntaxTree) (locals : LocalTable) (d : Declaration) : List Finding :=
  match d.parent, t.span? d.identifier with
  | some block, some declaration =>
    if t.kind? block = some .block then
      (t.walkFrom block).filterMap (localUse? t locals d declaration)
    else []
  | _, _ => []

/-- **Each local declaration, followed by its uses** in its block. -/
def localFindings (t : SyntaxTree) (locals : LocalTable) (declarations : List Declaration) :
    List Finding :=
  declarations.flatMap fun d => d.finding .variable :: localUses t locals d

/-! ### State variables -/

/-- The finding of an identifier that stands for a state variable.  At the offset of a declaration
the identifier is the declaring one. -/
def stateUse? (t : SyntaxTree) (states : StateTable) (id : NodeId) : Option Finding :=
  match t.kind? id, t.span? id with
  | some (.identifier name), some span =>
    match states.find? name span.start with
    | some (offset, address) =>
      if offset = span.start then none else some ⟨id, t.parent? id, .resolved address, .state⟩
    | none => none
  | _, _ => none

/-- **Each state declaration, then every identifier that stands for one**, even where a local
variable has the same name. -/
def stateFindings (t : SyntaxTree) (states : StateTable) (declarations : List Declaration) :
    List Finding :=
  declarations.map (Declaration.finding .state) ++ t.walk.filterMap (stateUse? t states)

/-! ### Calls -/

/-- The value of an identifier: that of the local variable which governs it, or else of the state
variable which it stands for. -/
def identifierValue? (t : SyntaxTree) (ds : Declarations) (id : NodeId) (name : String) :
    Option String :=
  match ds.locals.find? t id name with
  | some var => some var.address
  | none => (t.span? id).bind fun span => (ds.states.find? name span.start).map Prod.snd

/-- The value of an argument of a call. -/
def argumentValue? (t : SyntaxTree) (ds : Declarations) (id : NodeId) : Option String :=
  match t.kind? id with
  | some (.number text) => some text
  | some (.string value) => some value
  | some (.identifier name) => identifierValue? t ds id name
  | _ => none

/-- The address that a contract type is applied to: a number or an identifier with a value. -/
def castAddress? (t : SyntaxTree) (ds : Declarations) (id : NodeId) : Option String :=
  match t.kind? id with
  | some (.number text) => some text
  | some (.identifier name) => identifierValue? t ds id name
  | _ => none

/-- Is this node an identifier? -/
def isIdentifier (t : SyntaxTree) (id : NodeId) : Bool :=
  match t.kind? id with
  | some (.identifier _) => true
  | _ => false

/-- **The contract that a member is called on**, if the source says which one: a name applied to
one address, or a library with a function of that name which returns an address. -/
def callTarget? (t : SyntaxTree) (ds : Declarations) (libraries : LinkedLibraries)
    (object : NodeId) (function : String) : Option String :=
  match t.kind? object with
  | some (.call callee arguments) =>
    match arguments with
    | [address] => if isIdentifier t callee then castAddress? t ds address else none
    | _ => none
  | some (.identifier name) =>
    (libraries.find? name).bind fun library =>
      if library.functions.contains function then some library.address else none
  | _ => none

/-- The finding of a member that is called, with a known target and known arguments.  A member
that is itself an argument is not called. -/
def callFinding? (t : SyntaxTree) (ds : Declarations) (libraries : LinkedLibraries)
    (id : NodeId) : Option Finding :=
  match t.kind? id with
  | some (.member object function) => do
    let call ← t.parent? id
    match t.kind? call with
    | some (.call callee arguments) =>
      if callee = id then
        let target ← callTarget? t ds libraries object function
        let values ← arguments.mapM (argumentValue? t ds)
        return ⟨id, some call, .pending ⟨target, function, values⟩, .publicFunction⟩
      else none
    | _ => none
  | _ => none

/-- **Calls that return an address and can be made without running the contract.** -/
def callFindings (t : SyntaxTree) (ds : Declarations) (libraries : LinkedLibraries) :
    List Finding :=
  t.walk.filterMap (callFinding? t ds libraries)

/-! ### Placing the findings -/

/-- **The file that references are reported in.** -/
structure SourceFile where
  path : String
  contractName : String
  lines : LineIndex

/-- The file of a text. -/
def SourceFile.ofText (path contractName text : String) : SourceFile :=
  ⟨path, contractName, .ofText text⟩

/-- A finding placed in the file, if its node has a place. -/
def SourceFile.reference? (file : SourceFile) (t : SyntaxTree) (f : Finding) : Option Reference :=
  (t.span? f.node).map fun span =>
    { contractPath := file.path
      contractName := file.contractName
      resolution := f.resolution
      first := file.lines.position span.start
      last := file.lines.position span.stop
      span := span
      origin := f.origin
      parent := f.parent }

/-- **The references found so far**, and the number of findings without a place. -/
structure Collection where
  references : List Reference
  skipped : Nat
deriving Repr, DecidableEq

namespace Collection

/-- The collection without references. -/
def empty : Collection := ⟨[], 0⟩

/-- Two collections one after the other. -/
def append (a b : Collection) : Collection :=
  ⟨a.references ++ b.references, a.skipped + b.skipped⟩

/-- **Places a finding** behind the references found so far, or counts it if its node has no
place. -/
def emit (file : SourceFile) (t : SyntaxTree) (c : Collection) (f : Finding) : Collection :=
  match file.reference? t f with
  | some r => { c with references := c.references ++ [r] }
  | none => { c with skipped := c.skipped + 1 }

/-- Places some findings one after the other. -/
def emitAll (file : SourceFile) (t : SyntaxTree) (c : Collection) (findings : List Finding) :
    Collection :=
  findings.foldl (emit file t) c

/-- **The collection of some findings**, in their order. -/
def ofFindings (file : SourceFile) (t : SyntaxTree) (findings : List Finding) : Collection where
  references := findings.filterMap (file.reference? t)
  skipped := findings.countP fun f => (t.span? f.node).isNone

@[simp] theorem empty_append (c : Collection) : empty.append c = c := by
  simp [empty, append]

@[simp] theorem append_empty (c : Collection) : c.append empty = c := by
  simp [empty, append]

theorem append_assoc (a b c : Collection) : (a.append b).append c = a.append (b.append c) := by
  simp [append, Nat.add_assoc]

/-- The findings of two passes are placed one by one. -/
theorem ofFindings_append (file : SourceFile) (t : SyntaxTree) (l₁ l₂ : List Finding) :
    ofFindings file t (l₁ ++ l₂) = (ofFindings file t l₁).append (ofFindings file t l₂) := by
  simp [ofFindings, append]

/-- Each finding is placed or counted. -/
theorem length_references_ofFindings (file : SourceFile) (t : SyntaxTree) (l : List Finding) :
    (ofFindings file t l).references.length + (ofFindings file t l).skipped = l.length := by
  induction l with
  | nil => rfl
  | cons f fs ih =>
    cases h : t.span? f.node <;>
      simp_all [ofFindings, SourceFile.reference?] <;> omega

/-- One more finding comes behind those that are there. -/
theorem emit_eq (file : SourceFile) (t : SyntaxTree) (c : Collection) (f : Finding) :
    c.emit file t f = c.append (ofFindings file t [f]) := by
  rw [emit, SourceFile.reference?, append, ofFindings]
  cases h : t.span? f.node <;> simp [SourceFile.reference?, h]

/-- Findings that are placed one by one come behind those that are there, in their order. -/
theorem emitAll_eq (file : SourceFile) (t : SyntaxTree) (c : Collection) (l : List Finding) :
    c.emitAll file t l = c.append (ofFindings file t l) := by
  induction l generalizing c with
  | nil => exact (append_empty c).symm
  | cons f fs ih =>
    have hstep : c.emitAll file t (f :: fs) = (c.emit file t f).emitAll file t fs := rfl
    rw [hstep, ih, emit_eq, append_assoc, ← ofFindings_append, List.singleton_append]

end Collection

/-- One of the four passes. -/
inductive Pass
  | hardcoded
  | locals
  | state
  | calls
deriving Repr, DecidableEq

/-- All passes in the order of reports. -/
def Pass.all : List Pass := [.hardcoded, .locals, .state, .calls]

/-- The findings of a pass. -/
def Pass.findings (t : SyntaxTree) (ds : Declarations) (libraries : LinkedLibraries) :
    Pass → List Finding
  | .hardcoded => hardcodedFindings t
  | .locals => localFindings t ds.locals ds.localDeclarations
  | .state => stateFindings t ds.states ds.stateDeclarations
  | .calls => callFindings t ds libraries

/-- **Runs a pass**, which places what it finds behind the references of the passes before it.  The
pass over local variables places each declaration before it looks for the uses. -/
def Pass.run (file : SourceFile) (t : SyntaxTree) (ds : Declarations)
    (libraries : LinkedLibraries) (c : Collection) : Pass → Collection
  | .hardcoded => c.emitAll file t (hardcodedFindings t)
  | .locals =>
    ds.localDeclarations.foldl
      (fun c d => (c.emit file t (d.finding .variable)).emitAll file t (localUses t ds.locals d)) c
  | .state =>
    (c.emitAll file t (ds.stateDeclarations.map (Declaration.finding .state))).emitAll file t
      (t.walk.filterMap (stateUse? t ds.states))
  | .calls => c.emitAll file t (callFindings t ds libraries)

/-- **The references of some passes**, which run one after the other on one collection. -/
def collect (file : SourceFile) (t : SyntaxTree) (ds : Declarations)
    (libraries : LinkedLibraries) (passes : List Pass) : Collection :=
  passes.foldl (Pass.run file t ds libraries) .empty

/-- The declarations and uses that are placed turn by turn are the findings of local variables. -/
theorem foldl_emit_locals (file : SourceFile) (t : SyntaxTree) (locals : LocalTable)
    (declarations : List Declaration) (c : Collection) :
    declarations.foldl
        (fun c d => (c.emit file t (d.finding .variable)).emitAll file t (localUses t locals d)) c =
      c.append (.ofFindings file t (localFindings t locals declarations)) := by
  induction declarations generalizing c with
  | nil => exact (Collection.append_empty c).symm
  | cons d ds ih =>
    rw [List.foldl_cons, ih, Collection.emitAll_eq, Collection.emit_eq, Collection.append_assoc,
      Collection.append_assoc, ← Collection.ofFindings_append, ← Collection.ofFindings_append]
    rfl

/-- **A pass adds its findings to a collection, whatever is there already.** -/
theorem Pass.run_eq (file : SourceFile) (t : SyntaxTree) (ds : Declarations)
    (libraries : LinkedLibraries) (c : Collection) (p : Pass) :
    p.run file t ds libraries c = c.append (.ofFindings file t (p.findings t ds libraries)) := by
  cases p with
  | hardcoded => exact Collection.emitAll_eq ..
  | locals => exact foldl_emit_locals ..
  | state =>
    rw [run, Collection.emitAll_eq, Collection.emitAll_eq, Collection.append_assoc,
      ← Collection.ofFindings_append]
    rfl
  | calls => exact Collection.emitAll_eq ..

/-- The references of a pass stand in front of those of the passes after it. -/
theorem collect_cons (file : SourceFile) (t : SyntaxTree) (ds : Declarations)
    (libraries : LinkedLibraries) (p : Pass) (ps : List Pass) :
    collect file t ds libraries (p :: ps) =
      (Collection.ofFindings file t (p.findings t ds libraries)).append
        (collect file t ds libraries ps) := by
  have h : ∀ (ps : List Pass) (c : Collection),
      ps.foldl (Pass.run file t ds libraries) c = c.append (collect file t ds libraries ps) := by
    intro ps
    induction ps with
    | nil => exact fun c => (Collection.append_empty c).symm
    | cons q qs ih =>
      intro c
      rw [collect, List.foldl_cons, List.foldl_cons, ih, ih, Pass.run_eq, Pass.run_eq,
        Collection.empty_append, Collection.append_assoc]
  rw [collect, List.foldl_cons, h, Pass.run_eq, Collection.empty_append]

end AddressTrace
