import AddressTrace.Proofs.Reference.Placed

/-!
# Which pass a reference comes from

A reference of a collection is that of a finding of one of its passes, and its origin tells which
pass that is.  The findings of calls wait for an answer, and all others know their address.

## Main definitions

* `Pass.origin` — the kind of code that a pass looks for;
* `Finding.IsOf` — what the findings of a pass are like.

## Main statements

* `mem_references_collect` — references are those of the findings of the passes;
* `Pass.isOf_of_mem_findings` — the findings of a pass are like that;
* `callFinding?_eq_some` — what makes a node a call of another contract.
-/

namespace AddressTrace

open Text SyntaxTree

variable {file : SourceFile} {t : SyntaxTree} {ds : Declarations} {libraries : LinkedLibraries}

/-- **The kind of code that a pass looks for.** -/
def Pass.origin : Pass → Origin
  | .hardcoded => .hardcoded
  | .locals => .variable
  | .state => .state
  | .calls => .publicFunction

theorem Pass.origin_injective {p q : Pass} (h : p.origin = q.origin) : p = q := by
  cases p <;> cases q <;> first | rfl | cases h

/-- The reference of a finding tells all of it but its node. -/
theorem reference?_eq_some {f : Finding} {r : Reference} (h : file.reference? t f = some r) :
    t.span? f.node = some r.span ∧ r.resolution = f.resolution ∧ r.origin = f.origin ∧
      r.parent = f.parent := by
  obtain ⟨span, hspan, rfl⟩ := Option.map_eq_some_iff.1 h
  exact ⟨hspan, rfl, rfl, rfl⟩

/-- **A reference is that of a finding of one of the passes.** -/
theorem mem_references_collect {passes : List Pass} {r : Reference} :
    r ∈ (collect file t ds libraries passes).references ↔
      ∃ p ∈ passes, ∃ f ∈ p.findings t ds libraries, file.reference? t f = some r := by
  induction passes with
  | nil => simp [collect, Collection.empty]
  | cons p ps ih =>
      rw [collect_cons, Collection.append, List.mem_append, ih, Collection.ofFindings,
        List.mem_filterMap]
      simp

/-! ### The findings of the passes -/

/-- **What the findings of a pass are like.** -/
structure Finding.IsOf (f : Finding) (p : Pass) : Prop where
  origin_eq : f.origin = p.origin
  /-- Only the findings of calls wait for an answer. -/
  isPending_iff : f.resolution.isPending = true ↔ p = .calls

theorem Finding.isOf_resolved {id : NodeId} {parent : Option NodeId} {address : String} (p : Pass)
    (hp : p ≠ .calls) : Finding.IsOf ⟨id, parent, .resolved address, p.origin⟩ p :=
  ⟨rfl, by simp [Resolution.isPending, hp]⟩

theorem isOf_of_stateUse? {states : StateTable} {id : NodeId} {f : Finding}
    (h : stateUse? t states id = some f) : f.IsOf .state := by
  unfold stateUse? at h
  split at h
  · split at h
    · split at h
      · cases h
      · cases h
        exact Finding.isOf_resolved .state (by decide)
    · cases h
  · cases h

theorem isOf_of_mem_localUses {locals : LocalTable} {d : Declaration} {f : Finding}
    (h : f ∈ localUses t locals d) : f.IsOf .locals := by
  unfold localUses at h
  split at h
  · split at h
    · obtain ⟨id, -, h⟩ := List.mem_filterMap.1 h
      unfold localUse? at h
      split at h
      · split at h
        · cases h
          exact Finding.isOf_resolved .locals (by decide)
        · cases h
      · cases h
    · cases h
  · cases h

/-- **A node is a call of another contract** if it is a member that is called, with a known target
and known arguments. -/
theorem callFinding?_eq_some {id : NodeId} {f : Finding} :
    callFinding? t ds libraries id = some f ↔
      ∃ object function call arguments target values,
        t.kind? id = some (.member object function) ∧ t.parent? id = some call ∧
        t.kind? call = some (.call id arguments) ∧
        callTarget? t ds libraries object function = some target ∧
        arguments.mapM (argumentValue? t ds) = some values ∧
        f = ⟨id, some call, .pending ⟨target, function, values⟩, .publicFunction⟩ := by
  constructor
  · intro h
    unfold callFinding? at h
    split at h
    · next object function hkind =>
        obtain ⟨call, hcall, h⟩ := Option.bind_eq_some_iff.1 h
        split at h
        · next callee arguments hcallkind =>
            split at h
            · next heq =>
                subst heq
                obtain ⟨target, htarget, h⟩ := Option.bind_eq_some_iff.1 h
                obtain ⟨values, hvalues, h⟩ := Option.bind_eq_some_iff.1 h
                cases h
                exact ⟨object, function, call, arguments, target, values, hkind, hcall, hcallkind,
                  htarget, hvalues, rfl⟩
            · cases h
        · cases h
    · cases h
  · rintro ⟨object, function, call, arguments, target, values, hkind, hcall, hcallkind, htarget,
      hvalues, rfl⟩
    simp [callFinding?, hkind, hcall, hcallkind, htarget, hvalues]

/-- **The findings of a pass** have its origin, and those of calls wait for an answer. -/
theorem Pass.isOf_of_mem_findings {p : Pass} {f : Finding}
    (h : f ∈ p.findings t ds libraries) : f.IsOf p := by
  cases p with
  | hardcoded =>
      obtain ⟨id, -, h⟩ := List.mem_filterMap.1 h
      obtain ⟨address, -, rfl⟩ := Option.map_eq_some_iff.1 h
      exact Finding.isOf_resolved .hardcoded (by decide)
  | locals =>
      obtain ⟨d, -, h⟩ := List.mem_flatMap.1 h
      rcases List.mem_cons.1 h with rfl | h
      · exact Finding.isOf_resolved .locals (by decide)
      · exact isOf_of_mem_localUses h
  | state =>
      rcases List.mem_append.1 h with h | h
      · obtain ⟨d, -, rfl⟩ := List.mem_map.1 h
        exact Finding.isOf_resolved .state (by decide)
      · obtain ⟨id, -, h⟩ := List.mem_filterMap.1 h
        exact isOf_of_stateUse? h
  | calls =>
      obtain ⟨id, -, h⟩ := List.mem_filterMap.1 h
      obtain ⟨_, _, _, _, _, _, -, -, -, -, -, rfl⟩ := callFinding?_eq_some.1 h
      exact ⟨rfl, by simp [Resolution.isPending]⟩

/-- **A reference of an origin comes from the pass that looks for it.** -/
theorem exists_finding_of_origin {passes : List Pass} {r : Reference} {p : Pass}
    (h : r ∈ (collect file t ds libraries passes).references) (hp : r.origin = p.origin) :
    p ∈ passes ∧ ∃ f ∈ p.findings t ds libraries, file.reference? t f = some r := by
  obtain ⟨q, hq, f, hf, hr⟩ := mem_references_collect.1 h
  have horigin := (reference?_eq_some hr).2.2.1
  rw [hp, (Pass.isOf_of_mem_findings hf).origin_eq] at horigin
  obtain rfl := Pass.origin_injective horigin
  exact ⟨hq, f, hf, hr⟩

end AddressTrace
