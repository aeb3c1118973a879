import AddressTrace.Proofs.Tree.Kinds
import AddressTrace.Reference.Collect
import Mathlib.Algebra.GroupWithZero.Nat

/-!
# Placing the findings of the passes

A pass that is run alone gives its findings as references, one for each finding whose node has a
known place, and counts the others.  Passes that are run one after the other on one collection give
what each of them gives alone.

## Main statements

* `collect_singleton` — one pass alone;
* `SourceFile.exists_reference?` — a finding at a known place has a reference;
* `Collection.map_some_references` — findings that all have places are all given, one by one;
* `passes_independent` — no pass sees what those before it left.
-/

namespace AddressTrace

open Text SyntaxTree

/-- One pass alone gives its own findings. -/
theorem collect_singleton (file : SourceFile) (t : SyntaxTree) (ds : Declarations)
    (libraries : LinkedLibraries) (p : Pass) :
    collect file t ds libraries [p] = .ofFindings file t (p.findings t ds libraries) := by
  rw [collect_cons]
  exact Collection.append_empty _

/-- A finding at a known place has a reference. -/
theorem SourceFile.exists_reference? (file : SourceFile) {t : SyntaxTree} {f : Finding}
    {span : Span} (h : t.span? f.node = some span) : ∃ r, file.reference? t f = some r := by
  rw [reference?, h]
  exact ⟨_, rfl⟩

namespace Collection

variable {file : SourceFile} {t : SyntaxTree} {findings : List Finding}

/-- Findings that all have places are all given. -/
theorem skipped_eq_zero (h : ∀ f ∈ findings, (t.span? f.node).isSome) :
    (ofFindings file t findings).skipped = 0 := by
  apply List.countP_eq_zero.2
  intro f hf hnone
  rw [Option.isNone_iff_eq_none] at hnone
  have hsome := h f hf
  rw [hnone] at hsome
  cases hsome

/-- The findings that have places are given one by one, each as the reference that it is. -/
theorem map_some_references_eq_filter (file : SourceFile) (t : SyntaxTree)
    (findings : List Finding) :
    (ofFindings file t findings).references.map some =
      (findings.filter fun f => (t.span? f.node).isSome).map (file.reference? t) := by
  induction findings with
  | nil => rfl
  | cons f fs ih =>
      have hcons : (ofFindings file t (f :: fs)).references =
          (file.reference? t f).toList ++ (ofFindings file t fs).references := by
        rw [ofFindings, List.filterMap_cons]
        cases file.reference? t f <;> rfl
      rw [hcons, List.map_append, ih]
      cases hspan : t.span? f.node with
      | none =>
          rw [List.filter_cons_of_neg (by simp [hspan]), SourceFile.reference?, hspan]
          rfl
      | some span =>
          obtain ⟨r, hr⟩ := file.exists_reference? hspan
          rw [List.filter_cons_of_pos (by simp [hspan]), List.map_cons, hr]
          rfl

end Collection

/-- **The passes are independent.**

Passes that run on one collection, in any order and as often as one likes, give the references that
each of them gives alone, one pass after the other, and skip as many findings as they skip alone.  A
pass that runs alone gives or skips each of its findings: it gives those whose nodes have a place,
in their order and as what they are there, and skips those whose nodes have none. -/
theorem passes_independent (file : SourceFile) (t : SyntaxTree) (ds : Declarations)
    (libraries : LinkedLibraries) :
    (∀ passes,
      (collect file t ds libraries passes).references =
          passes.flatMap (fun p => (collect file t ds libraries [p]).references) ∧
        (collect file t ds libraries passes).skipped =
          (passes.map fun p => (collect file t ds libraries [p]).skipped).sum) ∧
      ∀ p : Pass,
        let alone := collect file t ds libraries [p]
        let found := p.findings t ds libraries
        alone.references.length + alone.skipped = found.length ∧
          alone.references.map some =
            (found.filter fun f => (t.span? f.node).isSome).map (file.reference? t) ∧
          alone.skipped = found.countP fun f => (t.span? f.node).isNone := by
  refine ⟨fun passes => ?_, fun p => ?_⟩
  · induction passes with
    | nil => exact ⟨rfl, rfl⟩
    | cons p ps ih =>
        rw [collect_cons, ← collect_singleton, Collection.append, List.flatMap_cons, List.map_cons,
          List.sum_cons, ih.1, ih.2]
        exact ⟨rfl, rfl⟩
  · rw [collect_singleton]
    exact ⟨Collection.length_references_ofFindings .., Collection.map_some_references_eq_filter ..,
      rfl⟩

/-- A literal without a place is skipped by each run, and the pass between changes nothing. -/
example :
    let literal := NodeKind.number "0x1111111111111111111111111111111111111111"
    let t := ((SyntaxTree.empty.push root none literal).2.push root (some ⟨2, 44⟩) literal).2
    let c := collect (.ofText "/c.sol" "c" "") t (.ofTree t) .empty [.hardcoded, .state, .hardcoded]
    c.references.map (·.span) = [⟨2, 44⟩, ⟨2, 44⟩] ∧ c.skipped = 2 := by
  decide +kernel

end AddressTrace
