import AddressTrace.Proofs.Declaration.Basic
import AddressTrace.Proofs.Reference.Origins
import AddressTrace.Proofs.Solidity.Operands
import AddressTrace.Proofs.Solidity.Spans.Expression
import AddressTrace.Proofs.Tree.Sources

/-!
# Literals that are reported

Each address literal that stands in an operand of the file which becomes a node is reported exactly
once, as it is written and from the offset where it begins.  The arguments of a revert with names
and the slots of a list that declares variables become no nodes, so literals there are not reported.

## Main definitions

* `hardcodedAt` — the references of literals at an offset.

## Main statements

* `pairwise_start_hardcoded` — literals are reported in their order, each once;
* `hardcoded_reference_of_literal` — each literal that becomes a node is reported as it is written.
-/

namespace AddressTrace

open Text SyntaxTree Solidity

/-! ### Literals in the text -/

/-- An address literal of a file stands in its text where its mark begins. -/
theorem standsAt_of_mark {source : String} {unit : SourceUnit} (h : sourceUnit? source = some unit)
    {text : String} {start : Nat} (hmark : .number text start ∈ Outline.marksAll (outlines unit))
    (hlike : Address.isAddressLike text) : StandsAt source.toList text start := by
  obtain ⟨lexemes, hlexemes, hmarked⟩ := exists_marked_outlines h
  obtain ⟨l, hl, hbegins⟩ := hmarked.exists_lexeme _ hmark
  have hscanned := scannedIn_of_lexemes? hlexemes l hl
  cases hbegins with
  | number digits exponent span =>
      rw [Address.isAddressLike, Bool.and_eq_true, beq_iff_eq, beq_iff_eq] at hlike
      exact absurd hlike.2 (not_isHexText_decimalText hscanned _)
  | hexNumber text span => exact (hscanned.standsAt rfl).1

/-! ### Literals in the tree -/

section

variable {t : SyntaxTree} {file : SourceFile} {ds : Declarations} {libraries : LinkedLibraries}

/-- The node of a number with a mark. -/
theorem exists_number_of_mark {parts : List Outline} {text : String} {start : Nat}
    (h : .number text start ∈ Outline.marksAll parts) :
    ∃ id span, (ofOutlines parts).kind? id = some (.number text) ∧
      (ofOutlines parts).span? id = some span ∧ span.start = start := by
  rw [← marks_ofOutlines] at h
  obtain ⟨id, -, hmark⟩ := List.mem_filterMap.1 h
  unfold mark? at hmark
  split at hmark
  · cases hmark
  · next text' span hkind hspan =>
      cases hmark
      exact ⟨id, span, hkind, hspan, rfl⟩
  · cases hmark
  · cases hmark

theorem hardcodedFinding?_eq_some {id : NodeId} {f : Finding} :
    hardcodedFinding? t id = some f ↔ ∃ text, t.kind? id = some (.number text) ∧
      Address.isAddressLike text ∧ f = ⟨id, t.parent? id, .resolved text, .hardcoded⟩ := by
  rw [hardcodedFinding?, Option.map_eq_some_iff]
  constructor
  · rintro ⟨text, h, rfl⟩
    obtain ⟨hkind, hlike⟩ := addressLiteral?_eq_some.1 h
    exact ⟨text, hkind, hlike, rfl⟩
  · rintro ⟨text, hkind, hlike, rfl⟩
    exact ⟨text, addressLiteral?_eq_some.2 ⟨hkind, hlike⟩, rfl⟩

/-- The references of the literals of a tree. -/
def hardcodedReferences (file : SourceFile) (t : SyntaxTree) : List Reference :=
  (hardcodedFindings t).filterMap (file.reference? t)

/-- **Literals are reported in the order of their places**, so no two of them at one offset. -/
theorem pairwise_start_hardcoded (ht : t.Parsed) :
    (hardcodedReferences file t).Pairwise fun r s => r.span.start < s.span.start := by
  rw [hardcodedReferences, hardcodedFindings, ht.walk_eq, List.pairwise_filterMap,
    List.pairwise_filterMap]
  refine List.pairwise_lt_range.imp ?_
  intro a b hab f hf g hg r hr s hs
  obtain ⟨text, hkind, -, rfl⟩ := hardcodedFinding?_eq_some.1 hf
  obtain ⟨text', hkind', -, rfl⟩ := hardcodedFinding?_eq_some.1 hg
  obtain ⟨span, hspan, hmark⟩ := ht.number_mark hkind
  obtain ⟨span', hspan', hmark'⟩ := ht.number_mark hkind'
  have hr' := (reference?_eq_some hr).1
  have hs' := (reference?_eq_some hs).1
  obtain rfl : span = r.span := Option.some.inj (hspan.symm.trans hr')
  obtain rfl : span' = s.span := Option.some.inj (hspan'.symm.trans hs')
  exact ht.inOrder hab hmark hmark'

/-- **The references of literals at an offset.** -/
def hardcodedAt (references : List Reference) (start : Nat) : List Reference :=
  references.filter fun r => r.origin = .hardcoded ∧ r.span.start = start

/-- Of some values in strictly increasing order one alone has its own value. -/
theorem filter_eq_singleton {α : Type} {f : α → Nat} {l : List α}
    (h : l.Pairwise fun a b => f a < f b) {a : α} (ha : a ∈ l) :
    (l.filter fun b => f b = f a) = [a] := by
  induction l with
  | nil => cases ha
  | cons b l ih =>
      obtain ⟨hb, hl⟩ := List.pairwise_cons.1 h
      rcases List.mem_cons.1 ha with rfl | ha
      · have hrest : (l.filter fun b => f b = f a) = [] := by
          rw [List.filter_eq_nil_iff]
          intro c hc heq
          exact Nat.ne_of_gt (hb c hc) (by simpa using heq)
        rw [List.filter_cons_of_pos (by simp), hrest]
      · rw [List.filter_cons_of_neg (by simpa using Nat.ne_of_lt (hb a ha)), ih hl ha]

/-- Only the pass over literals reports literals. -/
theorem hardcodedAt_collect (start : Nat) :
    hardcodedAt (collect file t ds libraries Pass.all).references start =
      (hardcodedReferences file t).filter fun r => r.span.start = start := by
  rw [Pass.all, collect_cons, Collection.append, hardcodedAt, List.filter_append]
  have hothers : ((collect file t ds libraries [.locals, .state, .calls]).references.filter
      fun r => r.origin = .hardcoded ∧ r.span.start = start) = [] := by
    rw [List.filter_eq_nil_iff]
    intro r hr h
    obtain ⟨horigin, -⟩ := of_decide_eq_true h
    obtain ⟨hmem, -⟩ := exists_finding_of_origin (p := .hardcoded) hr horigin
    simp at hmem
  have hown : ∀ r ∈ hardcodedReferences file t, r.origin = .hardcoded := by
    intro r hr
    obtain ⟨f, hf, hr⟩ := List.mem_filterMap.1 hr
    obtain ⟨id, -, hf⟩ := List.mem_filterMap.1 hf
    obtain ⟨text, -, -, rfl⟩ := hardcodedFinding?_eq_some.1 hf
    exact (reference?_eq_some hr).2.2.1
  rw [hothers, List.append_nil]
  refine List.filter_congr fun r hr => ?_
  simp [hown r hr]

end

/-- **Each address literal that becomes a node is reported exactly once**, as it is written and from
the offset where it begins. -/
theorem hardcoded_reference_of_literal {source : String} {unit : SourceUnit}
    (h : sourceUnit? source = some unit) {position : List Nat} {text : String} {span : Span}
    (hliteral : (Part.file unit).literalAt Part.lowered position = some (text, span))
    (hlike : Address.isAddressLike text) (file : SourceFile) (libraries : LinkedLibraries) :
    ∃ t r, ofSource? source = some t ∧
      hardcodedAt (collect file t (.ofTree t) libraries Pass.all).references span.start = [r] ∧
      r.resolution = .resolved text ∧ r.span.start = span.start ∧
      StandsAt source.toList text r.span.start := by
  have hmark := Part.mark_mem_of_literalAt hliteral
  have ht : ofSource? source = some (ofOutlines (outlines unit)) := by
    rw [ofSource?, h, Option.map_some]
  obtain ⟨id, place, hkind, hspan, hstart⟩ := exists_number_of_mark hmark
  have hfinding := hardcodedFinding?_eq_some.2 ⟨text, hkind, hlike, rfl⟩
  obtain ⟨r, hr⟩ : ∃ r, file.reference? (ofOutlines (outlines unit))
      ⟨id, (ofOutlines (outlines unit)).parent? id, .resolved text, .hardcoded⟩ = some r := by
    rw [SourceFile.reference?, hspan]
    exact ⟨_, rfl⟩
  obtain ⟨hplace, hresolution, -, -⟩ := reference?_eq_some hr
  have hrstart : r.span.start = span.start := by
    rw [hspan] at hplace
    rw [← Option.some.inj hplace, hstart]
  have hmem : r ∈ hardcodedReferences file (ofOutlines (outlines unit)) := by
    refine List.mem_filterMap.2 ⟨_, List.mem_filterMap.2 ⟨id, ?_, hfinding⟩, hr⟩
    exact (built_ofOutlines _).linked.mem_walk.2 (lt_size_of_kind? hkind)
  refine ⟨_, r, ht, ?_, hresolution, hrstart, ?_⟩
  · rw [hardcodedAt_collect, ← hrstart]
    exact filter_eq_singleton (pairwise_start_hardcoded (parsed_ofSource? ht)) hmem
  · rw [hrstart]
    exact standsAt_of_mark h hmark hlike

/-- A contract with a literal among the named arguments of a call, which stands in the handler of a
guarded call. -/
def literalInHandler : String :=
  "contract c \x7b function f() \x7b try g() \x7b \x7d catch \x7b " ++
    "h(\x7ba: 0x1111111111111111111111111111111111111111\x7d); \x7d \x7d \x7d"

/-- This literal is reported. -/
theorem hardcoded_reference_inHandler :
    ∃ unit, sourceUnit? literalInHandler = some unit ∧
      (Part.file unit).literalAt Part.lowered [0, 0, 0, 0, 1, 0, 0, 1]
        = some ("0x1111111111111111111111111111111111111111", ⟨54, 96⟩) ∧
      ∃ t r, ofSource? literalInHandler = some t ∧
        hardcodedAt (collect (.ofText "/c.sol" "c" literalInHandler) t (.ofTree t) .empty
          Pass.all).references 54 = [r] ∧
        r.resolution = .resolved "0x1111111111111111111111111111111111111111" := by
  have hliteral : ((sourceUnit? literalInHandler).bind fun unit =>
      (Part.file unit).literalAt Part.lowered [0, 0, 0, 0, 1, 0, 0, 1])
        = some ("0x1111111111111111111111111111111111111111", ⟨54, 96⟩) := by
    decide +kernel
  obtain ⟨unit, hunit, hliteral⟩ := Option.bind_eq_some_iff.1 hliteral
  obtain ⟨t, r, ht, hone, hresolution, -, -⟩ := hardcoded_reference_of_literal hunit hliteral
    (by decide +kernel) (.ofText "/c.sol" "c" literalInHandler) .empty
  exact ⟨unit, hunit, hliteral, t, r, ht, hone, hresolution⟩

/-- A contract with a literal among the named arguments of a revert. -/
def literalInRevert : String :=
  "contract c \x7b error E(address a); function f() public \x7b " ++
    "revert E(\x7ba: 0x1111111111111111111111111111111111111111\x7d); \x7d \x7d"

/-- The tree of this contract. -/
def literalInRevertTree : SyntaxTree := ofOutlines
  [.node (.contract (some "c")) (some ⟨0, 117⟩)
    [.node (.function (some "f")) (some ⟨33, 115⟩)
      [.node .block (some ⟨53, 115⟩) [.node .statement none []]]]]

/-- Not every literal among the operands is reported: a revert with named arguments loses its
own. -/
theorem not_reported_inRevert :
    ¬ ∀ unit, sourceUnit? literalInRevert = some unit → ∀ position text span,
      (Part.file unit).literalAt Part.operands position = some (text, span) →
      Address.isAddressLike text → ∃ t r, ofSource? literalInRevert = some t ∧
        hardcodedAt (collect (.ofText "/c.sol" "c" literalInRevert) t (.ofTree t) .empty
          Pass.all).references span.start = [r] := by
  intro hreported
  have hliteral : ((sourceUnit? literalInRevert).bind fun unit =>
      (Part.file unit).literalAt Part.operands [0, 0, 0, 0, 0])
        = some ("0x1111111111111111111111111111111111111111", ⟨68, 110⟩) := by
    decide +kernel
  obtain ⟨unit, hunit, hliteral⟩ := Option.bind_eq_some_iff.1 hliteral
  obtain ⟨t, r, ht, hone⟩ := hreported unit hunit _ _ _ hliteral (by decide +kernel)
  have htree : ofSource? literalInRevert = some literalInRevertTree := by decide +kernel
  obtain rfl : literalInRevertTree = t := Option.some.inj (htree.symm.trans ht)
  have hnone :
      hardcodedReferences (.ofText "/c.sol" "c" literalInRevert) literalInRevertTree = [] := by
    decide +kernel
  rw [hardcodedAt_collect, hnone] at hone
  cases hone

end AddressTrace
