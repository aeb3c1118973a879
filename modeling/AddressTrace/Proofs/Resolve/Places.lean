import AddressTrace.Proofs.Network.Ensures
import AddressTrace.Proofs.Reference.Hardcoded
import AddressTrace.Proofs.Reference.LocalUses
import AddressTrace.Proofs.Reference.StateUses
import AddressTrace.Proofs.Resolve.Accounting
import AddressTrace.Proofs.Tree.Places

/-!
# Where references stand

What the passes look for are identifiers, numbers and members, which take bytes of the source.  So
each reference of a source has such a place, in whatever way its analysis goes, and no finding is
skipped.  Blocks begin at places of their own, so each entry of the table of local variables belongs
to one block.

## Main statements

* `SyntaxTree.PointsInto.exists_inText` — what the passes find takes bytes of the source;
* `SyntaxTree.PointsInto.inText_collect` — references take bytes, and nothing is skipped;
* `existsUnique_block_of_get?` — an entry of the table of local variables belongs to one block;
* `places_of_source` — all this for the tree of a source.
-/

namespace AddressTrace

open Text SyntaxTree

/-! ### Findings and references -/

section

variable {source : String} {t : SyntaxTree}

/-- **What the passes find takes bytes of the source.** -/
theorem SyntaxTree.PointsInto.exists_inText (h : t.PointsInto source) (hl : t.Linked)
    (hk : t.WellKinded) {libraries : LinkedLibraries} {p : Pass} {f : Finding}
    (hf : f ∈ p.findings t (.ofTree t) libraries) :
    ∃ span, t.span? f.node = some span ∧ span.InText source.utf8ByteSize := by
  have hidentifier : ∀ {name : String}, t.kind? f.node = some (.identifier name) →
      ∃ span, t.span? f.node = some span ∧ span.InText source.utf8ByteSize := by
    intro name hkind
    obtain ⟨span, hspan, hin, -⟩ := h.identifier hkind
    exact ⟨span, hspan, hin⟩
  cases p with
  | hardcoded =>
      obtain ⟨id, -, hf⟩ := List.mem_filterMap.1 hf
      obtain ⟨text, hkind, -, rfl⟩ := hardcodedFinding?_eq_some.1 hf
      obtain ⟨span, hspan, hin, -⟩ := h.number hkind
      exact ⟨span, hspan, hin⟩
  | locals =>
      obtain ⟨d, -, hkind, -⟩ := exists_declaration_of_mem_localFindings hl hk hf
      exact hidentifier hkind
  | state =>
      obtain ⟨d, -, hkind, -⟩ := exists_declaration_of_mem_stateFindings hl hk hf
      exact hidentifier hkind
  | calls =>
      obtain ⟨id, -, hf⟩ := List.mem_filterMap.1 hf
      obtain ⟨_, _, _, _, _, _, hkind, -, -, -, -, rfl⟩ := callFinding?_eq_some.1 hf
      exact h.member hkind

/-- **References take bytes of the source**, and no finding is skipped. -/
theorem SyntaxTree.PointsInto.inText_collect (h : t.PointsInto source) (hl : t.Linked)
    (hk : t.WellKinded) (file : SourceFile) (libraries : LinkedLibraries) (passes : List Pass) :
    (∀ r ∈ (collect file t (.ofTree t) libraries passes).references,
        r.span.InText source.utf8ByteSize) ∧
      (collect file t (.ofTree t) libraries passes).skipped = 0 := by
  constructor
  · intro r hr
    obtain ⟨p, -, f, hf, hr⟩ := mem_references_collect.1 hr
    obtain ⟨span, hspan, hin⟩ := h.exists_inText hl hk hf
    obtain rfl : span = r.span := Option.some.inj (hspan.symm.trans (reference?_eq_some hr).1)
    exact hin
  · induction passes with
    | nil => rfl
    | cons p ps ih =>
        have hplaced : ∀ f ∈ p.findings t (.ofTree t) libraries, (t.span? f.node).isSome := by
          intro f hf
          obtain ⟨span, hspan, -⟩ := h.exists_inText hl hk hf
          exact Option.isSome_iff_exists.2 ⟨span, hspan⟩
        rw [collect_cons, Collection.append, ih, Collection.skipped_eq_zero hplaced]

/-- **An entry of the table of local variables belongs to one block**, if blocks begin at places of
their own. -/
theorem existsUnique_block_of_get? (ht : t.Located) {name : String} {start : Nat}
    {v : LocalVariable} (h : (LocalTable.ofTree t).get? name start = some v) :
    ∃! block, t.kind? block = some .block ∧ t.start? block = some start := by
  obtain ⟨d, block, place, hplace, rfl, hgoverns⟩ := LocalTable.exists_governs_of_get? h
  refine ⟨block, ⟨hgoverns.kind?_block, by rw [start?, hplace, Option.map_some]⟩, ?_⟩
  rintro other ⟨hkind, hstart⟩
  obtain ⟨span, hspan, hstart⟩ := Option.map_eq_some_iff.1 hstart
  exact ht.blocks_apart.eq_of_start_eq hkind (by simp) hgoverns.kind?_block (by simp) hspan hplace
    hstart

end

/-! ### Analyses -/

section

variable {m : Type → Type} [Monad m] [LawfulMonad m]

/-- The references that an analysis gives stand where those stand that were found. -/
theorem exists_found_of_mem_assemble {found : Collection} {failed : Nat}
    {outcomes : List (Except Failure String)} {r : Reference}
    (h : r ∈ (Analysis.assemble found failed outcomes).references) :
    ∃ s ∈ found.references, s.span = r.span := by
  obtain ⟨⟨s, outcome⟩, hmem, hsettle⟩ := List.mem_filterMap.1 h
  refine ⟨s, (List.of_mem_zip hmem).1, ?_⟩
  have hplace := congrArg Reference.span (Reference.place_of_settle hsettle)
  exact hplace.symm

/-- **Every analysis of a source gives references that take bytes of it**, and skips nothing. -/
theorem SyntaxTree.PointsInto.ensures_analyse {source : String} {t : SyntaxTree}
    (h : t.PointsInto source) (hl : t.Linked) (hk : t.WellKinded) (net : Network m)
    (options : Options) {record : ContractRecord} (hrecord : record.sourceCode = source)
    (hsource : ofSource? source = some t) :
    Ensures (fun a : Analysis => (∀ r ∈ a.references, r.span.InText source.utf8ByteSize) ∧
      a.report.skippedNodes = 0) (analyse net options record) := by
  rw [analyse_eq net options (hrecord ▸ hsource)]
  refine .bind fun (libraries, failed) => .bind fun outcomes => .pure ?_
  obtain ⟨hin, hskipped⟩ := h.inText_collect hl hk
    (.ofText record.path record.name record.sourceCode) libraries Pass.all
  refine ⟨fun r hr => ?_, hskipped⟩
  obtain ⟨s, hs, hspan⟩ := exists_found_of_mem_assemble hr
  rw [← hspan]
  exact hin s hs

end

/-- **The places of a source that parses.**  Its identifiers, numbers, members and blocks take bytes
of it, those of an identifier are its name, and those of a hexadecimal number begin with its text.
Identifiers begin at places of their own, and so do blocks, so that each entry of the table of local
variables belongs to one block.  References take bytes of the source, and nothing is skipped,
neither by any passes nor by any analysis of it. -/
theorem places_of_source {source : String} {t : SyntaxTree} (h : ofSource? source = some t) :
    t.PointsInto source ∧ t.Apart NodeKind.isIdentifier ∧ t.Apart (· = .block) ∧
      (∀ name start v, (LocalTable.ofTree t).get? name start = some v →
        ∃! block, t.kind? block = some .block ∧ t.start? block = some start) ∧
      (∀ (file : SourceFile) (libraries : LinkedLibraries) (passes : List Pass),
        (∀ r ∈ (collect file t (.ofTree t) libraries passes).references,
            r.span.InText source.utf8ByteSize) ∧
          (collect file t (.ofTree t) libraries passes).skipped = 0) ∧
      ∀ {m : Type → Type} [Monad m] [LawfulMonad m] (net : Network m) (options : Options)
        (record : ContractRecord), record.sourceCode = source →
          Ensures (fun a : Analysis => (∀ r ∈ a.references, r.span.InText source.utf8ByteSize) ∧
            a.report.skippedNodes = 0) (analyse net options record) := by
  have ht := parsed_ofSource? h
  have hpoints := pointsInto_ofSource? h
  refine ⟨hpoints, ht.located.identifiers_apart, ht.located.blocks_apart, ?_, ?_, ?_⟩
  · exact fun _ _ _ hget => existsUnique_block_of_get? ht.located hget
  · exact fun file => hpoints.inText_collect ht.linked ht.wellKinded file
  · intro m _ _ net options record hrecord
    exact hpoints.ensures_analyse ht.linked ht.wellKinded net options hrecord h

/-- A contract behind letters of several bytes, with a literal in parentheses, an unchecked block
and a number with a unit. -/
def behindLetters : String :=
  "/* \u00e4\u20ac */ contract c \x7b function f() public \x7b unchecked \x7b " ++
    "address a = ((0x1111111111111111111111111111111111111111)); g((a).b, 1 ether); " ++
    "\x7d \x7d \x7d"

/-- Here three references take bytes of the source, and the variable belongs to the unchecked
block. -/
theorem places_of_source_behindLetters :
    ∃ t, ofSource? behindLetters = some t ∧ t.PointsInto behindLetters ∧
      (collect (.ofText "/c.sol" "c" behindLetters) t (.ofTree t) .empty
        Pass.all).references.length = 3 ∧
      (∀ r ∈ (collect (.ofText "/c.sol" "c" behindLetters) t (.ofTree t) .empty
        Pass.all).references, r.span.InText behindLetters.utf8ByteSize) ∧
      ∃! block, t.kind? block = some .block ∧ t.start? block = some 47 := by
  have hfound : ∃ t ∈ ofSource? behindLetters,
      (collect (.ofText "/c.sol" "c" behindLetters) t (.ofTree t) .empty
        Pass.all).references.length = 3 ∧
      (LocalTable.ofTree t).get? "a" 47 =
        some ⟨"0x1111111111111111111111111111111111111111", ⟨67, 68⟩⟩ := by
    decide +kernel
  obtain ⟨t, ht, hlength, hentry⟩ := hfound
  obtain ⟨hpoints, -, -, hblocks, hreferences, -⟩ := places_of_source ht
  exact ⟨t, ht, hpoints, hlength, (hreferences _ .empty Pass.all).1, hblocks "a" 47 _ hentry⟩

end AddressTrace
