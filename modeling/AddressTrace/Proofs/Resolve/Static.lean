import AddressTrace.CommandLine.Run
import AddressTrace.Proofs.Reference.Origins
import AddressTrace.Proofs.Reference.Reports
import AddressTrace.Proofs.Resolve.Interleaved

/-!
# References that the source alone gives

A reference waits for a call exactly if it is one of a call of another contract.  The others are the
same in every world: neither the libraries that are linked nor what comes of the calls has a part in
them.  Without a network all calls fail, so a scan prints the others and nothing else.

## Main definitions

* `staticReferences` — the references that are not those of calls.

## Main statements

* `ContractRecord.isPending_iff` — what waits for a call;
* `staticReferences_assemble` — what comes of the calls does not matter to the others;
* `scanSource_eq` — a scan finds just these;
* `scan_eq_staticReferences_analyse` — every analysis of the source finds them as well.
-/

namespace AddressTrace

open CommandLine

/-- Is this a reference of something else than a call of another contract? -/
def Reference.isStatic (r : Reference) : Bool := r.origin ≠ .publicFunction

/-- **The references that are not those of calls** of other contracts. -/
def staticReferences (references : List Reference) : List Reference :=
  references.filter Reference.isStatic

theorem staticReferences_append (references more : List Reference) :
    staticReferences (references ++ more) =
      staticReferences references ++ staticReferences more :=
  List.filter_append ..

theorem mem_staticReferences {references : List Reference} {r : Reference} :
    r ∈ staticReferences references ↔ r ∈ references ∧ r.origin ≠ .publicFunction := by
  rw [staticReferences, List.mem_filter, Reference.isStatic, decide_eq_true_iff]

/-! ### What waits for a call -/

section Pending

variable {tree : SyntaxTree} {libraries : LinkedLibraries}

/-- **The references that wait for a call are those of calls.** -/
theorem ContractRecord.isPending_iff {record : ContractRecord} {r : Reference}
    (h : r ∈ (record.collected tree libraries).references) :
    r.isPending = true ↔ r.origin = .publicFunction := by
  obtain ⟨p, -, f, hf, hr⟩ := mem_references_collect.1 h
  obtain ⟨-, hresolution, horigin, -⟩ := reference?_eq_some hr
  have hfinding := Pass.isOf_of_mem_findings hf
  rw [Reference.isPending, hresolution, horigin, hfinding.origin_eq, hfinding.isPending_iff]
  cases p <;> simp [Pass.origin]

theorem staticReferences_calls (file : SourceFile) (tree : SyntaxTree) (ds : Declarations)
    (libraries : LinkedLibraries) :
    staticReferences (Collection.ofFindings file tree (callFindings tree ds libraries)).references
      = [] := by
  rw [List.eq_nil_iff_forall_not_mem]
  intro r hr
  obtain ⟨hmem, hstatic⟩ := mem_staticReferences.1 hr
  obtain ⟨f, hf, hr⟩ := List.mem_filterMap.1 hmem
  have hfinding : f.IsOf .calls := Pass.isOf_of_mem_findings hf
  rw [(reference?_eq_some hr).2.2.1, hfinding.origin_eq] at hstatic
  exact hstatic rfl

/-- **Which libraries a source can call has a part in the references of calls only.** -/
theorem ContractRecord.staticReferences_collected (record : ContractRecord) (tree : SyntaxTree)
    (libraries libraries' : LinkedLibraries) :
    staticReferences (record.collected tree libraries).references =
      staticReferences (record.collected tree libraries').references := by
  simp only [ContractRecord.collected_eq, Collection.append, staticReferences_append,
    staticReferences_calls]

end Pending

/-! ### What comes of the calls -/

section Outcomes

variable {references : List Reference} {outcomes : List (Except Failure String)}

theorem length_distribute : (distribute references outcomes).length = references.length := by
  fun_induction distribute references outcomes with
  | case1 => rfl
  | case2 _ _ _ _ _ _ ih => exact congrArg (· + 1) ih
  | case3 _ _ _ _ ih => exact congrArg (· + 1) ih

/-- Outcomes are given to pending references only. -/
theorem eq_none_or_isPending_of_mem_zip {e : Reference × Option (Except Failure String)}
    (h : e ∈ references.zip (distribute references outcomes)) :
    e.2 = none ∨ e.1.isPending = true := by
  fun_induction distribute references outcomes with
  | case1 => cases h
  | case2 r references outcome outcomes request hrequest ih =>
    rcases List.mem_cons.1 h with rfl | h
    · right
      rw [Reference.isPending_eq, hrequest]
      rfl
    · exact ih h
  | case3 r references outcomes _ ih =>
    rcases List.mem_cons.1 h with rfl | h
    · exact .inl rfl
    · exact ih h

/-- A call decides about the address of its own reference, or about whether the reference stays. -/
theorem Reference.filter_settle {r : Reference} {outcome : Option (Except Failure String)}
    (h : outcome = none ∨ r.origin = .publicFunction) :
    (r.settle outcome).filter isStatic = (some r).filter isStatic := by
  rcases h with rfl | horigin
  · rfl
  · rcases outcome with _ | failure | address <;>
      simp [settle, Option.filter, isStatic, horigin]

/-- **What comes of the calls does not matter to the references that are not those of calls.** -/
theorem staticReferences_distribute
    (hcalls : ∀ r ∈ references, r.isPending = true → r.origin = .publicFunction) :
    staticReferences
        ((references.zip (distribute references outcomes)).filterMap fun e => e.1.settle e.2) =
      staticReferences references := by
  have hfirst : (references.zip (distribute references outcomes)).map Prod.fst = references :=
    List.map_fst_zip (Nat.le_of_eq length_distribute.symm)
  calc staticReferences
          ((references.zip (distribute references outcomes)).filterMap fun e => e.1.settle e.2)
      = (references.zip (distribute references outcomes)).filterMap
          fun e => (e.1.settle e.2).filter Reference.isStatic := List.filter_filterMap
    _ = (references.zip (distribute references outcomes)).filterMap
          fun e => (some e.1).filter Reference.isStatic := by
        refine List.filterMap_congr fun e he => Reference.filter_settle ?_
        exact (eq_none_or_isPending_of_mem_zip he).imp_right
          (hcalls e.1 (List.of_mem_zip he).1)
    _ = staticReferences
          ((references.zip (distribute references outcomes)).map Prod.fst) := by
        rw [staticReferences, ← List.filterMap_eq_filter, List.filterMap_map]
        rfl
    _ = staticReferences references := by rw [hfirst]

end Outcomes

/-- **The references that are not those of calls are the same** whatever libraries there are and
whatever comes of the calls. -/
theorem staticReferences_assemble (record : ContractRecord) (tree : SyntaxTree)
    (libraries : LinkedLibraries) (failed : Nat) (outcomes : List (Except Failure String)) :
    staticReferences
        (Analysis.assemble (record.collected tree libraries) failed outcomes).references =
      staticReferences (record.collected tree .empty).references := by
  rw [← record.staticReferences_collected tree libraries .empty]
  exact staticReferences_distribute fun r hr => (ContractRecord.isPending_iff hr).1

/-! ### Without a network -/

/-- Where all calls fail, the references that wait for none are left. -/
theorem Settled.eq_filter_of_failed {references out : List Reference}
    {outcomes : List (Except Failure String)} (h : Settled references outcomes out)
    (hfailed : ∀ outcome ∈ outcomes, ∃ failure, outcome = .error failure) :
    out = references.filter fun r => !r.isPending := by
  induction h with
  | nil => rfl
  | kept known _ ih =>
    rw [List.filter_cons_of_pos (by simp [Reference.isPending_eq, known]), ← ih hfailed]
  | resolved _ address _ =>
    obtain ⟨failure, h⟩ := hfailed _ List.mem_cons_self
    cases h
  | dropped pending _ _ ih =>
    rw [List.filter_cons_of_neg (by simp [Reference.isPending_eq, pending])]
    exact ih fun outcome ho => hfailed outcome (List.mem_cons_of_mem _ ho)

/-- Without a network no contract is verified, so no request has an address. -/
theorem deferredAddress_offline (chain : String) (limit : Nat) (request : CallRequest) :
    (deferredAddress offline.network chain request limit).value =
      .error (request.notFound chain) :=
  rfl

/-- **A scan finds the references that are not those of calls**, and no others. -/
theorem scanSource_eq {record : ContractRecord} {tree : SyntaxTree}
    (hsource : SyntaxTree.ofSource? record.sourceCode = some tree) :
    scanSource record.path record.name record.sourceCode =
      staticReferences (record.collected tree .empty).references := by
  let unlinked : ContractRecord :=
    { record with address := "", chain := "", library := "", abi := none }
  have hunlinked : SyntaxTree.ofSource? unlinked.sourceCode = some tree := hsource
  let found := record.collected tree .empty
  let asked := (requests found.references).mapM
    (deferredAddress offline.network "" · Options.standard.callTimeout)
  have hscan : scanSource record.path record.name record.sourceCode =
      (Analysis.assemble found 0 asked.value).references := by
    show (analyse offline.network .standard unlinked).value.references = _
    rw [analyse_eq offline.network .standard hunlinked]
    rfl
  have hvalue : asked.value =
      (requests found.references).map fun request => .error (request.notFound "") :=
    (Traced.value_mapM _ _).trans
      (List.map_congr_left fun request _ => deferredAddress_offline "" _ request)
  have hsettled : Settled found.references asked.value
      (Analysis.assemble found 0 asked.value).references :=
    settled_distribute (by rw [hvalue, List.length_map])
  rw [hscan, hsettled.eq_filter_of_failed ?_, staticReferences]
  · refine List.filter_congr fun r hr => ?_
    simp [Reference.isStatic, ← ContractRecord.isPending_iff hr]
  · intro outcome ho
    rw [hvalue] at ho
    obtain ⟨request, -, rfl⟩ := List.mem_map.1 ho
    exact ⟨_, rfl⟩

/-- A source that does not parse has no references. -/
theorem scanSource_of_eq_none {path name sourceCode : String}
    (hsource : SyntaxTree.ofSource? sourceCode = none) : scanSource path name sourceCode = [] := by
  simp only [scanSource, analyse, hsource]
  rfl

/-- A scan finds no references of calls. -/
theorem origin_of_mem_scanSource {record : ContractRecord} {r : Reference}
    (h : r ∈ scanSource record.path record.name record.sourceCode) :
    r.origin ≠ .publicFunction := by
  cases hsource : SyntaxTree.ofSource? record.sourceCode with
  | none =>
    rw [scanSource_of_eq_none hsource] at h
    cases h
  | some tree =>
    rw [scanSource_eq hsource] at h
    exact (mem_staticReferences.1 h).2

/-- **What an analysis is assembled from** decides about the references of calls only; the others
are those of a scan. -/
theorem staticReferences_assemble_eq_scanSource {record : ContractRecord} {tree : SyntaxTree}
    (hsource : SyntaxTree.ofSource? record.sourceCode = some tree) (libraries : LinkedLibraries)
    (failed : Nat) (outcomes : List (Except Failure String)) :
    staticReferences
        (Analysis.assemble (record.collected tree libraries) failed outcomes).references =
      scanSource record.path record.name record.sourceCode := by
  rw [scanSource_eq hsource, staticReferences_assemble]

/-- **A scan agrees with every analysis.**  Whatever the network is, and whatever is known of the
contract, an analysis of a source finds what a scan of it prints, in the same order, and references
of calls besides; a scan prints none of those.  It does not matter either in which order the calls
end and what comes of them.  What a scan prints tells its references from all others that are not
reported alike. -/
theorem scan_eq_staticReferences_analyse {m : Type → Type} [Monad m] [LawfulMonad m]
    (net : Network m) (options : Options) (record : ContractRecord) :
    let scanned := scanSource record.path record.name record.sourceCode
    ((fun analysis : Analysis => staticReferences analysis.references) <$>
        analyse net options record = (fun _ => scanned) <$> analyse net options record) ∧
      (∀ tree, SyntaxTree.ofSource? record.sourceCode = some tree →
        ∀ (libraries : LinkedLibraries) (failed : Nat) (outcomes : List (Except Failure String)),
          staticReferences
            (Analysis.assemble (record.collected tree libraries) failed outcomes).references =
              scanned) ∧
      (∀ r ∈ scanned, r.origin ≠ .publicFunction) ∧
      ∀ (contractName : Option String) (pretty : Bool),
        contractName.getD (fileStem record.path) = record.name →
          scan record.path contractName pretty (.ok record.sourceCode) =
              printed pretty (referencesValue scanned) ∧
            ∀ references : List Reference,
              scan record.path contractName pretty (.ok record.sourceCode) =
                  printed pretty (referencesValue references) ↔
                List.Forall₂ Reference.SameReport scanned references := by
  intro scanned
  refine ⟨?_, fun tree hsource => staticReferences_assemble_eq_scanSource hsource,
    fun r => origin_of_mem_scanSource, ?_⟩
  · cases hsource : SyntaxTree.ofSource? record.sourceCode with
    | none =>
      have hscanned : scanned = [] := scanSource_of_eq_none hsource
      simp [analyse, hsource, hscanned, Analysis.unparsed, staticReferences]
    | some tree =>
      simp only [analyse_eq net options hsource, map_bind, map_pure,
        staticReferences_assemble_eq_scanSource hsource]
      rfl
  · intro contractName pretty hname
    have hscan : scan record.path contractName pretty (.ok record.sourceCode) =
        printed pretty (referencesValue scanned) := by
      simp only [scan, hname]
      rfl
    exact ⟨hscan, fun references => by rw [hscan, printed_eq_printed]⟩

/-- One of two calls gives an address here, and the scan prints the other four references. -/
theorem scan_eq_staticReferences_twoCalls :
    let found := (analyse hWorld.network .standard twoCalls).value.references
    found.map Reference.origin =
        [.hardcoded, .variable, .variable, .variable, .publicFunction] ∧
      scan "/c.sol" none false (.ok twoCalls.sourceCode) =
        printed false (referencesValue (staticReferences found)) := by
  intro found
  obtain ⟨hagree, -, -, hprinted⟩ :=
    scan_eq_staticReferences_analyse hWorld.network .standard twoCalls
  have hstatic : staticReferences found =
      scanSource twoCalls.path twoCalls.name twoCalls.sourceCode := by
    simpa only [map_eq_pure_bind, Traced.value_bind, Traced.value_pure] using
      congrArg Traced.value hagree
  refine ⟨by decide +kernel, ?_⟩
  rw [hstatic]
  exact (hprinted none false (by decide +kernel)).1

end AddressTrace
