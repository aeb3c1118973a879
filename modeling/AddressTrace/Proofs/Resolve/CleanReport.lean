import AddressTrace.Proofs.Resolve.Libraries

/-!
# What a clean report says

Some lookups that succeed in one world fail in another one.  The report of an analysis notes such a
failure where a library is visited for its links, and where a call is made.  It does not note that
the contract itself could not be looked up, nor that a library has no interface which the search for
links does not visit; the calls of such libraries are not found, and nothing tells so.

## Main definitions

* `World.Weakens` — a world in which more lookups fail;
* `World.Overlooks` — a library whose loss is not noted.

## Main statements

* `World.Weakens.becomes_eq` — a call that is not dropped comes to what it came to before;
* `exists_library_of_not_mem_found` — a reference is missing only with a library;
* `World.Weakens.analyse_eq_of_clean` — if no library is overlooked, nothing is lost;
* `losses_of_clean_report` — the calls of overlooked libraries are all that is lost.
-/

namespace AddressTrace

open Address

/-- **A report in which nothing is lost.** -/
def Report.clean : Report := ⟨false, 0, 0, 0⟩

/-- **A lookup is lost** if it succeeds in one world and fails in another one. -/
def World.LosesLookup (w w' : World) (a chain : String) : Prop :=
  (∃ records, (w.lookup a chain).outcome = .ok records) ∧
    ∃ failure, (w'.lookup a chain).outcome = .error failure

/-- **A world in which more lookups fail**, and that differs in nothing else. -/
structure World.Weakens (w w' : World) : Prop where
  lookup_eq : ∀ a chain, w'.lookup a chain = w.lookup a chain ∨ w.LosesLookup w' a chain
  call_eq : w'.call = w.call

/-- **A library that is overlooked**: its contract is linked with it, and either the contract cannot
be looked up, or the library cannot, and the search for links does not visit it. -/
def World.Overlooks (w w' : World) (options : Options) (record : ContractRecord) (a : String) :
    Prop :=
  (∃ name, (name, a) ∈ w.links record.chain record.address) ∧
    (w.LosesLookup w' record.address record.chain ∨
      w.LosesLookup w' a record.chain ∧
        .lookup a record.chain ∉ (loadLibraries w'.network record.address record.chain
          options.maxLibraryDepth).questions)

variable {w w' : World} {options : Options} {record : ContractRecord} {chain address : String}

/-! ### The parts of a report -/

theorem World.dropped_analyse (w : World) (options : Options) (record : ContractRecord) :
    (analyse w.network options record).value.report.dropped =
      (w.found options record).countP fun r =>
        isDropped (outcomeOf w.network record.chain options.callTimeout r).value := by
  rw [found, analyse]
  cases SyntaxTree.ofSource? record.sourceCode with
  | none => rfl
  | some tree =>
    simp only [Traced.value_bind, Traced.value_pure, Traced.value_mapM, List.countP_map]
    rfl

/-- A clean report is that of a source that parses, all of whose libraries and calls are there. -/
theorem World.of_clean (h : (analyse w.network options record).value.report = .clean) :
    (∃ tree, SyntaxTree.ofSource? record.sourceCode = some tree) ∧
      (callableLibraries w.network record.address record.chain
        options.maxLibraryDepth).value.2 = 0 ∧
      ∀ r ∈ w.found options record,
        isDropped (outcomeOf w.network record.chain options.callTimeout r).value = false := by
  have hdropped := w.dropped_analyse options record
  rw [h] at hdropped
  have hnone := List.countP_eq_zero.1 hdropped.symm
  cases hsource : SyntaxTree.ofSource? record.sourceCode with
  | none =>
    rw [analyse, hsource] at h
    cases h
  | some tree =>
    refine ⟨⟨tree, rfl⟩, ?_, fun r hr => by simpa using hnone r hr⟩
    rw [analyse_eq _ _ hsource] at h
    exact congrArg Report.failedLibraries h

/-! ### Libraries that are visited -/

/-- A library that the search for links visits is not lost, if none is noted as failed. -/
theorem not_losesLookup_of_asked {maxDepth : Nat} {direct : Linkage} {a : String}
    (hdirect : w'.linksOutcome chain address = .ok direct)
    (hnone : (callableLibraries w'.network address chain maxDepth).value.2 = 0)
    (hasked : .lookup a chain ∈ (loadLibraries w'.network address chain maxDepth).questions) :
    ¬ w.LosesLookup w' a chain := by
  rintro ⟨-, failure, hfailure⟩
  have hfails : w'.links? chain a = none := by
    rw [World.links?_eq, hfailure]
    rfl
  obtain ⟨libraries, hload⟩ : ∃ libraries,
      (loadLibraries w'.network address chain maxDepth).value = .ok libraries :=
    ⟨_, congrArg Traced.value (loadLibraries_network hdirect maxDepth)⟩
  have hnoted := mem_failed_of_lookup hload hasked hfails
  rw [callableLibraries_of_ok hload] at hnone
  rw [List.eq_nil_of_length_eq_zero hnone] at hnoted
  cases hnoted

/-- Where links are followed at all, each library of the contract is visited in some spelling. -/
theorem exists_asked_of_direct {maxDepth : Nat} {direct : Linkage} {link : String × String}
    (hdirect : w.linksOutcome chain address = .ok direct) (hdepth : 2 ≤ maxDepth)
    (hlink : link ∈ direct.toList) :
    ∃ a, foldCase a = foldCase link.2 ∧
      .lookup a chain ∈ (loadLibraries w.network address chain maxDepth).questions := by
  rw [loadLibraries_network hdirect]
  by_cases hself : foldCase link.2 = foldCase address
  · exact ⟨address, hself.symm, List.mem_cons_self⟩
  · have hnew := (Libraries.Search.grows_addLinks (.initial address) direct.toList).new_eq
    dsimp only
    generalize (Libraries.Search.initial address).addLinks direct.toList = reached at hnew ⊢
    have hfresh : foldCase link.2 ∈ reached.2.map foldCase := by
      rw [hnew, World.mem_map_fresh]
      refine ⟨List.mem_map_of_mem (List.mem_map_of_mem hlink), ?_⟩
      rwa [Libraries.Search.initial, List.mem_singleton]
    obtain ⟨a, ha, hfold⟩ := List.mem_map.1 hfresh
    refine ⟨a, hfold, List.mem_cons_of_mem _ ?_⟩
    -- The search visits one level at least, which is that of the libraries of the contract.
    obtain ⟨k, rfl⟩ := Nat.exists_eq_add_of_le' hdepth
    obtain ⟨b, bs, hlevel⟩ := List.exists_cons_of_ne_nil (List.ne_nil_of_mem ha)
    rw [hlevel, Nat.add_succ_sub_one, World.followLinks_cons]
    exact List.mem_append_left _ (List.mem_map_of_mem (hlevel ▸ ha))

/-! ### References that are missing -/

theorem callFindings_sublist {tree : SyntaxTree} {ds : Declarations}
    {libraries libraries' : LinkedLibraries} (h : libraries'.SubmapOf libraries) :
    (callFindings tree ds libraries').Sublist (callFindings tree ds libraries) := by
  have hsome : ∀ id f, callFinding? tree ds libraries' id = some f →
      callFinding? tree ds libraries id = some f :=
    fun id f => callFinding?_of_find? fun request _ name library _ => h name library
  have hkept : callFindings tree ds libraries' =
      (tree.walk.filter fun id => (callFinding? tree ds libraries' id).isSome).filterMap
        (callFinding? tree ds libraries) := by
    rw [List.filterMap_filter]
    refine List.filterMap_congr fun id _ => ?_
    cases hfound : callFinding? tree ds libraries' id with
    | none => rfl
    | some f => exact (hsome id f hfound).symm
  rw [hkept]
  exact List.filter_sublist.filterMap _

/-- With more libraries there are more references. -/
theorem ContractRecord.sublist_collected (record : ContractRecord) (tree : SyntaxTree)
    {libraries libraries' : LinkedLibraries} (h : libraries'.SubmapOf libraries) :
    (record.collected tree libraries').references.Sublist
      (record.collected tree libraries).references := by
  simp only [collected_eq, Collection.append]
  refine .append (.refl _) (.append (.refl _) (.append (.refl _) ?_))
  exact (callFindings_sublist h).filterMap _

/-- **A reference is missing only with a library**: it waits for a call of one that is not there. -/
theorem exists_library_of_not_mem_found {r : Reference} (hr : r ∈ w.found options record)
    (hmissing : r ∉ w'.found options record) :
    ∃ request name library, r.request? = some request ∧ library.address = request.target ∧
      (w.libraries options record).find? name = some library ∧
      (w'.libraries options record).find? name ≠ some library := by
  rw [World.found] at hr hmissing
  cases hsource : SyntaxTree.ofSource? record.sourceCode with
  | none =>
    rw [hsource] at hr
    cases hr
  | some tree =>
    rw [hsource] at hr hmissing
    obtain ⟨p, hp, f, hf, hplaced⟩ := mem_references_collect.1 hr
    have hlost : f ∉ p.findings tree (.ofTree tree) (w'.libraries options record) :=
      fun hf' => hmissing (mem_references_collect.2 ⟨p, hp, f, hf', hplaced⟩)
    have hcalls : p = .calls := by
      by_contra hother
      cases p <;> first | exact hlost hf | exact hother rfl
    subst hcalls
    by_contra! hkeeps
    obtain ⟨id, hid, hfound⟩ := List.mem_filterMap.1 hf
    refine hlost (List.mem_filterMap.2 ⟨id, hid, callFinding?_of_find? ?_ hfound⟩)
    intro request hrequest name library htarget
    refine hkeeps request name library ?_ htarget
    rw [Reference.request?, (reference?_eq_some hplaced).2.1, hrequest]

/-- A contract without links has no libraries to be called. -/
theorem callableLibraries_of_links_nil (h : w.links chain address = []) (maxDepth : Nat) :
    (callableLibraries w.network address chain maxDepth).value = (.empty, 0) := by
  cases hdirect : w.linksOutcome chain address with
  | error failure => rw [callableLibraries_of_error hdirect]
  | ok direct =>
    have hload := congrArg Traced.value (loadLibraries_network hdirect maxDepth)
    rw [World.links, World.links?, hdirect] at h
    have hlist : direct.toList = [] := h
    rw [callableLibraries_of_ok hload]
    simp only [hlist, Libraries.Search.addLinks, followLinks_nil]
    rfl

theorem World.exists_linksOutcome_of_mem_links {a : String} {link : String × String}
    (hlink : link ∈ w.links chain a) :
    ∃ direct, w.linksOutcome chain a = .ok direct ∧ link ∈ direct.toList := by
  rw [links, links?] at hlink
  cases hdirect : w.linksOutcome chain a with
  | error failure =>
    rw [hdirect] at hlink
    cases hlink
  | ok direct =>
    rw [hdirect] at hlink
    exact ⟨direct, rfl, hlink⟩

namespace World.Weakens

theorem lookup_eq_of_not_lost (h : w.Weakens w') {a : String} (hkept : ¬ w.LosesLookup w' a chain) :
    w'.lookup a chain = w.lookup a chain :=
  (h.lookup_eq a chain).resolve_right hkept

theorem linksOutcome_eq (h : w.Weakens w') {a : String} (hkept : ¬ w.LosesLookup w' a chain) :
    w'.linksOutcome chain a = w.linksOutcome chain a := by
  rw [linksOutcome, linksOutcome, h.lookup_eq_of_not_lost hkept]

/-- The links of a contract that is still there are those that it had. -/
theorem mem_links (h : w.Weakens w') {a : String} {link : String × String}
    (hlink : link ∈ w'.links chain a) : link ∈ w.links chain a := by
  rcases h.lookup_eq a chain with heq | ⟨-, failure, hfailure⟩
  · rwa [links, links?_eq, ← heq, ← links?_eq]
  · rw [links, links?_eq, hfailure] at hlink
    cases hlink

theorem interfaceOutcome_of_ok (h : w.Weakens w') {a : String} {i : Option Abi.Interface}
    (hok : w'.interfaceOutcome chain a = .ok i) : w.interfaceOutcome chain a = .ok i := by
  rcases h.lookup_eq a chain with heq | ⟨-, failure, hfailure⟩
  · rwa [interfaceOutcome, ← heq]
  · rw [interfaceOutcome, hfailure] at hok
    cases hok

/-- The libraries that can be called in the weaker world can be called in the other one. -/
theorem submapOf_libraries (h : w.Weakens w') :
    (w'.libraries options record).SubmapOf (w.libraries options record) := by
  intro name library hlibrary
  obtain ⟨hlink, i, hi, hfunctions⟩ := find?_libraries.1 hlibrary
  exact find?_libraries.2 ⟨h.mem_links hlink, i, h.interfaceOutcome_of_ok hi, hfunctions⟩

/-- What is found in the weaker world is found in the other one. -/
theorem sublist_found (h : w.Weakens w') :
    (w'.found options record).Sublist (w.found options record) := by
  rw [found, found]
  cases SyntaxTree.ofSource? record.sourceCode with
  | none => exact .refl _
  | some tree => exact record.sublist_collected tree h.submapOf_libraries

/-- A call that is not dropped is one of a contract that is still there. -/
theorem lookup_target_eq (h : w.Weakens w') {r : Reference} {request : CallRequest} {limit : Nat}
    (hrequest : r.request? = some request)
    (hkept : isDropped (outcomeOf w'.network chain limit r).value = false) :
    w'.lookup request.target chain = w.lookup request.target chain := by
  refine h.lookup_eq_of_not_lost fun ⟨_, _, hfailure⟩ => ?_
  obtain ⟨failure, hfails⟩ := deferredAddress_of_error hfailure limit
  simp only [outcomeOf, hrequest, Traced.value_bind, Traced.value_pure, hfails] at hkept
  cases hkept

/-- **A call that is not dropped comes to what it came to before.** -/
theorem becomes_eq (h : w.Weakens w') {r : Reference}
    (hkept : isDropped (outcomeOf w'.network record.chain options.callTimeout r).value = false) :
    w'.becomes options record r = w.becomes options record r := by
  cases hrequest : r.request? with
  | none => simp only [becomes, outcomeOf, hrequest, Traced.value_pure]
  | some request =>
    have hcall := deferredAddress_congr (h.lookup_target_eq hrequest hkept) h.call_eq
      options.callTimeout
    simp only [becomes, outcomeOf, hrequest, Traced.value_bind, Traced.value_pure, hcall]

/-- With a clean report the references of the weaker world are among those of the other one. -/
theorem sublist_references (h : w.Weakens w')
    (hclean : (analyse w'.network options record).value.report = .clean) :
    (analyse w'.network options record).value.references.Sublist
      (analyse w.network options record).value.references := by
  obtain ⟨-, -, hkept⟩ := of_clean hclean
  rw [references_analyse, references_analyse,
    List.filterMap_congr fun r hr => h.becomes_eq (hkept r hr)]
  exact h.sublist_found.filterMap _

/-- **A library that is missing under a clean report is overlooked.** -/
theorem overlooks_of_find? (h : w.Weakens w') {name : String} {library : LinkedLibrary}
    (hnone : (callableLibraries w'.network record.address record.chain
      options.maxLibraryDepth).value.2 = 0)
    (hlibrary : (w.libraries options record).find? name = some library)
    (hmissing : (w'.libraries options record).find? name ≠ some library) :
    w.Overlooks w' options record library.address := by
  obtain ⟨hlink, i, hi, hfunctions⟩ := find?_libraries.1 hlibrary
  refine ⟨⟨name, hlink⟩, ?_⟩
  by_cases hroot : w.LosesLookup w' record.address record.chain
  · exact .inl hroot
  · have hlinks := h.linksOutcome_eq hroot
    obtain ⟨direct, hdirect, -⟩ := exists_linksOutcome_of_mem_links hlink
    have hlost : w.LosesLookup w' library.address record.chain := by
      by_contra hkept
      refine hmissing (find?_libraries.2 ⟨?_, i, ?_, hfunctions⟩)
      · rwa [links, links?, hlinks]
      · rwa [interfaceOutcome, h.lookup_eq_of_not_lost hkept]
    exact .inr ⟨hlost, fun hasked =>
      not_losesLookup_of_asked (hlinks.trans hdirect) hnone hasked hlost⟩

/-- **If no library is overlooked, a clean report tells that the libraries are all there.** -/
theorem callableLibraries_eq (h : w.Weakens w')
    (hnone : (callableLibraries w'.network record.address record.chain
      options.maxLibraryDepth).value.2 = 0)
    (hseen : ∀ a, ¬ w.Overlooks w' options record a) :
    (callableLibraries w'.network record.address record.chain options.maxLibraryDepth).value =
      (callableLibraries w.network record.address record.chain options.maxLibraryDepth).value := by
  by_cases hroot : w.LosesLookup w' record.address record.chain
  · -- The contract has no links to be lost with it.
    have hlinks : w.links record.chain record.address = [] :=
      List.eq_nil_iff_forall_not_mem.2 fun link hlink =>
        hseen link.2 ⟨⟨link.1, hlink⟩, .inl hroot⟩
    have hlinks' : w'.links record.chain record.address = [] :=
      List.eq_nil_iff_forall_not_mem.2 fun link hlink =>
        List.not_mem_nil (hlinks ▸ h.mem_links hlink)
    rw [callableLibraries_of_links_nil hlinks, callableLibraries_of_links_nil hlinks']
  · refine congrArg Traced.value (callableLibraries_congr fun a hasked => ?_).symm
    suffices hkept : ¬ w.LosesLookup w' a record.chain by rw [h.lookup_eq_of_not_lost hkept]
    cases hdirect : w'.linksOutcome record.chain record.address with
    | error failure =>
      rw [callableLibraries_of_error hdirect] at hasked
      obtain ⟨rfl, -⟩ := Question.lookup.inj (List.mem_singleton.1 hasked)
      exact hroot
    | ok direct =>
      have hload := congrArg Traced.value
        (loadLibraries_network hdirect options.maxLibraryDepth)
      rw [callableLibraries_of_ok hload] at hasked
      rcases List.mem_append.1 hasked with hvisited | hinterface
      · exact not_losesLookup_of_asked hdirect hnone hvisited
      · obtain ⟨link, hlink, hlookup⟩ := List.mem_map.1 hinterface
        obtain ⟨rfl, -⟩ := Question.lookup.inj hlookup
        intro hlost
        have hlinks : link ∈ w'.links record.chain record.address := by
          rwa [links, links?, hdirect]
        exact hseen link.2 ⟨⟨link.1, h.mem_links hlinks⟩, .inr ⟨hlost, fun hvisited =>
          not_losesLookup_of_asked hdirect hnone hvisited hlost⟩⟩

/-- **If no library is overlooked, a clean report tells that nothing is lost.** -/
theorem analyse_eq_of_clean (h : w.Weakens w')
    (hclean : (analyse w'.network options record).value.report = .clean)
    (hseen : ∀ a, ¬ w.Overlooks w' options record a) :
    (analyse w'.network options record).value = (analyse w.network options record).value := by
  obtain ⟨⟨tree, hsource⟩, hnone, hkept⟩ := of_clean hclean
  have hlibraries := h.callableLibraries_eq hnone hseen
  have hfound : w'.found options record =
      (record.collected tree (w.libraries options record)).references := by
    rw [found, hsource, libraries, hlibraries]
    rfl
  rw [analyse_eq _ _ hsource, analyse_eq _ _ hsource]
  simp only [Traced.value_bind, Traced.value_pure, Traced.value_mapM, hlibraries]
  refine congrArg (Analysis.assemble _ _) (List.map_congr_left fun request hrequest => ?_)
  obtain ⟨r, hr, hpending⟩ := List.mem_filterMap.1 hrequest
  rw [deferredAddress_congr (h.lookup_target_eq hpending (hkept r (hfound ▸ hr))) h.call_eq]

/-- Where links are followed, and losses do not depend on the spelling of an address, libraries are
overlooked only with the contract itself. -/
theorem not_overlooks (h : w.Weakens w')
    (hnone : (callableLibraries w'.network record.address record.chain
      options.maxLibraryDepth).value.2 = 0)
    (hroot : ¬ w.LosesLookup w' record.address record.chain)
    (hdepth : 2 ≤ options.maxLibraryDepth)
    (hcase : ∀ a b, foldCase a = foldCase b →
      w.LosesLookup w' a record.chain → w.LosesLookup w' b record.chain) (a : String) :
    ¬ w.Overlooks w' options record a := by
  rintro ⟨⟨name, hlink⟩, hlost | ⟨hlost, -⟩⟩
  · exact hroot hlost
  · obtain ⟨direct, hdirect, hmem⟩ := exists_linksOutcome_of_mem_links hlink
    have hdirect' := (h.linksOutcome_eq hroot).trans hdirect
    obtain ⟨b, hb, hasked⟩ := exists_asked_of_direct hdirect' hdepth hmem
    exact not_losesLookup_of_asked hdirect' hnone hasked (hcase a b hb.symm hlost)

end World.Weakens

/-- **All that is lost under a clean report are the calls of overlooked libraries.**

If an analysis gives a clean report in a world in which more lookups fail, its references are among
those of the other world, in the same order and with the same addresses.  What is found there and is
not found here waits for a call of a library that is overlooked; and if none is, the analyses are
the same.  Where links are followed and losses do not depend on the spelling of an address, they are
the same once the contract itself is still there. -/
theorem losses_of_clean_report {w w' : World} (h : w.Weakens w') (options : Options)
    (record : ContractRecord)
    (hclean : (analyse w'.network options record).value.report = .clean) :
    (analyse w'.network options record).value.references.Sublist
        (analyse w.network options record).value.references ∧
      (∀ r ∈ w.found options record, r ∉ w'.found options record →
        ∃ request, r.request? = some request ∧ w.Overlooks w' options record request.target) ∧
      ((∀ a, ¬ w.Overlooks w' options record a) →
        (analyse w'.network options record).value = (analyse w.network options record).value) ∧
      (2 ≤ options.maxLibraryDepth → ¬ w.LosesLookup w' record.address record.chain →
        (∀ a b, foldCase a = foldCase b →
          w.LosesLookup w' a record.chain → w.LosesLookup w' b record.chain) →
        (analyse w'.network options record).value = (analyse w.network options record).value) := by
  obtain ⟨-, hnone, -⟩ := World.of_clean hclean
  refine ⟨h.sublist_references hclean, fun r hr hmissing => ?_, h.analyse_eq_of_clean hclean,
    fun hdepth hroot hcase =>
      h.analyse_eq_of_clean hclean (h.not_overlooks hnone hroot hdepth hcase)⟩
  obtain ⟨request, name, library, hrequest, htarget, hlibrary, hlost⟩ :=
    exists_library_of_not_mem_found hr hmissing
  exact ⟨request, hrequest, htarget ▸ h.overlooks_of_find? hnone hlibrary hlost⟩

section Without

variable (h : ∀ a chain, ∃ records, (w.lookup a chain).outcome = .ok records)
include h

/-- Where all lookups succeed, those of a contract are lost without it. -/
theorem World.losesLookup_without (lost a chain : String) :
    w.LosesLookup (w.without lost) a chain ↔ foldCase a = foldCase lost := by
  constructor
  · rintro ⟨-, failure, hfailure⟩
    by_contra hother
    obtain ⟨records, hrecords⟩ := h a chain
    rw [(w.loses_without lost).lookup_eq a chain hother, hrecords] at hfailure
    cases hfailure
  · exact fun hlost => ⟨h a chain, (w.loses_without lost).fails a chain hlost⟩

theorem World.weakens_without (lost : String) : w.Weakens (w.without lost) where
  lookup_eq a chain := by
    rw [losesLookup_without h]
    exact (em' (foldCase a = foldCase lost)).imp_left ((w.loses_without lost).lookup_eq a chain)
  call_eq := rfl

end Without

/-- A contract that calls its library. -/
def oneCall : ContractRecord :=
  { fourCalls with
    sourceCode := "contract c \x7b function f() public \x7b L.h(); \x7d \x7d"
    library := "L:aaaaaaaaaaaaaaaaaaaaaaaaaaaaaaaaaaaaaaaa" }

/-- A world in which each contract is this one. -/
def oneCallWorld : World where
  lookup _ _ := ⟨5, .ok [oneCall]⟩
  call := echoWorld.call

theorem lookup_oneCallWorld (a chain : String) :
    ∃ records, (oneCallWorld.lookup a chain).outcome = .ok records :=
  ⟨_, rfl⟩

theorem analyse_oneCall_alone :
    (analyse (oneCallWorld.without oneCall.address).network .standard oneCall).value =
      ⟨[], .clean⟩ := by
  decide +kernel

/-- Without the contract itself, the call of its library is lost; without a contract that has
nothing to do with it, nothing is. -/
theorem losses_of_clean_report_oneCall :
    let alone := oneCallWorld.without oneCall.address
    let apart := oneCallWorld.without "0xcccccccccccccccccccccccccccccccccccccccc"
    oneCallWorld.Weakens alone ∧
      (analyse alone.network .standard oneCall).value.report = .clean ∧
      (analyse alone.network .standard oneCall).value.references.Sublist
        (analyse oneCallWorld.network .standard oneCall).value.references ∧
      (∃ r ∈ oneCallWorld.found .standard oneCall, r.span.start = 35 ∧
        ∃ request, r.request? = some request ∧
          oneCallWorld.Overlooks alone .standard oneCall request.target) ∧
      oneCallWorld.Weakens apart ∧
      (analyse apart.network .standard oneCall).value.report = .clean ∧
      (analyse apart.network .standard oneCall).value =
        (analyse oneCallWorld.network .standard oneCall).value := by
  intro alone apart
  have halone : oneCallWorld.Weakens alone := World.weakens_without lookup_oneCallWorld _
  have hapart : oneCallWorld.Weakens apart := World.weakens_without lookup_oneCallWorld _
  have hclean : (analyse alone.network .standard oneCall).value.report = .clean := by
    simp only [alone, analyse_oneCall_alone]
  have hclean' : (analyse apart.network .standard oneCall).value.report = .clean := by
    decide +kernel
  obtain ⟨hsublist, hmissing, -⟩ := losses_of_clean_report halone .standard oneCall hclean
  obtain ⟨-, -, -, hsame⟩ := losses_of_clean_report hapart .standard oneCall hclean'
  obtain ⟨r, hr, hstart, hlost⟩ : ∃ r ∈ oneCallWorld.found .standard oneCall,
      r.span.start = 35 ∧ r ∉ alone.found .standard oneCall := by
    decide +kernel
  refine ⟨halone, hclean, hsublist, ⟨r, hr, hstart, hmissing r hr hlost⟩, hapart, hclean',
    hsame (by decide) ?_ ?_⟩
  · rw [World.losesLookup_without lookup_oneCallWorld]
    decide +kernel
  · intro a b hfold
    simp only [apart, World.losesLookup_without lookup_oneCallWorld, hfold]
    exact id

/-- A clean report does not tell that the references are all there. -/
theorem not_all_references_of_clean_report :
    ¬ ∀ (w w' : World) (options : Options) (record : ContractRecord), w.Weakens w' →
      (analyse w'.network options record).value.report = .clean →
      (analyse w'.network options record).value.references =
        (analyse w.network options record).value.references := by
  intro hall
  have hnone := hall oneCallWorld (oneCallWorld.without oneCall.address) .standard oneCall
    (World.weakens_without lookup_oneCallWorld _) (congrArg Analysis.report analyse_oneCall_alone)
  rw [analyse_oneCall_alone] at hnone
  have hsome : (analyse oneCallWorld.network .standard oneCall).value.references ≠ [] := by
    decide +kernel
  exact hsome hnone.symm

end AddressTrace
