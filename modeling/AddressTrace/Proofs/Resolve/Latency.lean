import Mathlib.Algebra.GroupWithZero.Nat
import AddressTrace.Proofs.Resolve.Interleaved
import AddressTrace.Proofs.Resolve.Libraries

/-!
# How long answers take

Worlds may give the same answers at their own pace.  What a request comes to depends on its pace in
one way only: the lookup and the call of the request share a limit, and together they are below it
or they are not.  Libraries are loaded without a limit, and no request waits for another one.

## Main definitions

* `World.AnswersAlike` — a world with the same answers at another pace;
* `World.answer`, `World.elapsed` — what a request comes to without a limit, and how long it takes;
* `World.spent` — how long the questions take that are asked for a request;
* `Course` — the pace at which the libraries are loaded, and the one that each request meets.

## Main statements

* `World.deferredAddress_eq_ite` — a request in time has its answer, and one that is late fails;
* `World.AnswersAlike.callableLibraries_eq` — libraries do not depend on the pace;
* `Course.Follows.analysis_eq` — all that matters about a course is which requests are late on it;
* `Analysis.sublist_assemble` — outcomes that fail less often give more references;
* `latency_through_limit` — the limit is the only way in which the pace matters.
-/

namespace AddressTrace

/-- **A world with the same answers**, at a pace of its own. -/
structure World.AnswersAlike (w w' : World) : Prop where
  lookup_outcome : ∀ a chain, (w'.lookup a chain).outcome = (w.lookup a chain).outcome
  call_outcome : ∀ chain target method arguments,
    (w'.call chain target method arguments).outcome = (w.call chain target method arguments).outcome

/-! ### One request -/

theorem exceeds_iff {limit elapsed : Nat} :
    exceeds limit elapsed = true ↔ elapsed ≠ 0 ∧ limit ≤ elapsed := by
  simp [exceeds]

/-- What is late stays late when it takes longer, or when the limit is lower. -/
theorem exceeds_of_le {limit limit' elapsed elapsed' : Nat} (h : exceeds limit elapsed = true)
    (hlimit : limit' ≤ limit) (helapsed : elapsed ≤ elapsed') : exceeds limit' elapsed' = true := by
  rw [exceeds_iff] at h ⊢
  omega

namespace World

variable (w : World) (chain : String) (limit : Nat) (request : CallRequest)

/-- How long the answer to a question takes. -/
def delay : Question → Nat
  | .lookup a chain => (w.lookup a chain).delay
  | .call chain target method arguments => (w.call chain target method arguments).delay

/-- **How long the questions take that are asked for a request.** -/
def spent : Nat :=
  ((deferredAddress w.network chain request limit).questions.map w.delay).sum

/-- The overload that a request asks for, as far as the lookup of its contract says. -/
def overload : Except Failure (Option Abi.Method) :=
  (w.interfaceOutcome chain request.target).map fun i =>
    i.bind fun i => i.addressMethod? request.function

/-- **What a request comes to** if it may take as long as it does. -/
def answer : Except Failure String :=
  match w.overload chain request with
  | .error failure => .error failure
  | .ok none => .error (request.notFound chain)
  | .ok (some method) => (w.call chain request.target method request.arguments).outcome

/-- How long the call of a request takes, if there is one to be made. -/
def callDelay : Nat :=
  match w.overload chain request with
  | .ok (some method) => (w.call chain request.target method request.arguments).delay
  | _ => 0

/-- **How long a request takes**: its lookup, and then its call. -/
def elapsed : Nat := (w.lookup request.target chain).delay + w.callDelay chain request

/-- Looking up the overload of a request takes as long as the lookup of its contract. -/
theorem addressMethod_network :
    (w.network.addressMethod request.target chain request.function).value =
      ⟨(w.lookup request.target chain).delay, w.overload chain request⟩ :=
  rfl

/-- **A request in time has its answer, and one that is late fails.** -/
theorem deferredAddress_eq_ite :
    (deferredAddress w.network chain request limit).value =
      if exceeds limit (w.elapsed chain request) then .error request.timeout
      else w.answer chain request := by
  have hfound := w.addressMethod_network chain request
  rw [elapsed, callDelay, answer]
  simp only [deferredAddress, Traced.value_bind]
  generalize (w.network.addressMethod request.target chain request.function).value = found at hfound
  subst hfound
  rcases w.overload chain request with failure | _ | method
  · exact apply_ite Traced.value ..
  · exact apply_ite Traced.value ..
  · let called := w.call chain request.target method request.arguments
    show Traced.value (if exceeds limit (w.lookup request.target chain).delay then _ else _) =
      if exceeds limit ((w.lookup request.target chain).delay + called.delay) then _ else _
    split
    · next hlate =>
      rw [exceeds_of_le hlate le_rfl (Nat.le_add_right _ _)]
      rfl
    · exact apply_ite Traced.value ..

/-- For a request that is late already with its lookup, no call is made. -/
theorem spent_eq :
    w.spent chain limit request = (w.lookup request.target chain).delay +
      if exceeds limit (w.lookup request.target chain).delay then 0
      else w.callDelay chain request := by
  have hfound := w.addressMethod_network chain request
  have hlookup : (w.network.addressMethod request.target chain request.function).questions =
      [.lookup request.target chain] := rfl
  rw [spent, callDelay]
  simp only [deferredAddress, Traced.questions_bind, hlookup, List.map_append, List.sum_append]
  generalize (w.network.addressMethod request.target chain request.function).value = found at hfound
  subst hfound
  rcases w.overload chain request with failure | _ | method
  · split <;> rfl
  · split <;> rfl
  · split
    · rfl
    · -- What the call was answered is all that is left, so nothing more is asked.
      simp only [Traced.questions_bind]
      rw [apply_ite Traced.questions, Traced.questions_pure, Traced.questions_pure, ite_self]
      rfl

/-- **A request is late exactly if the questions that were asked for it took too long.** -/
theorem exceeds_spent :
    exceeds limit (w.spent chain limit request) = exceeds limit (w.elapsed chain request) := by
  rw [spent_eq, elapsed]
  split
  · next hlate =>
    rw [Nat.add_zero, hlate, exceeds_of_le hlate le_rfl (Nat.le_add_right _ _)]
  · rfl

end World

/-! ### The same answers -/

namespace World.AnswersAlike

variable {w w' : World} {chain : String}

theorem refl (w : World) : w.AnswersAlike w := ⟨fun _ _ => rfl, fun _ _ _ _ => rfl⟩

theorem interfaceOutcome_eq (h : w.AnswersAlike w') (a : String) :
    w'.interfaceOutcome chain a = w.interfaceOutcome chain a := by
  rw [interfaceOutcome, interfaceOutcome, h.lookup_outcome]

/-- The answer to a request does not depend on the pace. -/
theorem answer_eq (h : w.AnswersAlike w') (request : CallRequest) :
    w'.answer chain request = w.answer chain request := by
  have hoverload : w'.overload chain request = w.overload chain request := by
    rw [overload, overload, h.interfaceOutcome_eq]
  rw [answer, answer, hoverload]
  cases w.overload chain request with
  | error failure => rfl
  | ok found =>
    cases found with
    | none => rfl
    | some method => exact h.call_outcome _ _ _ _

/-- **The libraries of a source do not depend on the pace.** -/
theorem callableLibraries_eq (h : w.AnswersAlike w') (address : String) (maxDepth : Nat) :
    callableLibraries w'.network address chain maxDepth =
      callableLibraries w.network address chain maxDepth :=
  callableLibraries_congr fun a _ => h.lookup_outcome a chain

/-- What a call heard are the same answers, if all worlds that it met give them. -/
theorem heard {worlds : List World} (h : ∀ w' ∈ worlds, w.AnswersAlike w') :
    w.AnswersAlike (heard w worlds) := by
  match worlds, h with
  | [], _ => exact .refl w
  | [first], h => exact ⟨(h first List.mem_cons_self).lookup_outcome, fun _ _ _ _ => rfl⟩
  | first :: second :: _, h =>
    exact ⟨(h first List.mem_cons_self).lookup_outcome,
      (h second (List.mem_cons_of_mem _ List.mem_cons_self)).call_outcome⟩

end World.AnswersAlike

/-! ### The course of an analysis -/

/-- The requests of the references that are found in a source. -/
def World.requests (w : World) (options : Options) (record : ContractRecord) : List CallRequest :=
  AddressTrace.requests (w.found options record)

/-- Which requests there are does not depend on the limit of time. -/
theorem World.requests_limit (w : World) (limit limit' depth : Nat) (record : ContractRecord) :
    w.requests ⟨limit, depth⟩ record = w.requests ⟨limit', depth⟩ record :=
  rfl

/-- **A course of an analysis**: the world that the libraries are loaded from, and the one that each
request meets.  Requests are made at one time, so each of them may find another pace. -/
structure Course where
  loading : World
  asking : Nat → World

/-- **The answers of a course are those of a world**, at whatever pace. -/
structure Course.Follows (course : Course) (w : World) : Prop where
  loading : w.AnswersAlike course.loading
  asking : ∀ i, w.AnswersAlike (course.asking i)

namespace Course

variable (course : Course) (options : Options) (record : ContractRecord)

/-- The course on which the world keeps its pace. -/
def steady (w : World) : Course := ⟨w, fun _ => w⟩

/-- How long the questions take that are asked for a request on this course. -/
def spent (i : Nat) (request : CallRequest) : Nat :=
  (course.asking i).spent record.chain options.callTimeout request

/-- **What the requests come to** on this course. -/
def outcomes : List (Except Failure String) :=
  (course.loading.requests options record).mapIdx fun i request =>
    (deferredAddress (course.asking i).network record.chain request options.callTimeout).value

/-- **What the analysis comes to** on this course. -/
def analysis : Analysis :=
  match SyntaxTree.ofSource? record.sourceCode with
  | none => .unparsed
  | some tree =>
    let loaded := (callableLibraries course.loading.network record.address record.chain
      options.maxLibraryDepth).value
    .assemble (record.collected tree loaded.1) loaded.2 (course.outcomes options record)

variable {course options record}

/-- An analysis in a world goes the steady course. -/
theorem analysis_steady (w : World) (options : Options) (record : ContractRecord) :
    (steady w).analysis options record = (analyse w.network options record).value := by
  rw [analysis]
  cases hsource : SyntaxTree.ofSource? record.sourceCode with
  | none =>
    rw [analyse, hsource]
    rfl
  | some tree =>
    have houtcomes : (steady w).outcomes options record =
        (w.requests options record).map fun request =>
          (deferredAddress w.network record.chain request options.callTimeout).value := by
      refine List.ext_getElem? fun i => ?_
      rw [outcomes, List.getElem?_mapIdx, List.getElem?_map]
      rfl
    have hrequests : w.requests options record =
        AddressTrace.requests (record.collected tree (w.libraries options record)).references := by
      rw [World.requests, World.found, hsource]
    rw [analyse_eq _ _ hsource, houtcomes, hrequests]
    simp only [Traced.value_bind, Traced.value_pure, Traced.value_mapM]
    rfl

namespace Follows

variable {course' : Course} {w : World}

theorem steady {w' : World} (h : w.AnswersAlike w') : (steady w').Follows w := ⟨h, fun _ => h⟩

/-- Which requests there are does not depend on the course. -/
theorem requests_eq (h : course.Follows w) :
    course.loading.requests options record = w.requests options record := by
  rw [World.requests, World.requests, World.found, World.found, World.libraries, World.libraries,
    h.loading.callableLibraries_eq]

/-- **Each request has its answer, or is late** on its own. -/
theorem getElem?_outcomes (h : course.Follows w) (i : Nat) :
    (course.outcomes options record)[i]? = (w.requests options record)[i]?.map fun request =>
      if exceeds options.callTimeout (course.spent options record i request)
      then .error request.timeout else w.answer record.chain request := by
  rw [outcomes, h.requests_eq, List.getElem?_mapIdx]
  refine congrArg (Option.map · _) (funext fun request => ?_)
  rw [World.deferredAddress_eq_ite, ← World.exceeds_spent, (h.asking i).answer_eq, spent]

/-- On two courses with the same outcomes an analysis comes to the same. -/
theorem analysis_congr (h : course.Follows w) (h' : course'.Follows w)
    (houtcomes : course'.outcomes options record = course.outcomes options record) :
    course'.analysis options record = course.analysis options record := by
  rw [analysis, analysis, houtcomes, h.loading.callableLibraries_eq,
    h'.loading.callableLibraries_eq]

/-- **If the same requests are late on two courses, an analysis comes to the same.** -/
theorem analysis_eq (h : course.Follows w) (h' : course'.Follows w)
    (hlate : ∀ i, ∀ request ∈ (w.requests options record)[i]?,
      exceeds options.callTimeout (course'.spent options record i request) =
        exceeds options.callTimeout (course.spent options record i request)) :
    course'.analysis options record = course.analysis options record := by
  refine h.analysis_congr h' (List.ext_getElem? fun i => ?_)
  rw [h.getElem?_outcomes, h'.getElem?_outcomes]
  refine Option.map_congr fun request hrequest => ?_
  rw [hlate i request hrequest]

end Follows

end Course

/-! ### Outcomes that fail less often -/

/-- **Outcomes that fail less often give more references**: those that there were are there still,
and less is dropped. -/
theorem Analysis.sublist_assemble (found : Collection) (failed : Nat)
    {outcomes outcomes' : List (Except Failure String)}
    (h : List.Forall₂ (fun o o' => o = o' ∨ ∃ failure, o = .error failure) outcomes outcomes') :
    let assembled := assemble found failed outcomes
    let assembled' := assemble found failed outcomes'
    assembled.references.Sublist assembled'.references ∧
      assembled'.report.dropped ≤ assembled.report.dropped := by
  obtain ⟨references, skipped⟩ := found
  simp only [assemble]
  induction references generalizing outcomes outcomes' with
  | nil => exact ⟨.slnil, le_rfl⟩
  | cons r references ih =>
    cases hrequest : r.request? with
    | none =>
      obtain ⟨hsublist, hdropped⟩ := ih h
      rw [distribute_cons_of_none hrequest, distribute_cons_of_none hrequest]
      exact ⟨hsublist.cons_cons r, hdropped⟩
    | some request =>
      cases h with
      | nil => exact ⟨.refl _, le_rfl⟩
      | @cons o o' outcomes outcomes' ho h =>
        obtain ⟨hsublist, hdropped⟩ := ih h
        rw [distribute_cons_of_some hrequest, distribute_cons_of_some hrequest]
        simp only [List.zip_cons_cons, List.countP_cons]
        rcases ho with rfl | ⟨failure, rfl⟩
        · refine ⟨?_, Nat.add_le_add_right hdropped _⟩
          rcases o with failure | address
          · exact hsublist
          · exact hsublist.cons_cons _
        · have hcounted : isDropped (some (.error failure)) = true := rfl
          rw [hcounted]
          refine ⟨?_, Nat.add_le_add hdropped (by split <;> decide)⟩
          rcases o' with failure' | address
          · exact hsublist
          · exact hsublist.cons _

namespace Course

variable {limit limit' : Nat}

/-- Under a higher limit the requests that were in time have the same outcomes. -/
theorem forall₂_outcomes (course : Course) (hlimit : limit ≤ limit') (depth : Nat)
    (record : ContractRecord) :
    List.Forall₂ (fun o o' => o = o' ∨ ∃ failure, o = .error failure)
      (course.outcomes ⟨limit, depth⟩ record) (course.outcomes ⟨limit', depth⟩ record) := by
  rw [List.forall₂_iff_get]
  refine ⟨?_, fun i hi hi' => ?_⟩
  · rw [outcomes, outcomes, List.length_mapIdx, List.length_mapIdx,
      World.requests_limit _ limit limit']
  · simp only [outcomes, List.get_eq_getElem, List.getElem_mapIdx, World.deferredAddress_eq_ite]
    split
    · exact .inr ⟨_, rfl⟩
    · next hintime =>
      have hintime' := mt (fun h => exceeds_of_le h hlimit le_rfl) hintime
      exact .inl (if_neg hintime').symm

/-- **A higher limit only adds references.** -/
theorem sublist_analysis (course : Course) (hlimit : limit ≤ limit') (depth : Nat)
    (record : ContractRecord) :
    let analysis := course.analysis ⟨limit, depth⟩ record
    let analysis' := course.analysis ⟨limit', depth⟩ record
    analysis.references.Sublist analysis'.references ∧
      analysis'.report.dropped ≤ analysis.report.dropped := by
  simp only [analysis]
  cases SyntaxTree.ofSource? record.sourceCode with
  | none => exact ⟨.refl _, le_rfl⟩
  | some tree => exact Analysis.sublist_assemble _ _ (course.forall₂_outcomes hlimit depth record)

end Course

/-! ### The limit -/

/-- **Latency only matters through the limit.**

Of all courses that have the answers of a world: if the world keeps its pace, an analysis comes to
what it comes to on the steady course; requests that are answered in turns, each at its own pace and
in whatever order, have the outcomes of a course; on any course a request is late exactly if the
questions that are asked for it together take some time and are not below the limit, and otherwise
it has its own answer; on two courses on which the same requests are late an analysis comes to the
same; and under a higher limit there are the same references and more of them, with less dropped. -/
theorem latency_through_limit (w : World) (record : ContractRecord) (depth : Nat) :
    (∀ (w' : World) (limit : Nat), w.AnswersAlike w' →
      (Course.steady w').Follows w ∧
        (analyse w'.network ⟨limit, depth⟩ record).value =
          (Course.steady w').analysis ⟨limit, depth⟩ record) ∧
    (∀ (loading : World) (limit : Nat) (turns : List Turn)
        (outcomes : List (Except Failure String)),
      w.AnswersAlike loading → (∀ t ∈ turns, w.AnswersAlike t.world) →
      run record.chain limit turns ((w.requests ⟨limit, depth⟩ record).map .lookingUp) =
          outcomes.map .finished →
        let course : Course := ⟨loading, fun i => heard w (worldsOf i turns)⟩
        course.Follows w ∧ course.outcomes ⟨limit, depth⟩ record = outcomes) ∧
    (∀ (course : Course) (limit : Nat), course.Follows w →
      ∀ (i : Nat) (request : CallRequest), (w.requests ⟨limit, depth⟩ record)[i]? = some request →
        let spent := course.spent ⟨limit, depth⟩ record i request
        (course.outcomes ⟨limit, depth⟩ record)[i]? = some
          (if spent ≠ 0 ∧ limit ≤ spent then .error request.timeout
          else w.answer record.chain request)) ∧
    (∀ (course course' : Course) (limit : Nat), course.Follows w → course'.Follows w →
      (∀ (i : Nat) (request : CallRequest), (w.requests ⟨limit, depth⟩ record)[i]? = some request →
        (exceeds limit (course.spent ⟨limit, depth⟩ record i request) ↔
          exceeds limit (course'.spent ⟨limit, depth⟩ record i request))) →
      course.analysis ⟨limit, depth⟩ record = course'.analysis ⟨limit, depth⟩ record) ∧
    (∀ (course : Course) (limit limit' : Nat), limit ≤ limit' →
      let analysis := course.analysis ⟨limit, depth⟩ record
      let analysis' := course.analysis ⟨limit', depth⟩ record
      analysis.references.Sublist analysis'.references ∧
        analysis'.report.dropped ≤ analysis.report.dropped) := by
  refine ⟨fun w' limit halike => ⟨.steady halike, (Course.analysis_steady ..).symm⟩,
    fun loading limit turns outcomes hloading hturns hended => ?_,
    fun course limit hfollows i request hrequest => ?_,
    fun course course' limit hfollows hfollows' hlate => ?_,
    fun course limit limit' hlimit => course.sublist_analysis hlimit depth record⟩
  · intro course
    have hfollows : course.Follows w := by
      refine ⟨hloading, fun i => .heard fun w' hw' => ?_⟩
      obtain ⟨t, ht, rfl⟩ := List.mem_map.1 hw'
      exact hturns t (List.mem_of_mem_filter ht)
    obtain ⟨hlength, hown⟩ := run_finished hended
    refine ⟨hfollows, List.ext_getElem? fun i => ?_⟩
    rw [Course.outcomes, hfollows.requests_eq, List.getElem?_mapIdx]
    cases hrequest : (w.requests ⟨limit, depth⟩ record)[i]? with
    | none =>
      rw [List.getElem?_eq_none_iff] at hrequest
      exact (List.getElem?_eq_none (hlength.trans_le hrequest)).symm
    | some request => exact (hown w i request hrequest).symm
  · intro spent
    rw [hfollows.getElem?_outcomes, hrequest, Option.map_some]
    simp only [exceeds_iff]
    rfl
  · exact hfollows'.analysis_eq hfollows fun i request hrequest =>
      Bool.eq_iff_iff.2 (hlate i request hrequest)

/-- The answers of `hWorld`, with the whole delay before the call. -/
def hWorldSlowLookups : World where
  lookup a chain := ⟨12, (hWorld.lookup a chain).outcome⟩
  call chain target method arguments := ⟨0, (hWorld.call chain target method arguments).outcome⟩

/-- A request that takes 12 in all, at either pace, is late under a limit of 12, and under one of 13
it is not. -/
theorem latency_through_limit_twoCalls :
    let early : Course := .steady hWorld
    let uneven : Course := ⟨hWorldSlowLookups, fun i => if i = 0 then hWorld else hWorldSlowLookups⟩
    let request : CallRequest := ⟨"0x1111111111111111111111111111111111111111", "h", []⟩
    early.Follows hWorld ∧ uneven.Follows hWorld ∧
      (early.outcomes ⟨12, 8⟩ twoCalls)[1]? = some (.error request.timeout) ∧
      (early.outcomes ⟨13, 8⟩ twoCalls)[1]? =
        some (.ok "0x2222222222222222222222222222222222222222") ∧
      uneven.analysis ⟨12, 8⟩ twoCalls = early.analysis ⟨12, 8⟩ twoCalls ∧
      (∃ outcomes : List (Except Failure String),
        run "eth" 13 [⟨1, hWorldSlowLookups⟩, ⟨0, hWorld⟩, ⟨1, hWorld⟩, ⟨0, hWorld⟩]
            ((hWorld.requests ⟨13, 8⟩ twoCalls).map .lookingUp) = outcomes.map .finished ∧
          outcomes[1]? = some (.error request.timeout)) ∧
      (analyse hWorld.network ⟨12, 8⟩ twoCalls).value.references.Sublist
        (analyse hWorld.network ⟨13, 8⟩ twoCalls).value.references ∧
      (analyse hWorld.network ⟨12, 8⟩ twoCalls).value.report.dropped = 2 ∧
      (analyse hWorld.network ⟨13, 8⟩ twoCalls).value.report.dropped = 1 := by
  intro early uneven request
  have hslow : hWorld.AnswersAlike hWorldSlowLookups := ⟨fun _ _ => rfl, fun _ _ _ _ => rfl⟩
  have huneven : uneven.Follows hWorld := by
    refine ⟨hslow, fun i => ?_⟩
    show hWorld.AnswersAlike (if i = 0 then hWorld else hWorldSlowLookups)
    split
    · exact .refl _
    · exact hslow
  have hrequests : ∀ limit, hWorld.requests ⟨limit, 8⟩ twoCalls =
      [{ request with function := "g" }, request] := by
    intro limit
    rw [World.requests_limit _ limit 0]
    decide +kernel
  obtain ⟨hsteady, hturns, houtcome, hsame, hmore⟩ := latency_through_limit hWorld twoCalls 8
  obtain ⟨hearly, h12⟩ := hsteady hWorld 12 (.refl _)
  obtain ⟨-, h13⟩ := hsteady hWorld 13 (.refl _)
  have hrequest : ∀ limit, (hWorld.requests ⟨limit, 8⟩ twoCalls)[1]? = some request := by
    intro limit
    rw [hrequests]
    rfl
  obtain ⟨outcomes, hended⟩ : ∃ outcomes : List (Except Failure String),
      run "eth" 13 [⟨1, hWorldSlowLookups⟩, ⟨0, hWorld⟩, ⟨1, hWorld⟩, ⟨0, hWorld⟩]
        ((hWorld.requests ⟨13, 8⟩ twoCalls).map .lookingUp) = outcomes.map .finished := by
    refine exists_run_finished ?_
    rw [hrequests]
    decide
  obtain ⟨hcourse, houtcomes⟩ := hturns hWorld 13 _ outcomes (.refl _)
    (by simp [World.AnswersAlike.refl, hslow]) hended
  refine ⟨hearly, huneven, (houtcome early 12 hearly 1 request (hrequest 12)).trans ?_,
    (houtcome early 13 hearly 1 request (hrequest 13)).trans ?_,
    hsame uneven early 12 huneven hearly fun i request' hrequest' => ?_, ⟨outcomes, hended, ?_⟩,
    ?_, by decide +kernel, by decide +kernel⟩
  · decide +kernel
  · decide +kernel
  · rw [hrequests] at hrequest'
    match i, hrequest' with
    | 0, _ => exact Iff.rfl
    | 1, hrequest' =>
      obtain rfl := Option.some.inj hrequest'
      decide +kernel
  · rw [← houtcomes]
    exact (houtcome _ 13 hcourse 1 request (hrequest 13)).trans (by decide +kernel)
  · rw [h12, h13]
    exact (hmore early 12 13 (by decide)).1

end AddressTrace
