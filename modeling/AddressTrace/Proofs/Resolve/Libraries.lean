import AddressTrace.Proofs.Linkage.Depth
import AddressTrace.Proofs.Resolve.Isolation

/-!
# What the libraries of a source depend on

The libraries that a source can call are found by lookups alone, of the contract, of the libraries
behind it and of the interfaces of the direct ones.  Two worlds that give the same records wherever
the first one is asked find the same libraries by the same lookups, however long those take.

## Main definitions

* `World.AgreeOn` — two worlds that give the same records for some questions.

## Main statements

* `loadLibraries_congr`, `callableLibraries_congr` — the same records lead to the same libraries;
* `mem_failed_of_lookup` — a library that is looked up and does not load is noted;
* `callableLibraries_of_ok` — what is asked for the libraries, and what is found.
-/

namespace AddressTrace

/-- **Two worlds give the same records** where some questions are lookups on a chain. -/
def World.AgreeOn (w w' : World) (chain : String) (questions : List Question) : Prop :=
  ∀ a, .lookup a chain ∈ questions → (w'.lookup a chain).outcome = (w.lookup a chain).outcome

variable {w w' : World} {chain address : String}

namespace World.AgreeOn

variable {questions more : List Question}

theorem mono (h : w.AgreeOn w' chain questions) (hsub : more ⊆ questions) :
    w.AgreeOn w' chain more :=
  fun a hasked => h a (hsub hasked)

theorem linksOutcome_eq (h : w.AgreeOn w' chain questions) {a : String}
    (hasked : .lookup a chain ∈ questions) : w'.linksOutcome chain a = w.linksOutcome chain a := by
  rw [linksOutcome, linksOutcome, h a hasked]

theorem interfaceOutcome_eq (h : w.AgreeOn w' chain questions) {a : String}
    (hasked : .lookup a chain ∈ questions) :
    w'.interfaceOutcome chain a = w.interfaceOutcome chain a := by
  rw [interfaceOutcome, interfaceOutcome, h a hasked]

end World.AgreeOn

/-! ### Loading -/

theorem followLinks_congr (s : Libraries.Search) (k : Nat) (level : List String)
    (h : w.AgreeOn w' chain (followLinks w.network chain s k level).questions) :
    followLinks w'.network chain s k level = followLinks w.network chain s k level := by
  induction k generalizing s level with
  | zero => cases level <;> rfl
  | succ k ih =>
      cases level with
      | nil => rfl
      | cons a as =>
          rw [World.followLinks_cons] at h
          have hlevel : (a :: as).map (fun a => (a, w'.linksOutcome chain a)) =
              (a :: as).map (fun a => (a, w.linksOutcome chain a)) := by
            refine List.map_congr_left fun b hb => ?_
            rw [h.linksOutcome_eq (List.mem_append_left _ (List.mem_map_of_mem hb))]
          rw [World.followLinks_cons, World.followLinks_cons, hlevel]
          dsimp only
          rw [ih _ _ (h.mono (List.subset_append_right _ _))]

/-- **Loading depends on the records that it is given**, and on nothing else. -/
theorem loadLibraries_congr {maxDepth : Nat}
    (h : w.AgreeOn w' chain (loadLibraries w.network address chain maxDepth).questions) :
    loadLibraries w'.network address chain maxDepth =
      loadLibraries w.network address chain maxDepth := by
  cases hlinks : w.linksOutcome chain address with
  | error failure =>
      rw [loadLibraries_of_error hlinks] at h ⊢
      exact loadLibraries_of_error ((h.linksOutcome_eq List.mem_cons_self).trans hlinks) maxDepth
  | ok direct =>
      rw [loadLibraries_network hlinks] at h ⊢
      have hlinks' := (h.linksOutcome_eq List.mem_cons_self).trans hlinks
      rw [loadLibraries_network hlinks']
      dsimp only
      rw [followLinks_congr _ _ _ (h.mono (List.subset_cons_self _ _))]

/-- A contract that is visited and does not load is noted. -/
theorem mem_failed_followLinks {a : String} (s : Libraries.Search) (k : Nat) (level : List String)
    (hasked : .lookup a chain ∈ (followLinks w.network chain s k level).questions)
    (hfails : w.links? chain a = none) :
    a ∈ (followLinks w.network chain s k level).value.failed := by
  induction k generalizing s level with
  | zero => cases level <;> exact absurd hasked List.not_mem_nil
  | succ k ih =>
      cases level with
      | nil => exact absurd hasked List.not_mem_nil
      | cons b bs =>
          rw [World.followLinks_cons] at hasked ⊢
          rcases List.mem_append.1 hasked with hlevel | hbelow
          · obtain ⟨c, hc, hlookup⟩ := List.mem_map.1 hlevel
            obtain ⟨rfl, -⟩ := Question.lookup.inj hlookup
            have hnoted := (Libraries.Search.grows_addLevel w chain s (b :: bs)).2
            refine (extends_followLinks w chain _ k _).failed.subset ?_
            rw [hnoted]
            exact List.mem_append_right _ (List.mem_filter.2 ⟨hc, by rw [hfails]; rfl⟩)
          · exact ih _ _ hbelow

/-- **A library that is looked up and does not load is noted.** -/
theorem mem_failed_of_lookup {maxDepth : Nat} {libraries : Libraries} {a : String}
    (hload : (loadLibraries w.network address chain maxDepth).value = .ok libraries)
    (hasked : .lookup a chain ∈ (loadLibraries w.network address chain maxDepth).questions)
    (hfails : w.links? chain a = none) : a ∈ libraries.failed := by
  cases hlinks : w.linksOutcome chain address with
  | error failure =>
      rw [loadLibraries_of_error hlinks] at hload
      cases hload
  | ok direct =>
      rw [loadLibraries_network hlinks] at hload hasked
      obtain rfl := Except.ok.inj hload
      rcases List.mem_cons.1 hasked with hself | hbelow
      · -- The contract itself loads.
        obtain ⟨rfl, -⟩ := Question.lookup.inj hself
        rw [World.links?, hlinks] at hfails
        cases hfails
      · exact mem_failed_followLinks _ _ _ hbelow hfails

/-! ### Calling by name -/

/-- Asking for the functions of libraries is one lookup for each, in their order. -/
theorem libraryFunctions_network (w : World) (linkage : Linkage) (chain : String) :
    libraryFunctions w.network linkage chain =
      ⟨.ofList (linkage.toList.filterMap fun link =>
          linkedLibrary? link.1 link.2 (w.interfaceOutcome chain link.2)),
        linkage.toList.map fun link => .lookup link.2 chain⟩ := by
  apply Traced.ext
  · simp only [libraryFunctions, Traced.value_bind, Traced.value_pure, Traced.value_mapM]
    rw [List.filterMap_map]
    rfl
  · simp only [libraryFunctions, Traced.questions_bind, Traced.questions_pure,
      Traced.questions_mapM, List.append_nil]
    exact List.map_eq_flatMap.symm

theorem callableLibraries_of_error {maxDepth : Nat} {failure : Failure}
    (h : w.linksOutcome chain address = .error failure) :
    callableLibraries w.network address chain maxDepth =
      ⟨(.empty, 0), [.lookup address chain]⟩ := by
  rw [callableLibraries, loadLibraries_of_error h]
  rfl

/-- **What is asked for the libraries of a source, and what is found**: behind the lookups of the
search, one for the interface of each direct library. -/
theorem callableLibraries_of_ok {maxDepth : Nat} {libraries : Libraries}
    (h : (loadLibraries w.network address chain maxDepth).value = .ok libraries) :
    callableLibraries w.network address chain maxDepth =
      ⟨(.ofList (libraries.direct.toList.filterMap fun link =>
          linkedLibrary? link.1 link.2 (w.interfaceOutcome chain link.2)), libraries.failed.length),
        (loadLibraries w.network address chain maxDepth).questions ++
          libraries.direct.toList.map fun link => .lookup link.2 chain⟩ := by
  apply Traced.ext
  · simp only [callableLibraries, Traced.value_bind, h, libraryFunctions_network,
      Traced.value_pure]
  · simp only [callableLibraries, Traced.questions_bind, h, libraryFunctions_network,
      Traced.questions_pure, List.append_nil]

/-- **The libraries of a source depend on the records that are given**, and on nothing else. -/
theorem callableLibraries_congr {maxDepth : Nat}
    (h : w.AgreeOn w' chain (callableLibraries w.network address chain maxDepth).questions) :
    callableLibraries w'.network address chain maxDepth =
      callableLibraries w.network address chain maxDepth := by
  have hload : w.AgreeOn w' chain (loadLibraries w.network address chain maxDepth).questions :=
    h.mono (List.subset_append_left _ _)
  have hsame := loadLibraries_congr hload
  cases hvalue : (loadLibraries w.network address chain maxDepth).value with
  | error failure =>
      apply Traced.ext
      · simp only [callableLibraries, Traced.value_bind, hsame, hvalue, Traced.value_pure]
      · simp only [callableLibraries, Traced.questions_bind, hsame, hvalue, Traced.questions_pure]
  | ok libraries =>
      rw [callableLibraries_of_ok hvalue] at h ⊢
      have hvalue' : (loadLibraries w'.network address chain maxDepth).value = .ok libraries := by
        rw [hsame, hvalue]
      have hfunctions : (libraries.direct.toList.filterMap fun link =>
            linkedLibrary? link.1 link.2 (w'.interfaceOutcome chain link.2)) =
          libraries.direct.toList.filterMap fun link =>
            linkedLibrary? link.1 link.2 (w.interfaceOutcome chain link.2) := by
        refine List.filterMap_congr fun link hlink => ?_
        rw [h.interfaceOutcome_eq (List.mem_append_right _ (List.mem_map_of_mem hlink))]
      rw [callableLibraries_of_ok hvalue', hsame, hfunctions]

end AddressTrace
