import AddressTrace.Proofs.Linkage.BreadthFirst
import Mathlib.Data.List.Infix

/-!
# How far links are followed

A deeper search begins as a shallower one.  Where the shallower one stops, the deeper one goes on
from what was known by then, and a search never takes back what it knows: a name keeps its address,
and what could not be loaded stays noted.

## Main definitions

* `SortedMap.SubmapOf` — a map that holds the entries of another one;
* `Libraries.Search.Extends` — a search that knows what another one knows.

## Main statements

* `Libraries.Search.extends_addLevel` — visiting a level takes nothing back;
* `followLinks_add` — the search that goes deeper, beside the one that stops;
* `loadLibraries_mono` — what a greater depth changes about the libraries of a contract.
-/

namespace AddressTrace

/-- **A map that holds the entries of another one**, and maybe more. -/
def SortedMap.SubmapOf {κ β : Type} [LT κ] [DecidableEq κ] (m n : SortedMap κ β) : Prop :=
  ∀ k v, m.find? k = some v → n.find? k = some v

/-! ### What a search never takes back -/

namespace Libraries.Search

/-- **A search knows what another one knows**: each name has the address that it had, and what was
noted stands in front of what is noted now. -/
structure Extends (s t : Search) : Prop where
  linkage : s.linkage.SubmapOf t.linkage
  failed : s.failed <+: t.failed

theorem Extends.refl (s : Search) : s.Extends s := ⟨fun _ _ h => h, List.prefix_refl _⟩

theorem Extends.trans {s t u : Search} (h : s.Extends t) (h' : t.Extends u) : s.Extends u :=
  ⟨fun _ _ hname => h'.linkage _ _ (h.linkage _ _ hname), h.failed.trans h'.failed⟩

theorem Grows.submapOf {s t : Search} {links : List (String × String)} {new : List String}
    (h : Grows s t links new) : s.linkage.SubmapOf t.linkage := by
  intro name target hname
  rw [h.find?_eq, hname]
  rfl

/-- **Visiting a level takes nothing back.** -/
theorem extends_addLevel (w : World) (chain : String) (s : Search) (addresses : List String) :
    s.Extends (s.addLevel (addresses.map fun a => (a, w.linksOutcome chain a))).1 := by
  obtain ⟨hgrows, hfailed⟩ := grows_addLevel w chain s addresses
  exact ⟨hgrows.submapOf, hfailed ▸ List.prefix_append _ _⟩

end Libraries.Search

/-! ### Two searches of different depth -/

section

variable (w : World) (chain : String)

theorem followLinks_nil (s : Libraries.Search) (k : Nat) :
    followLinks w.network chain s k [] = pure s := by
  cases k <;> rfl

/-- Following links takes nothing back. -/
theorem extends_followLinks (s : Libraries.Search) (k : Nat) (level : List String) :
    s.Extends (followLinks w.network chain s k level).value := by
  induction k generalizing s level with
  | zero => cases level <;> exact .refl s
  | succ k ih =>
      cases level with
      | nil => exact .refl s
      | cons a as =>
          rw [World.followLinks_cons]
          exact (Libraries.Search.extends_addLevel w chain s (a :: as)).trans (ih _ _)

/-- **A search that goes some levels deeper** knows what the shallower one knows, and makes the
lookups of that one first. -/
theorem followLinks_add (s : Libraries.Search) (k more : Nat) (level : List String) :
    let near := followLinks w.network chain s k level
    let far := followLinks w.network chain s (k + more) level
    near.value.Extends far.value ∧ near.questions <+: far.questions := by
  induction k generalizing s level with
  | zero =>
      -- The shallower search stops here, with what both know, and has asked nothing.
      have hstop : followLinks w.network chain s 0 level = pure s := by
        cases level <;> rfl
      rw [hstop, Nat.zero_add]
      exact ⟨extends_followLinks w chain s more level, List.nil_prefix⟩
  | succ k ih =>
      cases level with
      | nil =>
          rw [followLinks_nil, followLinks_nil]
          exact ⟨.refl s, List.prefix_refl _⟩
      | cons a as =>
          rw [Nat.add_right_comm, World.followLinks_cons, World.followLinks_cons]
          obtain ⟨hextends, hbegins⟩ := ih _ _
          exact ⟨hextends, (List.prefix_append_right_inj _).2 hbegins⟩

variable {w chain} {address : String}

/-- Where the contract itself does not load, its lookup is the only one. -/
theorem loadLibraries_of_error {failure : Failure}
    (h : w.linksOutcome chain address = .error failure) (maxDepth : Nat) :
    loadLibraries w.network address chain maxDepth =
      ⟨.error failure, [.lookup address chain]⟩ := by
  rw [loadLibraries, World.links_network, h]
  rfl

end

/-- **A greater depth only adds.**  The lookups of the smaller depth come first and in the same
order.  If the contract does not load, both searches fail alike.  If it loads, both find the same
direct links; all that the smaller depth finds has the same address at the greater one, and what it
notes as failed comes first.  At each depth the direct links are among those found, and no depth at
all is the same as one. -/
theorem loadLibraries_mono (w : World) (address chain : String) {k k' : Nat} (h : k ≤ k') :
    let near := loadLibraries w.network address chain k
    let far := loadLibraries w.network address chain k'
    near.questions <+: far.questions ∧
      ((∃ failure, near.value = .error failure ∧ far.value = .error failure) ∨
        ∃ libraries libraries', near.value = .ok libraries ∧ far.value = .ok libraries' ∧
          libraries.direct = libraries'.direct ∧
          libraries.linkage.SubmapOf libraries'.linkage ∧
          libraries.failed <+: libraries'.failed ∧
          libraries.direct.SubmapOf libraries.linkage ∧
          libraries'.direct.SubmapOf libraries'.linkage) ∧
      loadLibraries w.network address chain 0 = loadLibraries w.network address chain 1 := by
  intro near far
  cases hlinks : w.linksOutcome chain address with
  | error failure =>
      have hnear : near = ⟨.error failure, [.lookup address chain]⟩ :=
        loadLibraries_of_error hlinks k
      have hfar : far = ⟨.error failure, [.lookup address chain]⟩ :=
        loadLibraries_of_error hlinks k'
      rw [hnear, hfar]
      exact ⟨List.prefix_refl _, .inl ⟨failure, rfl, rfl⟩, rfl⟩
  | ok direct =>
      let reached := (Libraries.Search.initial address).addLinks direct.toList
      let followed (n : Nat) := followLinks w.network chain reached.1 (n - 1) reached.2
      have hnear : near = ⟨.ok ⟨direct, (followed k).value.linkage, (followed k).value.failed⟩,
          .lookup address chain :: (followed k).questions⟩ := loadLibraries_network hlinks k
      have hfar : far = ⟨.ok ⟨direct, (followed k').value.linkage, (followed k').value.failed⟩,
          .lookup address chain :: (followed k').questions⟩ := loadLibraries_network hlinks k'
      obtain ⟨more, hmore⟩ := Nat.exists_eq_add_of_le (Nat.sub_le_sub_right h 1)
      obtain ⟨hextends, hbegins⟩ : (followed k).value.Extends (followed k').value ∧
          (followed k).questions <+: (followed k').questions := by
        simp only [followed, hmore]
        exact followLinks_add w chain reached.1 (k - 1) more reached.2
      -- The direct links are the first ones that the search knows.
      have hdirect : direct.SubmapOf reached.1.linkage := by
        intro name target hname
        have hfirst : direct.toList.lookup name = some target := hname
        rw [(Libraries.Search.grows_addLinks _ direct.toList).find?_eq, hfirst]
        rfl
      have hkept (n : Nat) : direct.SubmapOf (followed n).value.linkage := fun name target hname =>
        (extends_followLinks w chain _ _ _).linkage _ _ (hdirect name target hname)
      rw [hnear, hfar]
      exact ⟨(List.prefix_append_right_inj [_]).2 hbegins, .inr ⟨_, _, rfl, rfl, rfl,
        hextends.linkage, hextends.failed, hkept k, hkept k'⟩, rfl⟩

/-- At the second of three levels the library `Four` is not found yet, and of the two libraries that
fail one has not been looked up. -/
theorem loadLibraries_mono_entangled :
    let near := loadLibraries entangled.network "0xC0" "eth" 2
    let far := loadLibraries entangled.network "0xC0" "eth" 3
    2 ≤ 3 ∧ near.questions.length = 3 ∧ far.questions.length = 5 ∧
      near.questions <+: far.questions ∧
      ∃ libraries libraries', near.value = .ok libraries ∧ far.value = .ok libraries' ∧
        libraries.linkage.SubmapOf libraries'.linkage ∧
        libraries.linkage.find? "Four" = none ∧ libraries'.linkage.find? "Four" = some "0xA3" ∧
        libraries.failed = ["0xB1"] ∧ libraries'.failed = ["0xB1", "0xD1"] := by
  intro near far
  have hdepth : 2 ≤ 3 := by decide
  have hlogs : near.questions.length = 3 ∧ far.questions.length = 5 := by decide +kernel
  have hnear : near.value.toOption.map (fun l => (l.linkage.find? "Four", l.failed)) =
      some (none, ["0xB1"]) := by decide +kernel
  have hfar : far.value.toOption.map (fun l => (l.linkage.find? "Four", l.failed)) =
      some (some "0xA3", ["0xB1", "0xD1"]) := by decide +kernel
  obtain ⟨hbegins, ⟨failure, herror, -⟩ | ⟨libraries, libraries', hok, hok', -, hlinkage, -⟩, -⟩ :=
    loadLibraries_mono entangled "0xC0" "eth" hdepth
  · rw [show near.value = .error failure from herror] at hnear
    cases hnear
  · rw [show near.value = .ok libraries from hok] at hnear
    rw [show far.value = .ok libraries' from hok'] at hfar
    obtain ⟨hfour, hfailed⟩ := Prod.mk.inj (Option.some.inj hnear)
    obtain ⟨hfour', hfailed'⟩ := Prod.mk.inj (Option.some.inj hfar)
    exact ⟨hdepth, hlogs.1, hlogs.2, hbegins, libraries, libraries', hok, hok', hlinkage, hfour,
      hfour', hfailed, hfailed'⟩

end AddressTrace
