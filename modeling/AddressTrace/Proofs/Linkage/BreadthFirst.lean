import AddressTrace.Proofs.Data.SortedMap
import AddressTrace.Proofs.Network.Traced
import Mathlib.Data.List.Nodup

/-!
# Loading libraries as a breadth-first search

The contracts that are looked up form levels: the contract itself, and then what the contracts of
one level link to and no earlier level has.  A level holds the contracts at one distance, along the
links of contracts that load, and each of them once.

## Main definitions

* `World.links?` — the links of a contract that loads;
* `World.Path`, `World.AtDistance` — a chain of links of some length, and of the smallest;
* `World.level`, `World.visited` — the levels of a search, and all levels above one;
* `World.SearchAt` — what a search knows when it comes to a level.

## Main statements

* `World.mem_level`, `World.mem_visited` — levels are distances;
* `World.searchAt_followLinks` — following links passes from level to level;
* `loadLibraries_eq_breadthFirst` — the search as a whole.
-/

namespace AddressTrace

open Address

/-! ### Links and distances -/

namespace World

variable (w : World) (chain : String)

/-- **The links of a contract**, if it loads. -/
def links? (address : String) : Option Linkage := (w.linksOutcome chain address).toOption

/-- The links of a contract in their order, none if it does not load. -/
def links (address : String) : List (String × String) :=
  (w.links? chain address).elim [] SortedMap.toList

/-- **The links of a contract do not depend on the case of its address.** -/
def IgnoresCase : Prop :=
  ∀ a b, foldCase a = foldCase b → w.links? chain a = w.links? chain b

/-- A contract links to another one, each known by its address in lower case. -/
def LinksTo (source target : String) : Prop :=
  ∃ a link, foldCase a = source ∧ link ∈ w.links chain a ∧ foldCase link.2 = target

/-- **A chain of so many links** from one contract to another. -/
inductive Path : Nat → String → String → Prop
  | nil (key : String) : Path 0 key key
  | concat {n : Nat} {first middle last : String} (path : Path n first middle)
      (link : w.LinksTo chain middle last) : Path (n + 1) first last

/-- **A contract is at this distance** from another one: there is a chain of so many links, and no
shorter one. -/
def AtDistance (n : Nat) (first last : String) : Prop :=
  w.Path chain n first last ∧ ∀ m < n, ¬ w.Path chain m first last

/-- Those addresses that are not known, in any spelling; of several spellings the first. -/
def fresh (known : List String) : List String → List String
  | [] => []
  | a :: as =>
    if foldCase a ∈ known then fresh known as else a :: fresh (known ++ [foldCase a]) as

/-- The levels above one, and that level. -/
def levels (address : String) : Nat → List String × List String
  | 0 => ([], [address])
  | n + 1 =>
    let (above, level) := levels address n
    (above ++ level,
      fresh ((above ++ level).map foldCase) ((level.flatMap (w.links chain)).map Prod.snd))

/-- **The contracts of all levels above one**, level by level. -/
def visited (address : String) (n : Nat) : List String := (w.levels chain address n).1

/-- **A level of the search**: the contract itself, and then what the contracts of one level link to
and no level up to this one has, in the order of the links. -/
def level (address : String) (n : Nat) : List String := (w.levels chain address n).2

end World

namespace World

variable {w : World} {chain address : String}

theorem visited_zero : w.visited chain address 0 = [] := rfl

theorem visited_succ (n : Nat) :
    w.visited chain address (n + 1) = w.visited chain address n ++ w.level chain address n := rfl

theorem level_zero : w.level chain address 0 = [address] := rfl

theorem level_succ (n : Nat) :
    w.level chain address (n + 1) =
      fresh ((w.visited chain address (n + 1)).map foldCase)
        (((w.level chain address n).flatMap (w.links chain)).map Prod.snd) := rfl

/-- A contract has links when its lookup succeeds and gives a record. -/
theorem links?_eq (w : World) (chain a : String) :
    w.links? chain a = (w.lookup a chain).outcome.toOption.bind fun records =>
      records.head?.map fun r => Linkage.ofDescriptor r.library := by
  rw [links?, linksOutcome, linksOf]
  rcases (w.lookup a chain).outcome with failure | _ | ⟨r, rs⟩ <;> rfl

/-- In a world whose answers ignore the case of an address, so do the links. -/
theorem ignoresCase_of_lookup_eq
    (h : ∀ a b, foldCase a = foldCase b → w.lookup a chain = w.lookup b chain) :
    w.IgnoresCase chain := by
  intro a b hfold
  rw [links?_eq, links?_eq, h a b hfold]

theorem linksOutcome_of_links? {a : String} {direct : Linkage}
    (h : w.links? chain a = some direct) : w.linksOutcome chain a = .ok direct := by
  rw [links?] at h
  cases houtcome : w.linksOutcome chain a with
  | error failure => rw [houtcome] at h; exact nomatch h
  | ok linkage => rw [houtcome] at h; exact congrArg _ (Option.some.inj h)

theorem links_of_ignoresCase (hw : w.IgnoresCase chain) {a b : String}
    (h : foldCase a = foldCase b) : w.links chain a = w.links chain b := by
  rw [links, links, hw a b h]

/-! ### Addresses met for the first time -/

theorem fresh_append (known as bs : List String) :
    fresh known (as ++ bs) =
      fresh known as ++ fresh (known ++ (fresh known as).map foldCase) bs := by
  induction as generalizing known with
  | nil => rw [fresh, List.map_nil, List.append_nil, List.nil_append, List.nil_append]
  | cons a as ih =>
      rw [List.cons_append, fresh, fresh]
      split
      · exact ih known
      · rw [ih, List.map_cons, List.cons_append, List.append_assoc, List.singleton_append]

theorem mem_map_fresh {known as : List String} {key : String} :
    key ∈ (fresh known as).map foldCase ↔ key ∈ as.map foldCase ∧ key ∉ known := by
  induction as generalizing known with
  | nil => simp [fresh]
  | cons a as ih =>
      rw [fresh]
      by_cases ha : foldCase a ∈ known
      · rw [if_pos ha, ih, List.map_cons, List.mem_cons]
        refine and_congr_left fun hk => (or_iff_right ?_).symm
        rintro rfl
        exact hk ha
      · rw [if_neg ha, List.map_cons, List.mem_cons, ih, List.map_cons, List.mem_cons,
          List.mem_append, List.mem_singleton]
        by_cases hk : key = foldCase a
        · simp [hk, ha]
        · simp [hk]

theorem nodup_map_fresh (known as : List String) : ((fresh known as).map foldCase).Nodup := by
  induction as generalizing known with
  | nil => exact List.nodup_nil
  | cons a as ih =>
      rw [fresh]
      split
      · exact ih known
      · rw [List.map_cons, List.nodup_cons]
        refine ⟨?_, ih _⟩
        intro hmem
        exact (mem_map_fresh.1 hmem).2 (List.mem_append_right _ List.mem_cons_self)

/-! ### Levels are distances -/

/-- No contract is visited twice, whatever the spellings of its address. -/
theorem nodup_visited (w : World) (chain address : String) (n : Nat) :
    ((w.visited chain address n).map foldCase).Nodup := by
  have hlevel : ∀ n, ((w.level chain address n).map foldCase).Nodup := by
    rintro (_ | n)
    · exact List.nodup_singleton _
    · exact nodup_map_fresh _ _
  induction n with
  | zero => exact List.nodup_nil
  | succ n ih =>
      rw [visited_succ, List.map_append, List.nodup_append]
      refine ⟨ih, hlevel n, ?_⟩
      rintro key habove _ hmem rfl
      -- A level is made of what the levels above it do not have.
      rcases n with _ | n
      · exact List.not_mem_nil habove
      · exact (mem_map_fresh.1 hmem).2 habove

/-- What some contracts link to, by the addresses in lower case. -/
theorem mem_map_links (hw : w.IgnoresCase chain) {as : List String} {key : String} :
    key ∈ ((as.flatMap (w.links chain)).map Prod.snd).map foldCase ↔
      ∃ middle ∈ as.map foldCase, w.LinksTo chain middle key := by
  rw [List.map_map, List.mem_map]
  constructor
  · rintro ⟨link, hlink, rfl⟩
    obtain ⟨a, ha, hlink⟩ := List.mem_flatMap.1 hlink
    exact ⟨foldCase a, List.mem_map_of_mem ha, a, link, rfl, hlink, rfl⟩
  · rintro ⟨middle, hmiddle, b, link, hb, hlink, htarget⟩
    obtain ⟨a, ha, hfold⟩ := List.mem_map.1 hmiddle
    -- The link may be one of another spelling, which has the same links.
    rw [links_of_ignoresCase hw (hb.trans hfold.symm)] at hlink
    exact ⟨link, List.mem_flatMap.2 ⟨a, ha, hlink⟩, htarget⟩

theorem exists_path_lt_succ {n : Nat} {first last : String} :
    (∃ m < n + 1, w.Path chain m first last) ↔
      (∃ m < n, w.Path chain m first last) ∨ w.AtDistance chain n first last := by
  constructor
  · rintro ⟨m, hm, hpath⟩
    by_cases hshort : ∃ m < n, w.Path chain m first last
    · exact .inl hshort
    · have hmn : m = n := by
        rcases Nat.lt_succ_iff_lt_or_eq.1 hm with hlt | heq
        · exact absurd ⟨m, hlt, hpath⟩ hshort
        · exact heq
      subst hmn
      exact .inr ⟨hpath, fun k hk hp => hshort ⟨k, hk, hp⟩⟩
  · rintro (⟨m, hm, hpath⟩ | ⟨hpath, -⟩)
    · exact ⟨m, Nat.lt_succ_of_lt hm, hpath⟩
    · exact ⟨n, Nat.lt_succ_self n, hpath⟩

/-- A contract is one link further away than another one that links to it, unless it is nearer. -/
theorem atDistance_succ {n : Nat} {first last : String} :
    w.AtDistance chain (n + 1) first last ↔
      (∃ middle, w.AtDistance chain n first middle ∧ w.LinksTo chain middle last) ∧
        ¬ ∃ m < n + 1, w.Path chain m first last := by
  constructor
  · rintro ⟨hpath, hnot⟩
    refine ⟨?_, fun ⟨m, hm, hp⟩ => hnot m hm hp⟩
    cases hpath with
    | @concat _ _ middle _ hpath hlinks =>
        -- A shorter way to the contract before the last link gives a shorter way to this one.
        have hmiddle : ∀ m < n, ¬ w.Path chain m first middle := by
          intro m hm hp
          exact hnot (m + 1) (Nat.succ_lt_succ hm) (.concat hp hlinks)
        exact ⟨middle, ⟨hpath, hmiddle⟩, hlinks⟩
  · rintro ⟨⟨middle, ⟨hpath, -⟩, hlinks⟩, hnot⟩
    exact ⟨.concat hpath hlinks, fun m hm hp => hnot ⟨m, hm, hp⟩⟩

/-- **A level holds the contracts at its distance, and the levels above it those at a smaller one.**
What one contract links to is no further away than one link more, so a level needs nothing but the
links of the level before. -/
theorem mem_visited_and_mem_level (hw : w.IgnoresCase chain) (address : String) (n : Nat) :
    (∀ key, key ∈ (w.visited chain address n).map foldCase ↔
      ∃ m < n, w.Path chain m (foldCase address) key) ∧
    ∀ key, key ∈ (w.level chain address n).map foldCase ↔
      w.AtDistance chain n (foldCase address) key := by
  induction n with
  | zero =>
      constructor
      · intro key
        rw [visited_zero]
        simp
      · intro key
        rw [level_zero, List.map_singleton, List.mem_singleton]
        constructor
        · rintro rfl
          exact ⟨.nil _, fun m hm => absurd hm (Nat.not_lt_zero m)⟩
        · rintro ⟨⟨_⟩, -⟩
          rfl
  | succ n ih =>
      obtain ⟨hvisited, hlevel⟩ := ih
      have hbelow : ∀ key, key ∈ (w.visited chain address (n + 1)).map foldCase ↔
          ∃ m < n + 1, w.Path chain m (foldCase address) key := by
        intro key
        rw [visited_succ, List.map_append, List.mem_append, hvisited, hlevel, exists_path_lt_succ]
      refine ⟨hbelow, ?_⟩
      intro key
      rw [level_succ, mem_map_fresh, hbelow, mem_map_links hw, atDistance_succ]
      simp only [hlevel]

theorem mem_visited (hw : w.IgnoresCase chain) {n : Nat} {key : String} :
    key ∈ (w.visited chain address n).map foldCase ↔
      ∃ m < n, w.Path chain m (foldCase address) key :=
  (mem_visited_and_mem_level hw address n).1 key

theorem mem_level (hw : w.IgnoresCase chain) {n : Nat} {key : String} :
    key ∈ (w.level chain address n).map foldCase ↔ w.AtDistance chain n (foldCase address) key :=
  (mem_visited_and_mem_level hw address n).2 key

end World

/-! ### What one level adds -/

namespace Libraries.Search

open World

/-- What a search knows before it visits anything. -/
def initial (address : String) : Search := ⟨[foldCase address], .empty, []⟩

/-- **What some links add to a search**, given the addresses that they give. -/
structure Grows (s t : Search) (links : List (String × String)) (new : List String) : Prop where
  /-- New are the addresses that were not seen, each once. -/
  new_eq : new = fresh s.seen (links.map Prod.snd)
  seen_eq : t.seen = s.seen ++ new.map foldCase
  /-- The first link of a name stays. -/
  find?_eq : ∀ name, t.linkage.find? name = (s.linkage.find? name).or (links.lookup name)

theorem Grows.refl (s : Search) : Grows s s [] [] :=
  ⟨rfl, (List.append_nil _).symm, fun _ => (Option.or_none ..).symm⟩

/-- Links that are added one after the other add up. -/
theorem Grows.trans {s t u : Search} {links more : List (String × String)} {new next : List String}
    (h₁ : Grows s t links new) (h₂ : Grows t u more next) :
    Grows s u (links ++ more) (new ++ next) where
  new_eq := by
    rw [List.map_append, fresh_append, ← h₁.new_eq, ← h₁.seen_eq, ← h₂.new_eq]
  seen_eq := by rw [h₂.seen_eq, h₁.seen_eq, List.map_append, List.append_assoc]
  find?_eq name := by rw [h₂.find?_eq, h₁.find?_eq, List.lookup_append, Option.or_assoc]

theorem grows_addLink (s : Search) (name address : String) :
    Grows s (s.addLink name address).1 [(name, address)] (s.addLink name address).2 where
  new_eq := by
    rw [addLink, List.map_singleton]
    simp only [List.contains_iff_mem, fresh]
  seen_eq := by
    rw [addLink]
    dsimp only
    split
    · rw [List.map_nil, List.append_nil]
    · rw [List.map_singleton]
  find?_eq other := by
    rw [addLink, SortedMap.find?_insertNew]
    by_cases h : name = other
    · rw [h, if_pos rfl, List.lookup_cons_self]
    · rw [if_neg h, Entries.lookup_cons_of_ne h, List.lookup_nil]

theorem grows_addLinks (s : Search) (links : List (String × String)) :
    Grows s (s.addLinks links).1 links (s.addLinks links).2 := by
  induction links generalizing s with
  | nil => exact .refl s
  | cons link rest ih => exact (grows_addLink s link.1 link.2).trans (ih _)

theorem failed_addLinks (s : Search) (links : List (String × String)) :
    (s.addLinks links).1.failed = s.failed := by
  induction links generalizing s with
  | nil => rfl
  | cons link rest ih => exact ih _

/-- **A level adds the links of its contracts that load**, and those that do not load are noted. -/
theorem grows_addLevel (w : World) (chain : String) (s : Search) (addresses : List String) :
    let reached := s.addLevel (addresses.map fun a => (a, w.linksOutcome chain a))
    Grows s reached.1 (addresses.flatMap (w.links chain)) reached.2 ∧
      reached.1.failed = s.failed ++ addresses.filter fun a => (w.links? chain a).isNone := by
  induction addresses generalizing s with
  | nil => exact ⟨.refl s, (List.append_nil _).symm⟩
  | cons a as ih =>
      rw [List.map_cons, List.flatMap_cons]
      cases hlinks : w.linksOutcome chain a with
      | error failure =>
          have hnone : w.links? chain a = none := by rw [links?, hlinks]; rfl
          -- Nothing that `Grows` speaks of depends on what is noted.
          obtain ⟨hgrows, hfailed⟩ := ih { s with failed := s.failed ++ [a] }
          constructor
          · rw [links, hnone]
            exact ⟨hgrows.new_eq, hgrows.seen_eq, hgrows.find?_eq⟩
          · rw [List.filter_cons_of_pos (by rw [hnone]; rfl)]
            rw [addLevel, hfailed, List.append_assoc, List.singleton_append]
      | ok direct =>
          have hsome : w.links? chain a = some direct := by rw [links?, hlinks]; rfl
          obtain ⟨hgrows, hfailed⟩ := ih (s.addLinks direct.toList).1
          constructor
          · rw [links, hsome]
            exact (grows_addLinks s direct.toList).trans hgrows
          · rw [List.filter_cons_of_neg (by rw [hsome]; exact Bool.false_ne_true)]
            rw [addLevel, hfailed, failed_addLinks]

end Libraries.Search

/-! ### From level to level -/

namespace World

open Libraries

variable {w : World} {chain address : String}

/-- **What a search knows when it comes to a level**: it has seen the contracts down to the level,
and it knows the links of those above. -/
structure SearchAt (w : World) (chain address : String) (n : Nat) (s : Search) : Prop where
  seen_eq : s.seen = (w.visited chain address (n + 1)).map foldCase
  find?_eq : ∀ name, s.linkage.find? name =
    ((w.visited chain address n).flatMap (w.links chain)).lookup name
  failed_eq : s.failed =
    (w.visited chain address n).filter fun a => (w.links? chain a).isNone

theorem searchAt_start (w : World) (chain address : String) :
    w.SearchAt chain address 0 (.initial address) :=
  ⟨rfl, fun _ => rfl, rfl⟩

/-- **Visiting a level** leads to the next one. -/
theorem SearchAt.addLevel {n : Nat} {s : Search} (h : w.SearchAt chain address n s) :
    let reached := s.addLevel
      ((w.level chain address n).map fun a => (a, w.linksOutcome chain a))
    w.SearchAt chain address (n + 1) reached.1 ∧ reached.2 = w.level chain address (n + 1) := by
  intro reached
  obtain ⟨hgrows, hfailed⟩ := Search.grows_addLevel w chain s (w.level chain address n)
  have hnext : reached.2 = w.level chain address (n + 1) := by
    rw [level_succ, ← h.seen_eq]
    exact hgrows.new_eq
  refine ⟨⟨?_, ?_, ?_⟩, hnext⟩
  · rw [visited_succ (n + 1), List.map_append, ← hnext, ← h.seen_eq]
    exact hgrows.seen_eq
  · intro name
    rw [visited_succ, List.flatMap_append, List.lookup_append, ← h.find?_eq]
    exact hgrows.find?_eq name
  · rw [visited_succ, List.filter_append, ← h.failed_eq]
    exact hfailed

/-- Behind an empty level there is nothing. -/
theorem SearchAt.of_level_eq_nil {n : Nat} {s : Search} (h : w.SearchAt chain address n s)
    (hnil : w.level chain address n = []) (k : Nat) :
    w.SearchAt chain address (n + k) s ∧
      w.visited chain address (n + k) = w.visited chain address n ∧
      w.level chain address (n + k) = [] := by
  induction k with
  | zero => exact ⟨h, rfl, hnil⟩
  | succ k ih =>
      obtain ⟨hs, hvisited, hlevel⟩ := ih
      have hsame : w.visited chain address (n + k + 1) = w.visited chain address (n + k) := by
        rw [visited_succ, hlevel, List.append_nil]
      have hbehind : w.level chain address (n + k + 1) = [] := by
        rw [level_succ, hlevel]
        rfl
      refine ⟨⟨?_, ?_, ?_⟩, hsame.trans hvisited, hbehind⟩
      · rw [← Nat.add_assoc, visited_succ, hbehind, List.append_nil]
        exact hs.seen_eq
      · intro name
        rw [← Nat.add_assoc, hsame]
        exact hs.find?_eq name
      · rw [← Nat.add_assoc, hsame]
        exact hs.failed_eq

/-- A level that is not empty is looked up, and then the next one is followed. -/
theorem followLinks_cons (w : World) (chain : String) (s : Search) (k : Nat) (a : String)
    (as : List String) :
    followLinks w.network chain s (k + 1) (a :: as) =
      let reached := s.addLevel ((a :: as).map fun a => (a, w.linksOutcome chain a))
      let followed := followLinks w.network chain reached.1 k reached.2
      ⟨followed.value, (a :: as).map (.lookup · chain) ++ followed.questions⟩ := by
  rw [followLinks, linksOfAll_network]
  rfl

/-- **Following links passes from level to level**, and looks up the contracts of each. -/
theorem searchAt_followLinks (k : Nat) {n : Nat} {s : Search}
    (h : w.SearchAt chain address n s) :
    let followed := followLinks w.network chain s k (w.level chain address n)
    w.SearchAt chain address (n + k) followed.value ∧
      (w.visited chain address (n + k)).map (.lookup · chain) =
        (w.visited chain address n).map (.lookup · chain) ++ followed.questions := by
  induction k generalizing n s with
  | zero =>
      have hstop : followLinks w.network chain s 0 (w.level chain address n) = pure s := by
        cases w.level chain address n <;> rfl
      rw [hstop]
      exact ⟨h, (List.append_nil _).symm⟩
  | succ k ih =>
      obtain ⟨hs, hnext⟩ := h.addLevel
      obtain ⟨hend, hlog⟩ := ih hs
      rw [← hnext] at hend hlog
      rw [visited_succ, List.map_append, List.append_assoc] at hlog
      cases hlevel : w.level chain address n with
      | nil =>
          -- The search ends before it has gone through all levels, but those are empty.
          obtain ⟨hsame, hvisited, -⟩ := h.of_level_eq_nil hlevel (k + 1)
          rw [hvisited]
          exact ⟨hsame, (List.append_nil _).symm⟩
      | cons a as =>
          rw [hlevel] at hend hlog
          rw [followLinks_cons, ← Nat.add_assoc, Nat.add_right_comm]
          exact ⟨hend, hlog⟩

end World

/-- A contract that loads is looked up, and then its links are followed. -/
theorem loadLibraries_network {w : World} {address chain : String} {direct : Linkage}
    (h : w.linksOutcome chain address = .ok direct) (maxDepth : Nat) :
    loadLibraries w.network address chain maxDepth =
      let reached := (Libraries.Search.initial address).addLinks direct.toList
      let followed := followLinks w.network chain reached.1 (maxDepth - 1) reached.2
      ⟨.ok ⟨direct, followed.value.linkage, followed.value.failed⟩,
        .lookup address chain :: followed.questions⟩ := by
  rw [loadLibraries, World.links_network, h]
  exact Traced.ext rfl (congrArg (List.cons _) (List.append_nil _))

open World in
/-- **Loading libraries is a breadth-first search.**  When a contract loads, all contracts at a
smaller distance than the depth are looked up, and no other one; each of them once, whatever the
spellings of its address, level by level.  The links of those that load are found, of one name the
first one, and those that do not load are noted; nothing else depends on them. -/
theorem loadLibraries_eq_breadthFirst
    (w : World) (address chain : String) (maxDepth : Nat) {direct : Linkage}
    (hcase : w.IgnoresCase chain) (hdirect : w.links? chain address = some direct) :
    let visited := w.visited chain address (max 1 maxDepth)
    ∃ libraries : Libraries,
      loadLibraries w.network address chain maxDepth =
          ⟨.ok libraries, visited.map (.lookup · chain)⟩ ∧
        (visited.map foldCase).Nodup ∧
        (∀ key, key ∈ visited.map foldCase ↔
          ∃ n < max 1 maxDepth, w.Path chain n (foldCase address) key) ∧
        libraries.direct = direct ∧
        (∀ name target, (name, target) ∈ libraries.linkage.toList ↔
          (visited.flatMap (w.links chain)).lookup name = some target) ∧
        libraries.linkage.keys.Nodup ∧
        libraries.failed = visited.filter fun a => (w.links? chain a).isNone := by
  intro visited
  have hlinks := linksOutcome_of_links? hdirect
  obtain ⟨hstart, hfirst⟩ := (searchAt_start w chain address).addLevel
  -- The contract itself is the first level, and visiting it adds its links.
  have hadd : (Libraries.Search.initial address).addLevel
      ((w.level chain address 0).map fun a => (a, w.linksOutcome chain a)) =
        (Libraries.Search.initial address).addLinks direct.toList := by
    rw [level_zero, List.map_singleton, hlinks]
    exact Prod.ext rfl (List.append_nil _)
  rw [hadd] at hstart hfirst
  obtain ⟨hend, hlog⟩ := searchAt_followLinks (maxDepth - 1) hstart
  have hlevels : 0 + 1 + (maxDepth - 1) = max 1 maxDepth := by omega
  rw [hlevels, ← hfirst] at hend hlog
  have hload := loadLibraries_network hlinks maxDepth
  refine ⟨⟨direct, _, _⟩, hload.trans (Traced.ext rfl hlog.symm), nodup_visited w chain address _,
    fun key => mem_visited hcase, rfl, fun name target => ?_, SortedMap.nodup_keys _,
    hend.failed_eq⟩
  rw [SortedMap.mem_toList, hend.find?_eq]

/-! ### A cycle, a diamond and a library that fails -/

/-- The answer that a contract has one file and is linked with some libraries. -/
def linkedReply (descriptor : String) : Reply (List ContractRecord) :=
  ⟨0, .ok [⟨"", "", "", "", "", descriptor, none⟩]⟩

/-- A contract `0xc0` with two libraries.  The first one links back to it, to the second one in
another spelling, and to two more, of which one links to itself and beyond.  All others fail. -/
def entangledReply : String → Reply (List ContractRecord)
  | "0xc0" => linkedReply "One:0xA1;Two:0xB1"
  | "0xa1" => linkedReply "Back:0xC0;One:0xD1;Other:0xb1;Three:0xA2"
  | "0xa2" => linkedReply "Four:0xA3;Self:0xa2"
  | _ => ⟨0, .error .http⟩

/-- The world of these contracts. -/
def entangled : World where
  lookup address _ := entangledReply (foldCase address)
  call _ _ _ _ := ⟨0, .error .http⟩

/-- Three levels are five lookups, of which two fail; of the two libraries `One` the nearer one
stays. -/
theorem loadLibraries_entangled :
    entangled.IgnoresCase "eth" ∧
      entangled.links? "eth" "0xC0" = some (.ofList [("One", "0xA1"), ("Two", "0xB1")]) ∧
      ∃ libraries : Libraries,
        loadLibraries entangled.network "0xC0" "eth" 3 =
          ⟨.ok libraries, ["0xC0", "0xA1", "0xB1", "0xD1", "0xA2"].map (.lookup · "eth")⟩ ∧
        libraries.failed = ["0xB1", "0xD1"] ∧ ("One", "0xA1") ∈ libraries.linkage.toList := by
  have hcase : entangled.IgnoresCase "eth" :=
    World.ignoresCase_of_lookup_eq fun _ _ h => congrArg entangledReply h
  have hdirect : entangled.links? "eth" "0xC0" =
      some (.ofList [("One", "0xA1"), ("Two", "0xB1")]) := by
    decide +kernel
  obtain ⟨libraries, hload, -, -, -, hlinkage, -, hfailed⟩ :=
    loadLibraries_eq_breadthFirst entangled "0xC0" "eth" 3 hcase hdirect
  have hvisited : entangled.visited "eth" "0xC0" (max 1 3) =
      ["0xC0", "0xA1", "0xB1", "0xD1", "0xA2"] := by
    decide +kernel
  rw [hvisited] at hload hfailed
  refine ⟨hcase, hdirect, libraries, hload, ?_, ?_⟩
  · rw [hfailed]
    decide +kernel
  · rw [hlinkage, hvisited]
    decide +kernel

end AddressTrace
