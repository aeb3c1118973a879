import AddressTrace.Proofs.Tree.Walk
import Mathlib.Data.List.Range

/-!
# How outlines are numbered

A tree made of outlines has the nodes of the outlines in their written order: the top of an outline
comes first, then all nodes below its first child, then those below the next one.  So an outline
takes as many numbers as it has nodes, without a gap, and each node keeps the form, the place and
the children that its outline gives it.

## Main definitions

* `Outline.count`, `Outline.tops` — the numbers that outlines take, and those of their tops;
* `SyntaxTree.Shows` — an outline stands in a tree from a number on;
* `Outline.Everywhere` — a property of all nodes of an outline.

## Main statements

* `SyntaxTree.showsAll_ofOutlines` — the tree of some outlines shows them;
* `SyntaxTree.ShowsAll.exists_shows` — so each of its nodes is one of theirs;
* `SyntaxTree.walk_ofOutlines` — a walk from the root visits the nodes in the order of their
  numbers.
-/

namespace AddressTrace

open Text

namespace Outline

mutual

/-- **The number of nodes of an outline.** -/
def count : Outline → Nat
  | .node _ _ children => countAll children + 1

/-- The number of nodes of some outlines. -/
def countAll : List Outline → Nat
  | [] => 0
  | o :: os => o.count + countAll os

end

/-- **The numbers of the tops of some outlines** of which the first one begins at a number. -/
def tops (start : Nat) : List Outline → List NodeId
  | [] => []
  | o :: os => start :: tops (start + o.count) os

mutual

/-- **A property of all nodes of an outline.** -/
def Everywhere (P : Form → Option Span → List Outline → Prop) : Outline → Prop
  | .node form span children => P form span children ∧ EverywhereAll P children

/-- A property of all nodes of some outlines. -/
def EverywhereAll (P : Form → Option Span → List Outline → Prop) : List Outline → Prop
  | [] => True
  | o :: os => o.Everywhere P ∧ EverywhereAll P os

end

theorem everywhereAll_iff {P : Form → Option Span → List Outline → Prop} {os : List Outline} :
    EverywhereAll P os ↔ ∀ o ∈ os, o.Everywhere P := by
  induction os with
  | nil => simp [EverywhereAll]
  | cons o os ih => simp [EverywhereAll, ih]

@[simp] theorem everywhereAll_append {P : Form → Option Span → List Outline → Prop}
    {os ps : List Outline} :
    EverywhereAll P (os ++ ps) ↔ EverywhereAll P os ∧ EverywhereAll P ps := by
  simp only [everywhereAll_iff, List.mem_append, or_imp, forall_and]

@[simp] theorem everywhereAll_map {α : Type} {P : Form → Option Span → List Outline → Prop}
    {f : α → Outline} {as : List α} :
    EverywhereAll P (as.map f) ↔ ∀ a ∈ as, (f a).Everywhere P := by
  rw [everywhereAll_iff, List.forall_mem_map]

@[simp] theorem everywhereAll_flatMap {α : Type} {P : Form → Option Span → List Outline → Prop}
    {f : α → List Outline} {as : List α} :
    EverywhereAll P (as.flatMap f) ↔ ∀ a ∈ as, EverywhereAll P (f a) := by
  simp only [everywhereAll_iff, List.forall_mem_flatMap]

end Outline

open Outline

namespace SyntaxTree

mutual

/-- **An outline stands in a tree from a number on**: its top has this number, and below it its
children follow one after the other. -/
def Shows (t : SyntaxTree) : Outline → Nat → Prop
  | .node form span children, id =>
    t.kind? id = some (form.kind (tops (id + 1) children)) ∧ t.span? id = span ∧
      t.children id = tops (id + 1) children ∧ ShowsAll t children (id + 1)

/-- Some outlines stand in a tree one after the other from a number on. -/
def ShowsAll (t : SyntaxTree) : List Outline → Nat → Prop
  | [], _ => True
  | o :: os, start => Shows t o start ∧ ShowsAll t os (start + o.count)

end

/-! ### What one outline adds to a tree -/

theorem kind?_congr {t t' : SyntaxTree} {id : Nat} (h : t'.node? id = t.node? id) :
    t'.kind? id = t.kind? id := by
  rw [kind?, kind?, h]

theorem span?_congr {t t' : SyntaxTree} {id : Nat} (h : t'.node? id = t.node? id) :
    t'.span? id = t.span? id := by
  rw [span?, span?, h]

theorem children_congr {t t' : SyntaxTree} {id : Nat} (h : t'.node? id = t.node? id) :
    t'.children id = t.children id := by
  rw [children, children, h]

mutual

/-- An outline stays where it stands as long as its own nodes do not change. -/
theorem Shows.congr {t t' : SyntaxTree} : ∀ {o : Outline} {id : Nat}, t.Shows o id →
    (∀ j : Nat, id ≤ j → j < id + o.count → t'.node? j = t.node? j) → t'.Shows o id
  | .node form span children, id, h, hsame => by
    rw [count] at hsame
    rw [Shows] at h ⊢
    obtain ⟨hkind, hspan, hchildren, hbelow⟩ := h
    have htop := hsame id (Nat.le_refl _) (by omega)
    refine ⟨?_, ?_, ?_, ?_⟩
    · rw [kind?_congr htop, hkind]
    · rw [span?_congr htop, hspan]
    · rw [children_congr htop, hchildren]
    · exact ShowsAll.congr hbelow fun j hle hlt => hsame j (by omega) (by omega)

/-- Outlines stay where they stand as long as their own nodes do not change. -/
theorem ShowsAll.congr {t t' : SyntaxTree} : ∀ {os : List Outline} {start : Nat},
    t.ShowsAll os start →
    (∀ j : Nat, start ≤ j → j < start + countAll os → t'.node? j = t.node? j) → t'.ShowsAll os start
  | [], _, _, _ => by
    rw [ShowsAll]
    trivial
  | o :: os, start, h, hsame => by
    rw [countAll] at hsame
    rw [ShowsAll] at h ⊢
    refine ⟨?_, ?_⟩
    · exact Shows.congr h.1 fun j hle hlt => hsame j hle (by omega)
    · exact ShowsAll.congr h.2 fun j hle hlt => hsame j (by omega) (by omega)

end

/-- **What grafting some outlines below a node changes**: they stand behind the nodes that were
there, of which only the parent changes. -/
structure Grafted (t t' : SyntaxTree) (parent : Nat) (os : List Outline) : Prop where
  size_eq : t'.size = t.size + countAll os
  node?_of_ne : ∀ id : Nat, id < t.size → id ≠ parent → t'.node? id = t.node? id
  node?_parent : t'.node? parent =
    (t.node? parent).map fun n => { n with children := n.children ++ tops t.size os }
  showsAll : t'.ShowsAll os t.size

theorem Grafted.nil (t : SyntaxTree) (parent : Nat) : Grafted t t parent [] where
  size_eq := rfl
  node?_of_ne _ _ _ := rfl
  node?_parent := by
    cases t.node? parent <;> simp [tops]
  showsAll := by
    rw [ShowsAll]
    trivial

theorem Grafted.cons {t₁ t₂ t₃ : SyntaxTree} {parent : Nat} {o : Outline} {os : List Outline}
    (hp : parent < t₁.size) (h₁ : Grafted t₁ t₂ parent [o]) (h₂ : Grafted t₂ t₃ parent os) :
    Grafted t₁ t₃ parent (o :: os) := by
  have hsize : t₂.size = t₁.size + o.count := h₁.size_eq
  constructor
  · rw [h₂.size_eq, hsize, countAll, Nat.add_assoc]
  · intro id hlt hne
    rw [h₂.node?_of_ne id (by omega) hne, h₁.node?_of_ne id hlt hne]
  · rw [h₂.node?_parent, h₁.node?_parent, Option.map_map, hsize]
    congr 1
    funext n
    simp [tops]
  · have hfirst := h₁.showsAll
    rw [ShowsAll] at hfirst
    rw [ShowsAll]
    refine ⟨?_, hsize ▸ h₂.showsAll⟩
    -- The first outline lies between the parent and what is grafted later.
    exact hfirst.1.congr fun j hle hlt => h₂.node?_of_ne j (by omega) (by omega)

mutual

/-- **Grafting an outline** gives its top the next number. -/
theorem grafted_graft (parent : Nat) : ∀ (o : Outline) {t : SyntaxTree}, parent < t.size →
    (graft parent o t).1 = t.size ∧ Grafted t (graft parent o t).2 parent [o]
  | .node form span children, t, hp => by
    have hid : (t.push parent span .statement).1 = t.size := rfl
    have hsize := size_push t parent span .statement
    have hnew := node?_push_new t parent span .statement
    have hold := fun id => @node?_push_of_lt t parent span .statement id
    generalize hpush : t.push parent span .statement = pushed at hid hsize hnew hold
    obtain ⟨id, t₁⟩ := pushed
    obtain rfl : id = t.size := hid
    dsimp only at hsize hnew hold
    obtain ⟨hids, hbelow⟩ := grafted_graftAll t.size children (by omega : t.size < t₁.size)
    generalize hall : graftAll t.size children t₁ = below at hids hbelow
    obtain ⟨ids, t₂⟩ := below
    dsimp only at hids hbelow
    rw [hsize] at hids
    have hgraft : graft parent (.node form span children) t
        = (t.size, t₂.setKind t.size (form.kind ids)) := by
      rw [graft, hpush]
      dsimp only
      rw [hall]
    have hset : ∀ j : Nat, j ≠ t.size →
        (t₂.setKind t.size (form.kind ids)).node? j = t₂.node? j := by
      intro j hj
      rw [node?_setKind]
      simp [hj]
    have htop : (t₂.setKind t.size (form.kind ids)).node? t.size =
        some ⟨form.kind ids, span, some parent, tops (t.size + 1) children⟩ := by
      rw [node?_setKind, hbelow.node?_parent, hnew, hsize]
      simp
    rw [hgraft]
    refine ⟨rfl, ?_⟩
    constructor
    · rw [size_setKind, hbelow.size_eq, hsize, countAll, countAll, count]
      omega
    · intro j hlt hne
      rw [hset j (by omega), hbelow.node?_of_ne j (by omega) (by omega), hold j hlt]
      simp [hne]
    · rw [hset parent (by omega), hbelow.node?_of_ne parent (by omega) (by omega), hold parent hp]
      simp [tops]
    · rw [ShowsAll, ShowsAll, Shows]
      refine ⟨⟨?_, ?_, ?_, ?_⟩, trivial⟩
      · rw [kind?, htop, hids]
        rfl
      · rw [span?, htop]
        rfl
      · rw [SyntaxTree.children, htop]
        rfl
      · have hshown := hbelow.showsAll
        rw [hsize] at hshown
        exact hshown.congr fun j hle hlt => hset j (by omega)

/-- **Grafting outlines** gives their tops the next numbers. -/
theorem grafted_graftAll (parent : Nat) : ∀ (os : List Outline) {t : SyntaxTree},
    parent < t.size → (graftAll parent os t).1 = tops t.size os ∧
      Grafted t (graftAll parent os t).2 parent os
  | [], t, _ => ⟨rfl, .nil t parent⟩
  | o :: os, t, hp => by
    obtain ⟨hid, hfirst⟩ := grafted_graft parent o hp
    have hsize : (graft parent o t).2.size = t.size + o.count := hfirst.size_eq
    have hlt : parent < (graft parent o t).2.size := by omega
    obtain ⟨hids, hrest⟩ := grafted_graftAll parent os hlt
    rw [hsize] at hids
    refine ⟨?_, .cons hp hfirst hrest⟩
    rw [graftAll, tops, ← hids, ← hid]

end

/-! ### The tree of some outlines -/

theorem grafted_ofOutlines (parts : List Outline) :
    Grafted .empty (ofOutlines parts) root parts :=
  (grafted_graftAll root parts (t := .empty) Nat.zero_lt_one).2

theorem size_ofOutlines (parts : List Outline) :
    (ofOutlines parts).size = countAll parts + 1 := by
  rw [(grafted_ofOutlines parts).size_eq, Nat.add_comm]
  rfl

/-- The root has the tops of the outlines as its children. -/
theorem node?_root_ofOutlines (parts : List Outline) :
    (ofOutlines parts).node? root = some ⟨.sourceUnit, none, none, tops 1 parts⟩ :=
  (grafted_ofOutlines parts).node?_parent

/-- **The tree of some outlines shows them**, one after the other behind its root. -/
theorem showsAll_ofOutlines (parts : List Outline) : (ofOutlines parts).ShowsAll parts 1 :=
  (grafted_ofOutlines parts).showsAll

/-! ### From the outlines to the nodes -/

mutual

theorem Shows.exists_shows {t : SyntaxTree} {P : Form → Option Span → List Outline → Prop} :
    ∀ {o : Outline} {id : Nat}, t.Shows o id → o.Everywhere P →
      ∀ j : Nat, id ≤ j → j < id + o.count →
        ∃ form span children, P form span children ∧ t.Shows (.node form span children) j
  | .node form span children, id, h, hP, j, hle, hlt => by
    rw [count] at hlt
    rw [Everywhere] at hP
    rcases Nat.eq_or_lt_of_le hle with rfl | hlt'
    · exact ⟨form, span, children, hP.1, h⟩
    · rw [Shows] at h
      exact ShowsAll.exists_shows h.2.2.2 hP.2 j hlt' (by omega)

/-- **Each number that some outlines take is that of a node of theirs.** -/
theorem ShowsAll.exists_shows {t : SyntaxTree} {P : Form → Option Span → List Outline → Prop} :
    ∀ {os : List Outline} {start : Nat}, t.ShowsAll os start → EverywhereAll P os →
      ∀ j : Nat, start ≤ j → j < start + countAll os →
        ∃ form span children, P form span children ∧ t.Shows (.node form span children) j
  | [], start, _, _, j, hle, hlt => by
    rw [countAll] at hlt
    omega
  | o :: os, start, h, hP, j, hle, hlt => by
    rw [countAll] at hlt
    rw [ShowsAll] at h
    rw [EverywhereAll] at hP
    by_cases hj : j < start + o.count
    · exact Shows.exists_shows h.1 hP.1 j hle hj
    · exact ShowsAll.exists_shows h.2 hP.2 j (by omega) (by omega)

end

/-- A node of a tree of outlines is the root or one of theirs. -/
theorem exists_shows_ofOutlines {P : Form → Option Span → List Outline → Prop}
    {parts : List Outline} (hP : EverywhereAll P parts) {id : Nat}
    (hlt : id < (ofOutlines parts).size) (hne : id ≠ root) :
    ∃ form span children, P form span children ∧
      (ofOutlines parts).Shows (.node form span children) id := by
  rw [size_ofOutlines] at hlt
  have hpos : 1 ≤ id := Nat.one_le_iff_ne_zero.2 hne
  exact (showsAll_ofOutlines parts).exists_shows hP id hpos (by omega)

mutual

theorem Shows.preorder_eq {t : SyntaxTree} (ht : t.Linked) : ∀ {o : Outline} {id : Nat},
    t.Shows o id → t.preorder id = List.range' id o.count
  | .node form span children, id, h => by
    rw [Shows] at h
    rw [ht.preorder_eq, h.2.2.1, ShowsAll.preorder_eq ht h.2.2.2, count, List.range'_succ]

/-- The preorders of outlines that stand one after the other are the numbers they take. -/
theorem ShowsAll.preorder_eq {t : SyntaxTree} (ht : t.Linked) : ∀ {os : List Outline}
    {start : Nat}, t.ShowsAll os start →
      (tops start os).flatMap t.preorder = List.range' start (countAll os)
  | [], _, _ => rfl
  | o :: os, start, h => by
    rw [ShowsAll] at h
    rw [tops, List.flatMap_cons, Shows.preorder_eq ht h.1, ShowsAll.preorder_eq ht h.2, countAll,
      ← List.range'_append_1]

end

/-- **A walk from the root visits the nodes in the order of their numbers.** -/
theorem walk_ofOutlines (parts : List Outline) :
    (ofOutlines parts).walk = List.range (ofOutlines parts).size := by
  have hl := (built_ofOutlines parts).linked
  have hchildren : (ofOutlines parts).children root = tops 1 parts := by
    rw [children, node?_root_ofOutlines]
    rfl
  have hroot : root < (ofOutlines parts).size := hl.size_pos
  rw [walk, hl.walkFrom_eq hroot, hl.preorder_eq, hchildren,
    (showsAll_ofOutlines parts).preorder_eq hl, size_ofOutlines, List.range_eq_range',
    List.range'_succ]
  rfl

end SyntaxTree

end AddressTrace
