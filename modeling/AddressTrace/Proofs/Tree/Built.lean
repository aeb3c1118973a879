import AddressTrace.Tree.Outline
import Mathlib.Data.List.Nodup

/-!
# Trees that were built node by node

A tree is built by adding nodes below nodes that are there and by setting kinds.  This decides how
its nodes hang together, whatever the kinds say: the children of a node are the nodes that have it
as their parent, in the order in which they were added, and a node comes after its parent.

## Main definitions

* `SyntaxTree.Built` — the trees that can be built;
* `SyntaxTree.Linked` — what all of them have in common.

## Main statements

* `SyntaxTree.Built.linked` — a built tree is linked;
* `SyntaxTree.built_ofOutlines` — numbering outlines builds a tree;
* `SyntaxTree.Linked.induction_children`, `SyntaxTree.Linked.induction_parent` — induction over a
  linked tree, from its leaves and from its root.
-/

namespace AddressTrace

open Text

namespace SyntaxTree

/-- **The trees that can be built** from the tree with nothing but its root. -/
inductive Built : SyntaxTree → Prop
  | empty : Built .empty
  | push {t : SyntaxTree} {parent : NodeId} (span : Option Span) (kind : NodeKind)
      (built : Built t) (lt : parent < t.size) : Built (t.push parent span kind).2
  | setKind {t : SyntaxTree} {id : NodeId} (kind : NodeKind)
      (built : Built t) (lt : id < t.size) : Built (t.setKind id kind)

/-! ### What the two operations change -/

theorem node?_eq_none {t : SyntaxTree} {id : NodeId} (h : t.size ≤ id) : t.node? id = none := by
  simpa [node?, size] using h

theorem children_eq_nil {t : SyntaxTree} {id : NodeId} (h : t.size ≤ id) :
    t.children id = [] := by
  rw [children, node?_eq_none h, Option.map_none, Option.getD_none]

/-- A node that is found is one of the tree. -/
theorem lt_size_of_node? {t : SyntaxTree} {id : NodeId} {n : Node} (h : t.node? id = some n) :
    id < t.size := by
  by_contra hge
  rw [node?_eq_none (Nat.le_of_not_lt hge)] at h
  cases h

theorem lt_size_of_kind? {t : SyntaxTree} {id : NodeId} {k : NodeKind}
    (h : t.kind? id = some k) : id < t.size := by
  obtain ⟨n, hn, -⟩ := Option.map_eq_some_iff.1 h
  exact lt_size_of_node? hn

theorem lt_size_of_parent? {t : SyntaxTree} {id p : NodeId} (h : t.parent? id = some p) :
    id < t.size := by
  obtain ⟨n, hn, -⟩ := Option.bind_eq_some_iff.1 h
  exact lt_size_of_node? hn

/-- Beyond the new node there is none. -/
theorem node?_push_of_gt (t : SyntaxTree) (parent : NodeId) (span : Option Span)
    (kind : NodeKind) {id : NodeId} (h : t.size < id) :
    (t.push parent span kind).2.node? id = none := by
  apply node?_eq_none
  rw [size_push]
  exact h

/-- The parents stay, and the new node has the one it was added to. -/
theorem parent?_push (t : SyntaxTree) (parent : NodeId) (span : Option Span) (kind : NodeKind)
    (id : NodeId) :
    (t.push parent span kind).2.parent? id =
      if id = t.size then some parent else t.parent? id := by
  rcases Nat.lt_trichotomy id t.size with h | rfl | h
  · rw [if_neg (Nat.ne_of_lt h), parent?, parent?, node?_push_of_lt t parent span kind h]
    cases t.node? id with
    | none => rfl
    | some n =>
        rw [Option.map_some, Option.bind_some, Option.bind_some]
        split <;> rfl
  · rw [if_pos rfl, parent?, node?_push_new]
    rfl
  · rw [if_neg (Nat.ne_of_gt h), parent?, parent?, node?_push_of_gt t parent span kind h,
      node?_eq_none (Nat.le_of_lt h)]

/-- Only the node that was added to has one more child. -/
theorem children_push (t : SyntaxTree) {parent : NodeId} (span : Option Span) (kind : NodeKind)
    (hp : parent < t.size) (id : NodeId) :
    (t.push parent span kind).2.children id =
      if parent = id then t.children id ++ [t.size] else t.children id := by
  rcases Nat.lt_trichotomy id t.size with h | rfl | h
  · rw [children, children, node?_push_of_lt t parent span kind h]
    cases hn : t.node? id with
    | none =>
        have hlen : id < t.nodes.size := h
        simp [node?, hlen] at hn
    | some n =>
        by_cases he : parent = id
        · simp [he]
        · simp [he, Ne.symm he]
  · rw [if_neg (Nat.ne_of_lt hp), children, node?_push_new, children_eq_nil (Nat.le_refl _)]
    rfl
  · rw [if_neg (Nat.ne_of_lt (Nat.lt_trans hp h)), children_eq_nil (Nat.le_of_lt h), children,
      node?_push_of_gt t parent span kind h]
    rfl

@[simp] theorem parent?_setKind (t : SyntaxTree) (id : NodeId) (kind : NodeKind)
    (other : NodeId) : (t.setKind id kind).parent? other = t.parent? other := by
  rw [parent?, parent?, node?_setKind]
  cases t.node? other with
  | none => rfl
  | some n =>
      rw [Option.map_some, Option.bind_some, Option.bind_some]
      split <;> rfl

@[simp] theorem span?_setKind (t : SyntaxTree) (id : NodeId) (kind : NodeKind)
    (other : NodeId) : (t.setKind id kind).span? other = t.span? other := by
  rw [span?, span?, node?_setKind]
  cases t.node? other with
  | none => rfl
  | some n =>
      rw [Option.map_some, Option.bind_some, Option.bind_some]
      split <;> rfl

theorem kind?_setKind_self (t : SyntaxTree) (id : NodeId) (kind : NodeKind) :
    (t.setKind id kind).kind? id = (t.kind? id).map fun _ => kind := by
  rw [kind?, kind?, node?_setKind, Option.map_map, Option.map_map]
  congr 1
  funext n
  rw [Function.comp_apply, if_pos rfl]
  rfl

/-- The other nodes keep their kinds. -/
theorem kind?_setKind_of_ne (t : SyntaxTree) {id other : NodeId} (kind : NodeKind)
    (h : other ≠ id) : (t.setKind id kind).kind? other = t.kind? other := by
  rw [kind?, kind?, node?_setKind, Option.map_map]
  congr 1
  funext n
  rw [Function.comp_apply, if_neg h]

/-- The nodes around a node stay the same. -/
@[simp] theorem ancestors_setKind (t : SyntaxTree) (id : NodeId) (kind : NodeKind)
    (other : NodeId) : (t.setKind id kind).ancestors other = t.ancestors other := by
  have hwithin : ∀ steps node,
      (t.setKind id kind).ancestorsWithin steps node = t.ancestorsWithin steps node := by
    intro steps
    induction steps with
    | zero => exact fun _ => rfl
    | succ steps ih =>
        intro node
        rw [ancestorsWithin, ancestorsWithin, parent?_setKind]
        cases t.parent? node with
        | none => rfl
        | some p => exact congrArg (p :: ·) (ih p)
  rw [ancestors, ancestors, size_setKind, hwithin]

@[simp] theorem children_setKind (t : SyntaxTree) (id : NodeId) (kind : NodeKind)
    (other : NodeId) : (t.setKind id kind).children other = t.children other := by
  rw [children, children, node?_setKind, Option.map_map]
  congr 2
  funext n
  simp only [Function.comp]
  split <;> rfl

/-! ### How the nodes of a built tree hang together -/

/-- **How the nodes of a tree hang together.** -/
structure Linked (t : SyntaxTree) : Prop where
  /-- There is a root. -/
  size_pos : 0 < t.size
  /-- The root has no parent. -/
  parent?_root : t.parent? root = none
  /-- Every other node has one. -/
  exists_parent : ∀ id, 0 < id → id < t.size → ∃ p, t.parent? id = some p
  /-- A node comes after its parent. -/
  parent_lt : ∀ {id p}, t.parent? id = some p → p < id
  /-- The children of a node are the nodes with this parent, in their order. -/
  children_eq : ∀ p,
    t.children p = (List.range t.size).filter fun id => decide (t.parent? id = some p)

theorem linked_empty : Linked .empty where
  size_pos := Nat.zero_lt_one
  parent?_root := rfl
  exists_parent id hpos hlt := absurd hlt (Nat.not_lt.2 hpos)
  parent_lt {id p} h := by
    have hlt : id < 1 := lt_size_of_parent? h
    obtain rfl : id = root := Nat.lt_one_iff.1 hlt
    cases h
  children_eq p := by
    have hp : empty.parent? 0 = none := rfl
    have hs : empty.size = 1 := rfl
    rw [hs, List.range_one, List.filter_cons, hp, List.filter_nil]
    rcases Nat.eq_zero_or_pos p with rfl | h
    · rfl
    · exact children_eq_nil h

theorem Linked.push {t : SyntaxTree} (h : t.Linked) {parent : NodeId} (span : Option Span)
    (kind : NodeKind) (hp : parent < t.size) : (t.push parent span kind).2.Linked where
  size_pos := by
    rw [size_push]
    exact Nat.succ_pos _
  parent?_root := by
    have hne : root ≠ t.size := Nat.ne_of_lt h.size_pos
    rw [parent?_push, if_neg hne, h.parent?_root]
  exists_parent id hpos hlt := by
    rw [size_push] at hlt
    rw [parent?_push]
    by_cases he : id = t.size
    · exact ⟨parent, if_pos he⟩
    · rw [if_neg he]
      exact h.exists_parent id hpos (by omega)
  parent_lt {id p} hid := by
    rw [parent?_push] at hid
    split at hid
    · next he =>
        cases hid
        exact he ▸ hp
    · exact h.parent_lt hid
  children_eq p := by
    have hold : (List.range t.size).filter
          (fun id => decide ((t.push parent span kind).2.parent? id = some p))
        = t.children p := by
      rw [h.children_eq p]
      refine List.filter_congr fun id hid => ?_
      rw [parent?_push, if_neg (Nat.ne_of_lt (List.mem_range.1 hid))]
    have hnew : [t.size].filter
          (fun id => decide ((t.push parent span kind).2.parent? id = some p))
        = if parent = p then [t.size] else [] := by
      rw [List.filter_singleton, parent?_push, if_pos rfl]
      by_cases he : parent = p <;> simp [he]
    rw [size_push, List.range_succ, List.filter_append, hold, hnew,
      children_push t span kind hp]
    split
    · rfl
    · rw [List.append_nil]

theorem Linked.setKind {t : SyntaxTree} (h : t.Linked) (id : NodeId) (kind : NodeKind) :
    (t.setKind id kind).Linked where
  size_pos := by simpa using h.size_pos
  parent?_root := by simpa using h.parent?_root
  exists_parent := by simpa using h.exists_parent
  parent_lt hid := h.parent_lt (by simpa using hid)
  children_eq := by simpa using h.children_eq

/-- **A built tree is linked.** -/
theorem Built.linked {t : SyntaxTree} (h : t.Built) : t.Linked := by
  induction h with
  | empty => exact linked_empty
  | push span kind _ lt ih => exact ih.push span kind lt
  | setKind kind _ _ ih => exact ih.setKind _ kind

/-! ### Numbering outlines builds a tree -/

mutual

theorem built_graft (parent : NodeId) : ∀ (o : Outline) {t : SyntaxTree}, t.Built →
    parent < t.size → (graft parent o t).2.Built ∧ t.size < (graft parent o t).2.size
  | .node form span children, t, h, hp => by
    have hnew : t.size < (t.push parent span .statement).2.size := by
      rw [size_push]
      exact Nat.lt_succ_self _
    obtain ⟨hbuilt, hle⟩ :=
      built_graftAll t.size children (.push span .statement h hp) hnew
    have hlt := Nat.lt_of_lt_of_le hnew hle
    refine ⟨.setKind _ hbuilt hlt, ?_⟩
    rw [graft, size_setKind]
    exact hlt

theorem built_graftAll (parent : NodeId) : ∀ (os : List Outline) {t : SyntaxTree}, t.Built →
    parent < t.size → (graftAll parent os t).2.Built ∧ t.size ≤ (graftAll parent os t).2.size
  | [], _, h, _ => ⟨h, Nat.le_refl _⟩
  | o :: os, _, h, hp => by
    obtain ⟨hfirst, hlt⟩ := built_graft parent o h hp
    obtain ⟨hrest, hle⟩ := built_graftAll parent os hfirst (Nat.lt_trans hp hlt)
    exact ⟨hrest, Nat.le_trans (Nat.le_of_lt hlt) hle⟩

end

/-- **Numbering outlines builds a tree.** -/
theorem built_ofOutlines (parts : List Outline) : (ofOutlines parts).Built :=
  (built_graftAll root parts .empty Nat.zero_lt_one).1

/-! ### Induction over a linked tree -/

namespace Linked

variable {t : SyntaxTree}

theorem mem_children (h : t.Linked) {p id : NodeId} :
    id ∈ t.children p ↔ t.parent? id = some p := by
  rw [h.children_eq, List.mem_filter, List.mem_range, decide_eq_true_iff]
  exact ⟨And.right, fun hp => ⟨lt_size_of_parent? hp, hp⟩⟩

/-- No node is listed twice among the children of a node. -/
theorem nodup_children (h : t.Linked) (p : NodeId) : (t.children p).Nodup := by
  rw [h.children_eq]
  exact List.nodup_range.filter _

/-- **Induction from the leaves**: a property that passes from the children of a node to the node
holds of every node. -/
theorem induction_children (h : t.Linked) {P : NodeId → Prop}
    (step : ∀ id, (∀ c ∈ t.children id, P c) → P id) (id : NodeId) : P id := by
  -- Children come later, so the distance to the end of the tree goes down.
  induction hn : t.size - id using Nat.strongRecOn generalizing id with
  | ind n ih =>
      refine step id fun c hc => ?_
      have hc := h.mem_children.1 hc
      have hlt := h.parent_lt hc
      have hcloser : t.size - c < n :=
        hn ▸ Nat.sub_lt_sub_left (Nat.lt_trans hlt (lt_size_of_parent? hc)) hlt
      exact ih (t.size - c) hcloser c rfl

/-- **Induction from the root**: a property that passes from the parent of a node to the node
holds of every node. -/
theorem induction_parent (h : t.Linked) {P : NodeId → Prop}
    (step : ∀ id, (∀ p, t.parent? id = some p → P p) → P id) (id : NodeId) : P id := by
  induction id using Nat.strongRecOn with
  | ind id ih => exact step id fun p hp => ih p (h.parent_lt hp)

end Linked

end SyntaxTree

end AddressTrace
