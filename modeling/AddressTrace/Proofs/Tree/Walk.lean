import AddressTrace.Proofs.Tree.Built
import Mathlib.Data.List.Perm.Subperm

/-!
# Walks

In a linked tree the bounds on chains of parents and on walks are never reached.  A chain of parents
goes on to the root, and a walk is the recursive preorder: it visits a node and all that have it
among the nodes around them, each of them once.

## Main definitions

* `SyntaxTree.preorder` — a node, then the preorders of its children.

## Main statements

* `SyntaxTree.Linked.ancestors_eq` — the nodes around a node are its parent and those around it;
* `SyntaxTree.Linked.walkFrom_eq` — a walk with a stack is the preorder;
* `SyntaxTree.Linked.mem_walkFrom`, `SyntaxTree.Linked.nodup_walkFrom` — what a walk visits;
* `SyntaxTree.Linked.mem_walk` — a walk from the root visits all nodes.
-/

namespace AddressTrace

namespace SyntaxTree

/-- The preorder of a node, so many levels deep at most. -/
def preorderWithin (t : SyntaxTree) : Nat → NodeId → List NodeId
  | 0, id => [id]
  | levels + 1, id => id :: (t.children id).flatMap (preorderWithin t levels)

/-- **A node and then the preorders of its children**, in their order.  Below a node there are
no more levels than nodes that come after it. -/
def preorder (t : SyntaxTree) (id : NodeId) : List NodeId :=
  t.preorderWithin (t.size - id) id

namespace Linked

variable {t : SyntaxTree}

/-! ### The nodes around a node -/

/-- A chain of parents is complete as soon as it may have as many nodes as come before. -/
theorem ancestorsWithin_eq (h : t.Linked) : ∀ (m n id : Nat), id ≤ m → id ≤ n →
    t.ancestorsWithin m id = t.ancestorsWithin n id := by
  have hroot : ∀ n, t.ancestorsWithin n root = [] := by
    rintro (_ | n)
    · rfl
    · rw [ancestorsWithin, h.parent?_root]
  intro m
  induction m with
  | zero =>
      intro n id hm _
      obtain rfl : id = root := Nat.le_zero.1 hm
      rw [hroot, hroot]
  | succ m ih =>
      intro n id hm hn
      rcases n with _ | n
      · obtain rfl : id = root := Nat.le_zero.1 hn
        rw [hroot, hroot]
      · rw [ancestorsWithin, ancestorsWithin]
        cases hp : t.parent? id with
        | none => rfl
        | some p =>
            have hlt := h.parent_lt hp
            exact congrArg (p :: ·) (ih n p (Nat.le_of_lt_succ (Nat.lt_of_lt_of_le hlt hm))
              (Nat.le_of_lt_succ (Nat.lt_of_lt_of_le hlt hn)))

/-- **The nodes around a node are its parent and those around the parent.** -/
theorem ancestors_eq (h : t.Linked) (id : NodeId) :
    t.ancestors id =
      match t.parent? id with
      | none => []
      | some p => p :: t.ancestors p := by
  obtain ⟨n, hn⟩ : ∃ n, t.size = n + 1 := Nat.exists_eq_succ_of_ne_zero (Nat.ne_of_gt h.size_pos)
  rw [ancestors, hn, ancestorsWithin]
  cases hp : t.parent? id with
  | none => rfl
  | some p =>
      have hlt : p < n + 1 := hn ▸ Nat.lt_trans (h.parent_lt hp) (lt_size_of_parent? hp)
      have hle : p ≤ n := Nat.le_of_lt_succ hlt
      refine congrArg (p :: ·) ?_
      rw [ancestors, hn]
      exact h.ancestorsWithin_eq n (n + 1) p hle (Nat.le_succ_of_le hle)

theorem mem_ancestors (h : t.Linked) {a id : NodeId} :
    a ∈ t.ancestors id ↔ ∃ p, t.parent? id = some p ∧ (a = p ∨ a ∈ t.ancestors p) := by
  rw [h.ancestors_eq id]
  cases t.parent? id <;> simp

/-- The nodes around a node come before it. -/
theorem lt_of_mem_ancestors (h : t.Linked) {a id : NodeId} : a ∈ t.ancestors id → a < id := by
  induction id using h.induction_parent with
  | step id ih =>
      rw [h.mem_ancestors]
      rintro ⟨p, hp, rfl | ha⟩
      · exact h.parent_lt hp
      · exact Nat.lt_trans (ih p hp ha) (h.parent_lt hp)

/-- A node stands around another one exactly when one of its children is that node or stands
around it. -/
theorem mem_ancestors_iff_children (h : t.Linked) {a id : NodeId} :
    a ∈ t.ancestors id ↔ ∃ c ∈ t.children a, id = c ∨ c ∈ t.ancestors id := by
  induction id using h.induction_parent with
  | step id ih =>
      rw [h.mem_ancestors]
      constructor
      · rintro ⟨p, hp, rfl | ha⟩
        · exact ⟨id, h.mem_children.2 hp, .inl rfl⟩
        · obtain ⟨c, hc, hpc⟩ := (ih p hp).1 ha
          exact ⟨c, hc, .inr (h.mem_ancestors.2 ⟨p, hp, hpc.imp_left Eq.symm⟩)⟩
      · rintro ⟨c, hc, rfl | hc'⟩
        · exact ⟨a, h.mem_children.1 hc, .inl rfl⟩
        · obtain ⟨p, hp, hcp⟩ := h.mem_ancestors.1 hc'
          exact ⟨p, hp, .inr ((ih p hp).2 ⟨c, hc, hcp.imp_left Eq.symm⟩)⟩

/-- The root stands around every other node. -/
theorem root_mem_ancestors (h : t.Linked) {id : NodeId} (hpos : 0 < id) (hlt : id < t.size) :
    root ∈ t.ancestors id := by
  induction id using h.induction_parent with
  | step id ih =>
      obtain ⟨p, hp⟩ := h.exists_parent id hpos hlt
      refine h.mem_ancestors.2 ⟨p, hp, ?_⟩
      rcases Nat.eq_zero_or_pos p with hz | hpp
      · exact .inl hz.symm
      · exact .inr (ih p hp hpp (Nat.lt_trans (h.parent_lt hp) hlt))

/-- Of two nodes on one chain of parents one stands around the other. -/
theorem ancestors_total (h : t.Linked) {a b id : NodeId} (ha : id = a ∨ a ∈ t.ancestors id)
    (hb : id = b ∨ b ∈ t.ancestors id) : a = b ∨ a ∈ t.ancestors b ∨ b ∈ t.ancestors a := by
  induction id using h.induction_parent with
  | step id ih =>
      rcases ha with rfl | ha
      · rcases hb with rfl | hb
        · exact .inl rfl
        · exact .inr (.inr hb)
      · rcases hb with rfl | hb
        · exact .inr (.inl ha)
        · obtain ⟨p, hp, ha⟩ := h.mem_ancestors.1 ha
          obtain ⟨q, hq, hb⟩ := h.mem_ancestors.1 hb
          obtain rfl : p = q := Option.some.inj (hp.symm.trans hq)
          exact ih p hp (ha.imp_left Eq.symm) (hb.imp_left Eq.symm)

/-- Behind a node on the chain of parents of another one stand the nodes around it. -/
theorem ancestors_of_append (h : t.Linked) {id a : NodeId} {inner outer : List NodeId}
    (heq : t.ancestors id = inner ++ a :: outer) : t.ancestors a = outer := by
  induction id using h.induction_parent generalizing inner with
  | step id ih =>
      rw [h.ancestors_eq] at heq
      cases hp : t.parent? id with
      | none => simp [hp] at heq
      | some p =>
          rw [hp] at heq
          cases inner with
          | nil =>
              obtain ⟨rfl, rfl⟩ := List.cons.inj heq
              rfl
          | cons b inner => exact ih p hp (List.cons.inj heq).2

/-! ### The preorder -/

/-- A preorder is complete as soon as it may have as many levels as nodes come after. -/
theorem preorderWithin_eq (h : t.Linked) : ∀ (m n id : Nat), t.size ≤ id + m →
    t.size ≤ id + n → t.preorderWithin m id = t.preorderWithin n id := by
  have hend : ∀ n id, t.size ≤ id → t.preorderWithin n id = [id] := by
    rintro (_ | n) id hle
    · rfl
    · rw [preorderWithin, children_eq_nil hle, List.flatMap_nil]
  intro m
  induction m with
  | zero =>
      intro n id hm _
      rw [hend 0 id hm, hend n id hm]
  | succ m ih =>
      intro n id hm hn
      rcases n with _ | n
      · rw [hend (m + 1) id hn, hend 0 id hn]
      · refine congrArg (id :: ·) (List.flatMap_congr fun c hc => ?_)
        have hlt : id < c := h.parent_lt (h.mem_children.1 hc)
        exact ih n c (Nat.le_trans hm (by omega)) (Nat.le_trans hn (by omega))

/-- **The preorder of a node is the node and then the preorders of its children.** -/
theorem preorder_eq (h : t.Linked) (id : NodeId) :
    t.preorder id = id :: (t.children id).flatMap t.preorder := by
  have hmore : t.preorder id = t.preorderWithin (t.size - id + 1) id :=
    h.preorderWithin_eq _ _ id (by omega) (by omega)
  rw [hmore, preorderWithin]
  refine congrArg (id :: ·) (List.flatMap_congr fun c hc => ?_)
  have hlt : id < c := h.parent_lt (h.mem_children.1 hc)
  have hle : t.size - c ≤ t.size - id := Nat.sub_le_sub_left (Nat.le_of_lt hlt) t.size
  exact h.preorderWithin_eq (t.size - id) (t.size - c) c (Nat.sub_le_iff_le_add'.1 hle)
    (Nat.sub_le_iff_le_add'.1 (Nat.le_refl _))

/-- The preorder of a node has the node and all nodes that it stands around. -/
theorem mem_preorder (h : t.Linked) {a id : NodeId} :
    id ∈ t.preorder a ↔ id = a ∨ a ∈ t.ancestors id := by
  induction a using h.induction_children with
  | step a ih =>
      rw [h.preorder_eq, List.mem_cons, List.mem_flatMap, h.mem_ancestors_iff_children]
      apply or_congr_right
      apply exists_congr
      intro c
      exact and_congr_right (ih c)

/-- No node is twice in a preorder: a node below two children of one node would put one of them
around the other. -/
theorem nodup_preorder (h : t.Linked) (a : NodeId) : (t.preorder a).Nodup := by
  induction a using h.induction_children with
  | step a ih =>
      rw [h.preorder_eq, List.nodup_cons, List.nodup_flatMap]
      refine ⟨?_, ih, ?_⟩
      · intro hmem
        obtain ⟨c, hc, hac⟩ := List.mem_flatMap.1 hmem
        have hlt := h.parent_lt (h.mem_children.1 hc)
        rcases h.mem_preorder.1 hac with rfl | hca
        · exact Nat.lt_irrefl _ hlt
        · exact Nat.lt_asymm hlt (h.lt_of_mem_ancestors hca)
      · -- A child of `a` that stands around another one stands around `a` itself.
        have hapart : ∀ c ∈ t.children a, ∀ d ∈ t.children a, c ∉ t.ancestors d := by
          intro c hc d hd hcd
          have hlt := h.parent_lt (h.mem_children.1 hc)
          obtain ⟨p, hp, hcp⟩ := h.mem_ancestors.1 hcd
          obtain rfl : p = a := Option.some.inj (hp.symm.trans (h.mem_children.1 hd))
          rcases hcp with rfl | hcp
          · exact Nat.lt_irrefl _ hlt
          · exact Nat.lt_asymm hlt (h.lt_of_mem_ancestors hcp)
        refine (h.nodup_children a).imp_of_mem ?_
        intro c d hc hd hne id hic hid
        rcases h.ancestors_total (h.mem_preorder.1 hic) (h.mem_preorder.1 hid) with
          heq | hcd | hdc
        · exact hne heq
        · exact hapart c hc d hd hcd
        · exact hapart d hd c hc hdc

/-! ### Walks with a stack -/

/-- A walk gives as much of the preorders of its stack as it has steps. -/
theorem walkStack_eq (h : t.Linked) : ∀ (steps : Nat) (stack : List NodeId),
    t.walkStack steps stack = (stack.flatMap t.preorder).take steps := by
  intro steps
  induction steps with
  | zero =>
      intro stack
      rfl
  | succ steps ih =>
      rintro (_ | ⟨id, stack⟩)
      · rfl
      · rw [walkStack, ih, List.flatMap_cons, h.preorder_eq id, List.flatMap_append,
          List.cons_append, List.take_succ_cons]

/-- A preorder has no more nodes than the tree. -/
theorem length_preorder_le (h : t.Linked) {a : NodeId} (ha : a < t.size) :
    (t.preorder a).length ≤ t.size := by
  have hsub : t.preorder a ⊆ List.range t.size := by
    intro id hid
    rw [List.mem_range]
    rcases h.mem_preorder.1 hid with rfl | hmem
    · exact ha
    · obtain ⟨p, hp, -⟩ := h.mem_ancestors.1 hmem
      exact lt_size_of_parent? hp
  calc (t.preorder a).length ≤ (List.range t.size).length :=
        (List.subperm_of_subset (h.nodup_preorder a) hsub).length_le
    _ = t.size := List.length_range

/-- **A walk with a stack is the preorder**: it never runs out of steps. -/
theorem walkFrom_eq (h : t.Linked) {start : NodeId} (hs : start < t.size) :
    t.walkFrom start = t.preorder start := by
  rw [walkFrom, h.walkStack_eq, List.flatMap_singleton]
  exact List.take_of_length_le (h.length_preorder_le hs)

/-- **A walk visits the node where it starts and all nodes that it stands around.** -/
theorem mem_walkFrom (h : t.Linked) {start id : NodeId} (hs : start < t.size) :
    id ∈ t.walkFrom start ↔ id = start ∨ start ∈ t.ancestors id := by
  rw [h.walkFrom_eq hs, h.mem_preorder]

/-- **A walk visits no node twice.** -/
theorem nodup_walkFrom (h : t.Linked) {start : NodeId} (hs : start < t.size) :
    (t.walkFrom start).Nodup := by
  rw [h.walkFrom_eq hs]
  exact h.nodup_preorder start

theorem nodup_walk (h : t.Linked) : t.walk.Nodup :=
  h.nodup_walkFrom h.size_pos

/-- **A walk from the root visits all nodes.** -/
theorem mem_walk (h : t.Linked) {id : NodeId} : id ∈ t.walk ↔ id < t.size := by
  have hroot : root < t.size := h.size_pos
  rw [walk, h.mem_walkFrom hroot]
  constructor
  · rintro (rfl | hmem)
    · exact h.size_pos
    · obtain ⟨p, hp, -⟩ := h.mem_ancestors.1 hmem
      exact lt_size_of_parent? hp
  · intro hlt
    rcases Nat.eq_zero_or_pos id with hz | hpos
    · exact .inl hz
    · exact .inr (h.root_mem_ancestors hpos hlt)

end Linked

end SyntaxTree

end AddressTrace
