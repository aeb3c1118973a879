import AddressTrace.Proofs.Tree.Walk

/-!
# Following the links of a tree

Chains of parents and walks count their steps, so that they end whatever the links are.  In a tree
that was built the count does not matter: a chain of parents goes on to the root, and the loop that
takes a node off a stack and puts its children there ends by itself, with the same nodes in the same
order.

## Main definitions

* `SyntaxTree.Visits` — what the loop over a stack visits until its stack is empty;
* `SyntaxTree.Navigable` — what can be relied on when links are followed, up or down.

## Main statements

* `SyntaxTree.Linked.visits_iff` — the loop ends, and it visits the preorders of its stack;
* `SyntaxTree.Linked.chain_ancestors` — the parents of a node lead up to the root;
* `SyntaxTree.Built.navigable` — the links of a built tree can be followed.
-/

namespace AddressTrace

namespace SyntaxTree

/-- **What the loop over a stack visits**: it takes the first node off the stack, visits it and puts
its children in its place, until the stack is empty.  Nothing bounds its steps, so for a loop that
does not end there is nothing that it visits. -/
inductive Visits (t : SyntaxTree) : List NodeId → List NodeId → Prop
  | done : Visits t [] []
  | visit {id : NodeId} {stack visited : List NodeId}
      (rest : Visits t (t.children id ++ stack) visited) : Visits t (id :: stack) (id :: visited)

/-- The loop has one way to go on at every point. -/
theorem Visits.unique {t : SyntaxTree} {stack visited visited' : List NodeId}
    (h : t.Visits stack visited) (h' : t.Visits stack visited') : visited = visited' := by
  induction h generalizing visited' with
  | done =>
      cases h'
      rfl
  | visit _ ih =>
      cases h' with
      | visit rest => exact congrArg (List.cons _) (ih rest)

/-- **What can be relied on when the links of a tree are followed.** -/
structure Navigable (t : SyntaxTree) : Prop where
  /-- Every node but the root is listed once as a child, by its parent and by no other node, and
  comes after its parent. -/
  listed_once : ∀ id, 0 < id → id < t.size → ∃ p < id, t.parent? id = some p ∧
    ∀ q, (t.children q).count id = if q = p then 1 else 0
  /-- The root is nobody's child. -/
  root_apart : t.parent? root = none ∧ ∀ q, root ∉ t.children q
  /-- The nodes around a node are its parent, the parent of that one, and so on to the root. -/
  chain_ancestors : ∀ id < t.size,
    (id :: t.ancestors id).IsChain (fun a p => t.parent? a = some p) ∧
      (id :: t.ancestors id).getLast? = some root
  /-- They have smaller and smaller numbers. -/
  descending : ∀ id < t.size, (id :: t.ancestors id).Pairwise (· > ·)
  /-- The loop over a stack ends wherever it starts, and a walk is what it visits. -/
  visits_iff : ∀ start < t.size, ∀ visited, t.Visits [start] visited ↔ visited = t.walkFrom start
  /-- A walk is the recursive preorder: a node, and then the walks from its children. -/
  walkFrom_eq : ∀ start < t.size,
    t.walkFrom start = start :: (t.children start).flatMap t.walkFrom
  /-- A walk visits the node where it starts and those that it stands around, each of them once. -/
  mem_walkFrom : ∀ start < t.size, (t.walkFrom start).Nodup ∧
    ∀ id, id ∈ t.walkFrom start ↔ id = start ∨ start ∈ t.ancestors id
  /-- A walk from the root visits all nodes. -/
  walk_perm : t.walk.Perm (List.range t.size)

namespace Linked

variable {t : SyntaxTree}

/-! ### Down to the leaves -/

/-- Nodes on top of a stack are visited before the rest of it, if that holds for each of them. -/
theorem visits_append {ids stack visited : List NodeId}
    (each : ∀ id ∈ ids, ∀ {stack visited}, t.Visits stack visited →
      t.Visits (id :: stack) (t.preorder id ++ visited))
    (rest : t.Visits stack visited) :
    t.Visits (ids ++ stack) (ids.flatMap t.preorder ++ visited) := by
  induction ids with
  | nil => exact rest
  | cons id ids ih =>
      have hbelow := ih fun id hid => each id (List.mem_cons_of_mem _ hid)
      rw [List.flatMap_cons, List.append_assoc]
      exact each id List.mem_cons_self hbelow

/-- **The node on top of a stack is visited with all that is below it**, and then the rest. -/
theorem visits_cons (h : t.Linked) (id : NodeId) : ∀ {stack visited : List NodeId},
    t.Visits stack visited → t.Visits (id :: stack) (t.preorder id ++ visited) := by
  induction id using h.induction_children with
  | step id ih =>
      intro stack visited rest
      rw [h.preorder_eq]
      exact .visit (visits_append ih rest)

/-- **The loop over a stack ends, and visits the preorders of the nodes on the stack.** -/
theorem visits_iff (h : t.Linked) {stack visited : List NodeId} :
    t.Visits stack visited ↔ visited = stack.flatMap t.preorder := by
  have hvisits : t.Visits stack (stack.flatMap t.preorder) := by
    have hall : t.Visits (stack ++ []) (stack.flatMap t.preorder ++ []) :=
      visits_append (fun id _ => h.visits_cons id) .done
    rwa [List.append_nil, List.append_nil] at hall
  constructor
  · intro hother
    exact hother.unique hvisits
  · rintro rfl
    exact hvisits

/-- A walk is a node and then the walks from its children. -/
theorem walkFrom_eq_cons (h : t.Linked) {start : NodeId} (hs : start < t.size) :
    t.walkFrom start = start :: (t.children start).flatMap t.walkFrom := by
  rw [h.walkFrom_eq hs, h.preorder_eq]
  refine congrArg (start :: ·) (List.flatMap_congr fun c hc => ?_)
  exact (h.walkFrom_eq (lt_size_of_parent? (h.mem_children.1 hc))).symm

/-! ### Up to the root -/

/-- The nodes around a node are linked by their parents. -/
theorem isChain_ancestors (h : t.Linked) (id : NodeId) :
    (id :: t.ancestors id).IsChain fun a p => t.parent? a = some p := by
  induction id using h.induction_parent with
  | step id ih =>
      rw [h.ancestors_eq id]
      cases hp : t.parent? id with
      | none => exact .singleton id
      | some p => exact .cons_cons hp (ih p hp)

/-- The last of the nodes around a node is the root. -/
theorem getLast?_ancestors (h : t.Linked) {id : NodeId} (hlt : id < t.size) :
    (id :: t.ancestors id).getLast? = some root := by
  induction id using h.induction_parent with
  | step id ih =>
      rw [h.ancestors_eq id]
      cases hp : t.parent? id with
      | none =>
          have hroot : id = root := by
            by_contra hne
            obtain ⟨p, hp'⟩ := h.exists_parent id (Nat.pos_of_ne_zero hne) hlt
            rw [hp] at hp'
            cases hp'
          subst hroot
          rfl
      | some p =>
          have hlast := ih p hp (Nat.lt_trans (h.parent_lt hp) hlt)
          rw [List.getLast?_cons_cons]
          exact hlast

/-- The nodes around a node have smaller and smaller numbers. -/
theorem pairwise_ancestors (h : t.Linked) (id : NodeId) :
    (id :: t.ancestors id).Pairwise (· > ·) := by
  rw [← List.isChain_iff_pairwise]
  exact (h.isChain_ancestors id).imp fun _ _ hp => h.parent_lt hp

/-! ### All of it -/

/-- A node is listed once by its parent, and not at all by others. -/
theorem count_children (h : t.Linked) {id p : NodeId} (hp : t.parent? id = some p) (q : NodeId) :
    (t.children q).count id = if q = p then 1 else 0 := by
  split
  · next heq =>
      subst heq
      exact List.count_eq_one_of_mem (h.nodup_children q) (h.mem_children.2 hp)
  · next hne =>
      refine List.count_eq_zero_of_not_mem fun hmem => hne ?_
      exact Option.some.inj ((h.mem_children.1 hmem).symm.trans hp)

end Linked

/-- **The links of a built tree can be followed**, whatever nodes its kinds mention. -/
theorem Built.navigable {t : SyntaxTree} (built : t.Built) : t.Navigable := by
  have h := built.linked
  constructor
  · intro id hpos hlt
    obtain ⟨p, hp⟩ := h.exists_parent id hpos hlt
    exact ⟨p, h.parent_lt hp, hp, h.count_children hp⟩
  · refine ⟨h.parent?_root, fun q hq => ?_⟩
    have hparent := h.mem_children.1 hq
    rw [h.parent?_root] at hparent
    cases hparent
  · exact fun id hlt => ⟨h.isChain_ancestors id, h.getLast?_ancestors hlt⟩
  · exact fun id _ => h.pairwise_ancestors id
  · intro start hs visited
    rw [h.visits_iff, List.flatMap_singleton, h.walkFrom_eq hs]
  · exact fun start hs => h.walkFrom_eq_cons hs
  · exact fun start hs => ⟨h.nodup_walkFrom hs, fun id => h.mem_walkFrom hs⟩
  · rw [List.perm_ext_iff_of_nodup h.nodup_walk List.nodup_range]
    intro id
    rw [h.mem_walk, List.mem_range]

/-- A tree whose nodes were not added in the order of a walk, and with a kind that mentions a node
beside it and one that does not exist. -/
def crooked : SyntaxTree :=
  let (first, t) := empty.push root none .block
  let (inner, t) := t.push first none (.identifier "a")
  let (second, t) := t.push root none .statement
  let (_, t) := t.push first none (.number "1")
  t.setKind inner (.call second [99])

/-- The number that was added last is visited before the statement beside its block. -/
theorem navigable_crooked :
    crooked.Navigable ∧ crooked.kind? 2 = some (.call 3 [99]) ∧ crooked.walk = [0, 1, 2, 4, 3] ∧
      crooked.ancestors 4 = [1, 0] := by
  refine ⟨Built.navigable ?_, by decide, by decide, by decide⟩
  refine .setKind _ (.push _ _ (.push _ _ (.push _ _ (.push _ _ .empty ?_) ?_) ?_) ?_) ?_ <;> decide

end SyntaxTree

end AddressTrace
