import AddressTrace.Proofs.Tree.Sources

/-!
# What the kinds of a source's tree say about children

A kind is set when the children of its node have their numbers, and in the tree of a source it tells
all of them: what it mentions are the children, in their order.  So whoever reads a kind reads the
children, and whoever walks over the children comes by everything that a kind mentions.

## Main definitions

* `SyntaxTree.Fits` — what a kind says about the children of its node.

## Main statements

* `SyntaxTree.ShowsAll.exists_shows_of_mem` — each top of some outlines is that of one of them;
* `SyntaxTree.fits_of_shows` — a node has the children of which its kind speaks;
* `SyntaxTree.fits_ofSource?` — so it is in the tree of every source.
-/

namespace AddressTrace

open Text Outline

/-! ### The tops of outlines that stand side by side -/

namespace Outline

theorem length_tops (start : Nat) (os : List Outline) : (tops start os).length = os.length := by
  induction os generalizing start with
  | nil => rfl
  | cons o os ih => exact congrArg (· + 1) (ih _)

theorem tops_append (start : Nat) (os ps : List Outline) :
    tops start (os ++ ps) = tops start os ++ tops (start + countAll os) ps := by
  induction os generalizing start with
  | nil => rfl
  | cons o os ih =>
      rw [List.cons_append, tops, tops, List.cons_append, ih, countAll, Nat.add_assoc]

/-- The children of a node that are a value, or none. -/
theorem tops_toList (start : Nat) (value : Option Outline) :
    (tops start value.toList)[0]?.toList = tops start value.toList := by
  cases value <;> rfl

end Outline

namespace SyntaxTree

variable {t : SyntaxTree}

/-- **A node that declares a variable.** -/
def Declares (t : SyntaxTree) (id : NodeId) : Prop :=
  ∃ name identifier, t.kind? id = some (.declared name identifier)

/-- **What a kind says about the children of its node.** -/
def Fits (t : SyntaxTree) (id : NodeId) : NodeKind → Prop
  -- What is called, and then the arguments.
  | .call callee arguments => t.children id = callee :: arguments
  | .member object _ => t.children id = [object]
  -- The declaring identifier, with the name that is declared; a variable may be without a name.
  | .declared (some name) (some identifier) =>
    t.children id = [identifier] ∧ t.kind? identifier = some (.identifier name)
  | .declared none none => t.children id = []
  | .declared _ _ => False
  -- The variables, and then the value if there is one.
  | .localDeclaration declared value =>
    t.children id = declared ++ value.toList ∧ ∀ d ∈ declared, t.Declares d
  -- The variable, and then the value if there is one; and the node is one of a contract.
  | .stateDeclaration declared value =>
    t.children id = declared :: value.toList ∧ t.Declares declared ∧
      ∃ contract name, t.parent? id = some contract ∧ t.kind? contract = some (.contract name)
  | _ => True

/-! ### From the outlines to the nodes -/

theorem Shows.kind?_eq : ∀ {o : Outline} {id : NodeId}, t.Shows o id →
    ∃ ids, t.kind? id = some (o.form.kind ids)
  | .node form span children, id, h => by
    rw [Shows] at h
    exact ⟨_, h.1⟩

theorem showsAll_append {os ps : List Outline} {start : Nat} :
    t.ShowsAll (os ++ ps) start ↔ t.ShowsAll os start ∧ t.ShowsAll ps (start + countAll os) := by
  induction os generalizing start with
  | nil => simp [ShowsAll, countAll]
  | cons o os ih =>
      rw [List.cons_append, ShowsAll, ShowsAll, ih, countAll, and_assoc, Nat.add_assoc]

/-- **Each top of some outlines is that of one of them.** -/
theorem ShowsAll.exists_shows_of_mem {os : List Outline} {start : Nat} (h : t.ShowsAll os start)
    {id : NodeId} (hid : id ∈ tops start os) : ∃ o ∈ os, t.Shows o id := by
  induction os generalizing start with
  | nil => exact absurd hid List.not_mem_nil
  | cons o os ih =>
      rw [ShowsAll] at h
      rcases List.mem_cons.1 hid with rfl | hid
      · exact ⟨o, List.mem_cons_self, h.1⟩
      · obtain ⟨p, hp, hshows⟩ := ih h.2 hid
        exact ⟨p, List.mem_cons_of_mem _ hp, hshows⟩

theorem Shows.declares {o : Outline} {id : NodeId} (h : t.Shows o id) (ho : o.DeclaresVariable) :
    t.Declares id := by
  obtain ⟨name, hform⟩ := ho
  obtain ⟨ids, hkind⟩ := h.kind?_eq
  rw [hform] at hkind
  exact ⟨name, ids.head?, hkind⟩

/-- The form of an outline whose top declares storage. -/
theorem Shows.form_eq_stateDeclaration {o : Outline} {id : NodeId} (h : t.Shows o id)
    {declared : NodeId} {value : Option NodeId}
    (hk : t.kind? id = some (.stateDeclaration declared value)) : o.form = .stateDeclaration := by
  obtain ⟨ids, hkind⟩ := h.kind?_eq
  rw [hk] at hkind
  exact (Form.kind_eq_stateDeclaration.1 (Option.some.inj hkind).symm).1

/-- **A node has the children of which its kind speaks**, if its form is arranged like that.  Where
storage is declared has to be known beside it. -/
theorem fits_of_shows {form : Form} {span : Option Span} {children : List Outline} {id : NodeId}
    (hlawful : Lawful form span children) (harranged : Arranged form children)
    (hshows : t.Shows (.node form span children) id)
    (hstorage : form = .stateDeclaration →
      ∃ contract name, t.parent? id = some contract ∧ t.kind? contract = some (.contract name)) :
    t.Fits id (form.kind (tops (id + 1) children)) := by
  rw [Shows] at hshows
  obtain ⟨-, -, hchildren, hbelow⟩ := hshows
  cases form with
  | localDeclaration n =>
      obtain ⟨declared, value, rfl, rfl, hdeclares⟩ := harranged
      have htake : (tops (id + 1) (declared ++ value.toList)).take declared.length =
          tops (id + 1) declared := by
        rw [tops_append, List.take_left' (length_tops _ _)]
      refine ⟨?_, fun d hd => ?_⟩
      · rw [hchildren, htake, tops_append, List.getElem?_append_right (length_tops _ _).le,
          length_tops, Nat.sub_self, tops_toList]
      · rw [htake] at hd
        obtain ⟨o, ho, hshows⟩ := (showsAll_append.1 hbelow).1.exists_shows_of_mem hd
        exact hshows.declares (hdeclares o ho)
  | stateDeclaration =>
      obtain ⟨declared, value, rfl, hdeclares⟩ := harranged
      rw [ShowsAll] at hbelow
      refine ⟨?_, hbelow.1.declares hdeclares, hstorage rfl⟩
      rw [hchildren, tops]
      cases value <;> rfl
  | declared name =>
      obtain ⟨place, rfl⟩ := hlawful
      cases name with
      | none => exact hchildren
      | some name =>
          simp only [Option.toList_some, List.map_cons, List.map_nil, ShowsAll, Shows] at hbelow
          exact ⟨hchildren, hbelow.1.1⟩
  | call =>
      obtain ⟨callee, arguments, rfl⟩ := harranged
      exact hchildren
  | member name =>
      obtain ⟨object, rfl⟩ := harranged
      exact hchildren
  | contract name => trivial
  | function name => trivial
  | block => trivial
  | identifier name => trivial
  | number text => trivial
  | string value => trivial
  | expression => trivial
  | statement => trivial

/-! ### The tree of a source -/

/-- A node that declares storage is one of a contract. -/
theorem exists_contract_of_stateDeclaration {parts : List Outline}
    (hshaped : EverywhereAll Shaped parts) (htop : ∀ o ∈ parts, o.form ≠ .stateDeclaration)
    {id declared : NodeId} {value : Option NodeId}
    (hk : (ofOutlines parts).kind? id = some (.stateDeclaration declared value)) :
    ∃ contract name, (ofOutlines parts).parent? id = some contract ∧
      (ofOutlines parts).kind? contract = some (.contract name) := by
  have hlinked := (built_ofOutlines parts).linked
  have hroot : (ofOutlines parts).kind? root = some .sourceUnit := by
    rw [kind?, node?_root_ofOutlines]
    rfl
  have hne : id ≠ root := by
    rintro rfl
    rw [hroot] at hk
    cases hk
  obtain ⟨p, hp⟩ := hlinked.exists_parent id (Nat.pos_of_ne_zero hne) (lt_size_of_kind? hk)
  have hchild := hlinked.mem_children.2 hp
  by_cases hpr : p = root
  · -- At the top of a file nothing is declared in storage.
    subst hpr
    rw [children, node?_root_ofOutlines] at hchild
    obtain ⟨o, ho, hshows⟩ := (showsAll_ofOutlines parts).exists_shows_of_mem hchild
    exact absurd (hshows.form_eq_stateDeclaration hk) (htop o ho)
  · obtain ⟨form, span, children, hparent, hshows⟩ := exists_shows_ofOutlines hshaped
      (Nat.lt_trans (hlinked.parent_lt hp) (lt_size_of_kind? hk)) hpr
    rw [Shows] at hshows
    obtain ⟨hkind, -, hchildren, hbelow⟩ := hshows
    rw [hchildren] at hchild
    obtain ⟨o, ho, hshows⟩ := hbelow.exists_shows_of_mem hchild
    obtain ⟨name, rfl⟩ := hparent.below_contract o ho (hshows.form_eq_stateDeclaration hk)
    exact ⟨p, name, hp, hkind⟩

/-- **In the tree of a source the kind of a node tells its children**: every node that a kind
mentions is one of them, the kinds that mention nodes mention all children in their order, and what
is declared in storage is declared by a contract.  The nodes are numbered in the order of a walk. -/
theorem fits_ofSource? {source : String} {t : SyntaxTree} (h : ofSource? source = some t) :
    (∀ id k, t.kind? id = some k → k.mentioned ⊆ t.children id ∧ t.Fits id k) ∧
      t.walk = List.range t.size := by
  have hparsed := parsed_ofSource? h
  obtain ⟨unit, -, rfl⟩ := Option.map_eq_some_iff.1 h
  obtain ⟨hshaped, htop⟩ := Solidity.shaped_outlines unit
  refine ⟨fun id k hk => ⟨hparsed.wellKinded.mem_children id (lt_size_of_kind? hk) k hk, ?_⟩,
    hparsed.walk_eq⟩
  by_cases hroot : id = root
  · subst hroot
    rw [hparsed.kind?_root] at hk
    cases hk
    trivial
  · obtain ⟨form, span, children, hnode, hshows⟩ :=
      exists_shows_ofOutlines hshaped (lt_size_of_kind? hk) hroot
    have hkind := hshows
    rw [Shows] at hkind
    obtain rfl : k = form.kind (tops (id + 1) children) :=
      Option.some.inj (hk.symm.trans hkind.1)
    refine fits_of_shows hnode.lawful hnode.arranged hshows ?_
    rintro rfl
    obtain ⟨declared, value, rfl, -⟩ := hnode.arranged
    exact exists_contract_of_stateDeclaration hshaped htop hk

/-- A contract with a list that declares a variable with a name and one without, and leaves a slot
empty; its value is a call of something in parentheses. -/
def declaringList : String :=
  "contract c \x7b address s = 0x1111111111111111111111111111111111111111; " ++
    "function f(uint, address p) public \x7b (address a, , uint) = (g)(p, h.k(1)); \x7d \x7d"

/-- The empty slot and the parentheses have no nodes. -/
theorem fits_ofSource?_declaringList :
    ∃ t ∈ ofSource? declaringList,
      t.kind? 2 = some (.stateDeclaration 3 (some 5)) ∧ t.children 2 = [3, 5] ∧
      t.kind? 11 = some (.localDeclaration [12, 14] (some 15)) ∧ t.children 11 = [12, 14, 15] ∧
      t.kind? 15 = some (.call 16 [17, 18]) ∧ t.children 15 = [16, 17, 18] ∧
      t.walk = List.range 22 := by
  have hkinds : ∃ t ∈ ofSource? declaringList,
      t.kind? 2 = some (.stateDeclaration 3 (some 5)) ∧
      t.kind? 11 = some (.localDeclaration [12, 14] (some 15)) ∧
      t.kind? 15 = some (.call 16 [17, 18]) ∧ t.size = 22 := by
    decide +kernel
  obtain ⟨t, ht, hstorage, hlist, hcall, hsize⟩ := hkinds
  obtain ⟨hfits, hwalk⟩ := fits_ofSource? ht
  rw [hsize] at hwalk
  exact ⟨t, ht, hstorage, (hfits 2 _ hstorage).2.1, hlist, (hfits 11 _ hlist).2.1, hcall,
    (hfits 15 _ hcall).2, hwalk⟩

end SyntaxTree

end AddressTrace
