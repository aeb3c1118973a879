import AddressTrace.Proofs.Solidity.Reading.File
import AddressTrace.Proofs.Solidity.Shapes
import AddressTrace.Proofs.Tree.Kinds

/-!
# The trees of sources

What the trees of all sources have in common: identifiers, numbers and blocks have known places, a
declared variable has its declaring identifier as its only child, and the nodes are numbered in the
order of a walk, which for identifiers, numbers and blocks is the order of the places where they
begin.

## Main definitions

* `SyntaxTree.Parsed` — what the trees of sources have in common.

## Main statements

* `Solidity.lawful_outlines` — the nodes of a file are lawful;
* `SyntaxTree.parsed_ofSource?` — the tree of a source is a parsed one;
* `SyntaxTree.Parsed.wellKinded`, `SyntaxTree.Parsed.located` — so scopes can be told apart in it.
-/

namespace AddressTrace

open Text Outline

namespace Solidity

/-- **The nodes of a file are lawful.** -/
theorem lawful_outlines (unit : SourceUnit) : EverywhereAll Lawful (outlines unit) :=
  EverywhereAll.imp (fun _ _ _ hshaped _ => hshaped.lawful) (shaped_outlines unit).1

end Solidity

/-! ### Forms of kinds -/

namespace Form

variable {form : Form} {ids : List NodeId}

/-- A kind mentions nodes from among the children only. -/
theorem mentioned_kind_subset (form : Form) (ids : List NodeId) :
    (form.kind ids).mentioned ⊆ ids := by
  cases form with
  | localDeclaration n =>
      intro c hc
      rcases List.mem_append.1 hc with hc | hc
      · exact List.mem_of_mem_take hc
      · exact List.mem_of_getElem? (Option.mem_toList.1 hc)
  | stateDeclaration =>
      cases ids with
      | nil => exact List.nil_subset _
      | cons c cs => cases cs <;> simp [kind, NodeKind.mentioned]
  | declared name => cases ids <;> simp [kind, NodeKind.mentioned]
  | call => cases ids <;> simp [kind, NodeKind.mentioned]
  | member name => cases ids <;> simp [kind, NodeKind.mentioned]
  | contract name => exact List.nil_subset _
  | function name => exact List.nil_subset _
  | block => exact List.nil_subset _
  | identifier name => exact List.nil_subset _
  | number text => exact List.nil_subset _
  | string value => exact List.nil_subset _
  | expression => exact List.nil_subset _
  | statement => exact List.nil_subset _

theorem kind_eq_declared {name : Option String} {identifier : Option NodeId} :
    form.kind ids = .declared name identifier ↔ form = .declared name ∧ ids.head? = identifier := by
  cases form <;> cases ids <;> simp [kind]

theorem kind_eq_localDeclaration {declared : List NodeId} {value : Option NodeId} :
    form.kind ids = .localDeclaration declared value ↔
      ∃ n, form = .localDeclaration n ∧ ids.take n = declared ∧ ids[n]? = value := by
  cases form <;> cases ids <;> simp [kind]

theorem kind_eq_stateDeclaration {declared : NodeId} {value : Option NodeId} :
    form.kind ids = .stateDeclaration declared value ↔
      form = .stateDeclaration ∧ ∃ rest, ids = declared :: rest ∧ rest.head? = value := by
  cases form <;> cases ids <;> simp [kind]

theorem kind_eq_identifier {name : String} :
    form.kind ids = .identifier name ↔ form = .identifier name := by
  cases form <;> cases ids <;> simp [kind]

theorem kind_eq_number {text : String} : form.kind ids = .number text ↔ form = .number text := by
  cases form <;> cases ids <;> simp [kind]

theorem kind_eq_block : form.kind ids = .block ↔ form = .block := by
  cases form <;> cases ids <;> simp [kind]

theorem form_of_kind_eq_member {object : NodeId} {name : String}
    (h : form.kind ids = .member object name) : form = .member name := by
  cases form <;> cases ids <;> simp_all [kind]

end Form

namespace SyntaxTree

/-- **What the trees of sources have in common.** -/
structure Parsed (t : SyntaxTree) : Prop where
  built : t.Built
  /-- The nodes are numbered in the order of a walk. -/
  walk_eq : t.walk = List.range t.size
  /-- Identifiers, numbers and blocks begin one behind the other. -/
  inOrder : t.InOrder
  /-- The root is no part of a source. -/
  kind?_root : t.kind? root = some .sourceUnit
  /-- Every other node is one of a lawful outline. -/
  exists_shows : ∀ id : Nat, id < t.size → id ≠ root →
    ∃ form span children, Lawful form span children ∧ t.Shows (.node form span children) id

/-- **The tree of a source is a parsed one.** -/
theorem parsed_ofSource? {source : String} {t : SyntaxTree} (h : ofSource? source = some t) :
    t.Parsed := by
  obtain ⟨unit, hunit, rfl⟩ := Option.map_eq_some_iff.1 h
  refine ⟨built_ofOutlines _, walk_ofOutlines _, ?_, ?_, ?_⟩
  · apply inOrder_of_marks
    rw [marks_ofOutlines]
    exact Solidity.pairwise_start_outlines hunit
  · rw [kind?, node?_root_ofOutlines]
    rfl
  · intro id hlt hne
    exact exists_shows_ofOutlines (Solidity.lawful_outlines unit) hlt hne

namespace Parsed

variable {t : SyntaxTree}

theorem linked (h : t.Parsed) : t.Linked := h.built.linked

/-- The form of a node with a kind other than that of the root. -/
theorem form_of_kind? (h : t.Parsed) {id : Nat} {k : NodeKind} (hk : t.kind? id = some k)
    (hne : k ≠ .sourceUnit) : ∃ form span children, Lawful form span children ∧
      t.Shows (.node form span children) id ∧ k = form.kind (tops (id + 1) children) := by
  have hroot : id ≠ root := by
    rintro rfl
    rw [h.kind?_root] at hk
    exact hne (Option.some.inj hk).symm
  obtain ⟨form, span, children, hlawful, hshows⟩ := h.exists_shows id (lt_size_of_kind? hk) hroot
  refine ⟨form, span, children, hlawful, hshows, ?_⟩
  rw [Shows] at hshows
  exact Option.some.inj (hk.symm.trans hshows.1)

/-! ### Kinds -/

/-- **A declared variable with a name** is followed by the identifier that declares it. -/
theorem declared (h : t.Parsed) {id identifier : Nat} {name : String}
    (hk : t.kind? id = some (.declared (some name) (some identifier))) :
    identifier = id + 1 ∧ t.kind? identifier = some (.identifier name) := by
  obtain ⟨form, span, children, hlawful, hshows, hform⟩ := h.form_of_kind? hk (by simp)
  obtain ⟨rfl, hhead⟩ := Form.kind_eq_declared.1 hform.symm
  obtain ⟨place, rfl⟩ := hlawful
  simp only [Shows, Option.toList_some, List.map_cons, List.map_nil, ShowsAll] at hshows
  simp only [Option.toList_some, List.map_cons, tops, List.head?_cons, Option.some.injEq] at hhead
  subst hhead
  exact ⟨rfl, hshows.2.2.2.1.1⟩

theorem wellKinded (h : t.Parsed) : t.WellKinded := by
  constructor
  · intro id _ k hk c hc
    by_cases hne : k = .sourceUnit
    · subst hne
      cases hc
    · obtain ⟨form, span, children, -, hshows, rfl⟩ := h.form_of_kind? hk hne
      rw [Shows] at hshows
      rw [hshows.2.2.1]
      exact Form.mentioned_kind_subset form _ hc
  · intro id _ k hk
    unfold NamesAgree
    split
    · exact (h.declared hk).2
    · trivial

/-! ### Places -/

/-- A node whose kind tells its form, and whose form tells that it has a place, has the mark of its
form there. -/
theorem exists_mark (h : t.Parsed) {id : Nat} {k : NodeKind} (form : Form)
    (hk : t.kind? id = some k) (hne : k ≠ .sourceUnit)
    (hform : ∀ f ids, Form.kind f ids = k → f = form)
    (hplaced : ∀ span children, Lawful form span children → span.isSome) :
    ∃ span, t.span? id = some span ∧ t.mark? id = form.mark? (some span) := by
  obtain ⟨f, span?, children, hlawful, hshows, rfl⟩ := h.form_of_kind? hk hne
  obtain rfl := hform f _ rfl
  obtain ⟨span, rfl⟩ := Option.isSome_iff_exists.1 (hplaced _ _ hlawful)
  rw [Shows] at hshows
  exact ⟨span, hshows.2.1, mark?_of_form hshows.1 hshows.2.1⟩

theorem identifier_mark (h : t.Parsed) {id : NodeId} {name : String}
    (hk : t.kind? id = some (.identifier name)) :
    ∃ span, t.span? id = some span ∧ t.mark? id = some (.identifier name span) :=
  h.exists_mark (.identifier name) hk (by simp) (fun _ _ => Form.kind_eq_identifier.1)
    fun _ _ hlawful => hlawful

theorem number_mark (h : t.Parsed) {id : NodeId} {text : String}
    (hk : t.kind? id = some (.number text)) :
    ∃ span, t.span? id = some span ∧ t.mark? id = some (.number text span.start) :=
  h.exists_mark (.number text) hk (by simp) (fun _ _ => Form.kind_eq_number.1)
    fun _ _ hlawful => hlawful

theorem block_mark (h : t.Parsed) {id : NodeId} (hk : t.kind? id = some .block) :
    ∃ span, t.span? id = some span ∧ t.mark? id = some (.block span.start) :=
  h.exists_mark .block hk (by simp) (fun _ _ => Form.kind_eq_block.1)
    fun _ _ hlawful => hlawful

theorem exists_kind_of_isKind {p : NodeKind → Bool} {id : NodeId} (h : t.isKind p id) :
    ∃ k, t.kind? id = some k ∧ p k := by
  rw [isKind] at h
  cases hk : t.kind? id with
  | none =>
      rw [hk] at h
      cases h
  | some k =>
      rw [hk] at h
      exact ⟨k, rfl, h⟩

/-- Nodes that have marks where they begin have known places and begin at places of their own. -/
theorem placed_and_apart (h : t.Parsed) {p : NodeKind → Bool}
    (hp : ∀ id k, t.kind? id = some k → p k →
      ∃ span m, t.span? id = some span ∧ t.mark? id = some m ∧ m.start = span.start) :
    t.Placed p ∧ t.Apart p := by
  constructor
  · intro id _ hid
    obtain ⟨k, hk, hpk⟩ := exists_kind_of_isKind hid
    obtain ⟨span, m, hspan, -, -⟩ := hp id k hk hpk
    rw [hspan]
    rfl
  · intro a _ b _ ha hb hstart
    obtain ⟨k, hk, hpk⟩ := exists_kind_of_isKind ha
    obtain ⟨l, hl, hpl⟩ := exists_kind_of_isKind hb
    obtain ⟨span, m, hspan, hm, hms⟩ := hp a k hk hpk
    obtain ⟨span', n, hspan', hn, hns⟩ := hp b l hl hpl
    rw [start?, start?, hspan, hspan', Option.map_some, Option.map_some] at hstart
    exact h.inOrder.eq_of_start_eq hm hn (by rw [hms, hns, Option.some.inj hstart])

/-- **In the tree of a source blocks and identifiers begin at places of their own.** -/
theorem located (h : t.Parsed) : t.Located := by
  have hblocks : t.Placed (· = .block) ∧ t.Apart (· = .block) := by
    refine h.placed_and_apart fun id k hk hb => ?_
    obtain rfl : k = .block := by simpa using hb
    obtain ⟨span, hspan, hmark⟩ := h.block_mark hk
    exact ⟨span, _, hspan, hmark, rfl⟩
  have hidentifiers : t.Placed NodeKind.isIdentifier ∧ t.Apart NodeKind.isIdentifier := by
    refine h.placed_and_apart fun id k hk hi => ?_
    cases k with
    | identifier name =>
        obtain ⟨span, hspan, hmark⟩ := h.identifier_mark hk
        exact ⟨span, _, hspan, hmark, rfl⟩
    | _ => cases hi
  exact ⟨hblocks.1, hblocks.2, hidentifiers.1, hidentifiers.2⟩

end Parsed

end SyntaxTree

end AddressTrace
