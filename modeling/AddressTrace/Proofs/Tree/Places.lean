import AddressTrace.Proofs.Solidity.Spans.File
import AddressTrace.Proofs.Tree.Sources

/-!
# Where the nodes of a source stand

The identifiers, numbers, members and blocks of the tree of a source take bytes of this source.  The
bytes of an identifier are its name, and those of a hexadecimal number begin with its text.

## Main definitions

* `SyntaxTree.PointsInto` — the places of these nodes, as bytes of a source.

## Main statements

* `extract_of_standsAt` — the bytes of a text that stands in a source;
* `SyntaxTree.bytes_of_identifier` — the bytes of an identifier;
* `SyntaxTree.pointsInto_ofSource?` — the tree of a source points into it.
-/

namespace AddressTrace

open Text Solidity

/-! ### Bytes -/

theorem widthOf_eq (cs : List Char) : widthOf cs = (String.ofList cs).utf8ByteSize := by
  induction cs with
  | nil => rfl
  | cons c cs ih => rw [widthOf_cons, ih, String.ofList_cons, String.utf8ByteSize_append,
      String.utf8ByteSize_singleton]

/-- The bytes of a text are as many as its characters take. -/
theorem widthOf_toList (s : String) : widthOf s.toList = s.utf8ByteSize := by
  rw [widthOf_eq, String.ofList_toList]

/-- **A text that stands in a source is there in its bytes.** -/
theorem extract_of_standsAt {source text : String} {offset : Nat}
    (h : StandsAt source.toList text offset) :
    source.toUTF8.extract offset (offset + text.utf8ByteSize) = text.toUTF8 := by
  obtain ⟨before, after, hsource, rfl⟩ := h
  have hsplit : source = String.ofList before ++ (text ++ String.ofList after) := by
    rw [← String.ofList_toList (s := source), hsource, String.ofList_append, String.ofList_append,
      String.ofList_toList, String.append_assoc]
  have hbytes : source.toUTF8 = (String.ofList before).toByteArray
      ++ (text.toByteArray ++ (String.ofList after).toByteArray) := by
    rw [← String.toByteArray_append, ← String.toByteArray_append, ← hsplit]
    rfl
  have hbehind := ByteArray.extract_append_size_add (a := (String.ofList before).toByteArray)
    (b := text.toByteArray ++ (String.ofList after).toByteArray) (i := 0) (j := text.utf8ByteSize)
  rw [hbytes, widthOf_eq]
  exact hbehind.trans (ByteArray.extract_append_eq_left rfl)

/-- The bytes of a lexeme are what is written there. -/
theorem Solidity.Lexeme.WrittenAs.bytes_eq {source written : String} {l : Lexeme}
    (h : l.WrittenAs source.toList written) :
    source.toUTF8.extract l.span.start l.span.stop = written.toUTF8 := by
  obtain ⟨hstands, hstop⟩ := h
  rw [hstop, widthOf_toList]
  exact extract_of_standsAt hstands

/-- A lexeme is written in one way. -/
theorem Solidity.Lexeme.WrittenAs.unique {source written written' : String} {l : Lexeme}
    (h : l.WrittenAs source.toList written) (h' : l.WrittenAs source.toList written') :
    written = written' :=
  String.toByteArray_inj.1 (h.bytes_eq.symm.trans h'.bytes_eq)

namespace SyntaxTree

/-- **A tree whose nodes stand on bytes of a source.**  Identifiers, numbers, members and blocks
take some bytes of it.  Those of an identifier are its name, and those of a hexadecimal number begin
with its text. -/
structure PointsInto (t : SyntaxTree) (source : String) : Prop where
  identifier : ∀ ⦃id : NodeId⦄ ⦃name : String⦄, t.kind? id = some (.identifier name) →
    ∃ span, t.span? id = some span ∧ span.InText source.utf8ByteSize ∧
      source.toUTF8.extract span.start span.stop = name.toUTF8
  number : ∀ ⦃id : NodeId⦄ ⦃text : String⦄, t.kind? id = some (.number text) →
    ∃ span, t.span? id = some span ∧ span.InText source.utf8ByteSize ∧
      (IsHexText text →
        ∃ rest, source.toUTF8.extract span.start span.stop = text.toUTF8 ++ rest)
  member : ∀ ⦃id object : NodeId⦄ ⦃name : String⦄, t.kind? id = some (.member object name) →
    ∃ span, t.span? id = some span ∧ span.InText source.utf8ByteSize
  block : ∀ ⦃id : NodeId⦄, t.kind? id = some .block →
    ∃ span, t.span? id = some span ∧ span.InText source.utf8ByteSize

/-- **The bytes of an identifier are its name.** -/
theorem bytes_of_identifier {source : String} {unit : SourceUnit}
    (hunit : sourceUnit? source = some unit) {name : String} {span : Span}
    (hmark : .identifier name span ∈ Outline.marksAll (outlines unit)) :
    span.InText source.utf8ByteSize ∧
      source.toUTF8.extract span.start span.stop = name.toUTF8 := by
  obtain ⟨lexemes, hlexemes, hmarked⟩ := exists_marked_outlines hunit
  obtain ⟨l, hl, hbegins⟩ := hmarked.exists_lexeme _ hmark
  have hscanned := scannedIn_of_lexemes? hlexemes l hl
  obtain ⟨span, hword⟩ := hbegins
  have hwritten := hscanned.standsAt (Token.spelling?_of_word? hword)
  exact ⟨widthOf_toList source ▸ hscanned.inText, hwritten.bytes_eq⟩

/-- **A node of a source** that is no identifier has the place that its form is to have. -/
theorem exists_sized {source : String} {t : SyntaxTree} (h : ofSource? source = some t)
    {id : NodeId} {k : NodeKind} (hk : t.kind? id = some k) (hne : k ≠ .sourceUnit) :
    ∃ form span children ids, Outline.Sized source.toList form span children ∧
      k = form.kind ids ∧ t.span? id = span := by
  have hroot : id ≠ root := by
    rintro rfl
    rw [(parsed_ofSource? h).kind?_root] at hk
    exact hne (Option.some.inj hk).symm
  obtain ⟨unit, hunit, rfl⟩ := Option.map_eq_some_iff.1 h
  obtain ⟨form, span, children, hsized, hshows⟩ :=
    exists_shows_ofOutlines (sized_outlines hunit) (lt_size_of_kind? hk) hroot
  rw [Shows] at hshows
  exact ⟨form, span, children, _, hsized, Option.some.inj (hk.symm.trans hshows.1), hshows.2.1⟩

/-- **The tree of a source points into it.** -/
theorem pointsInto_ofSource? {source : String} {t : SyntaxTree} (h : ofSource? source = some t) :
    t.PointsInto source := by
  constructor
  · intro id name hk
    obtain ⟨span, hspan, hmark⟩ := (parsed_ofSource? h).identifier_mark hk
    obtain ⟨unit, hunit, rfl⟩ := Option.map_eq_some_iff.1 h
    exact ⟨span, hspan, bytes_of_identifier hunit (mem_marksAll_of_mark? hmark)⟩
  · intro id text hk
    obtain ⟨form, span?, children, ids, hsized, hform, hspan⟩ := exists_sized h hk (by simp)
    obtain rfl := Form.kind_eq_number.1 hform.symm
    obtain ⟨span, rfl, hin, hhex⟩ := hsized
    refine ⟨span, hspan, widthOf_toList source ▸ hin, fun htext => ?_⟩
    obtain ⟨hstands, hstop⟩ := hhex htext
    rw [widthOf_toList] at hstop
    refine ⟨source.toUTF8.extract (span.start + text.utf8ByteSize) span.stop, ?_⟩
    rw [← extract_of_standsAt hstands]
    exact ByteArray.extract_eq_extract_append_extract _ (Nat.le_add_right _ _) hstop
  · intro id object name hk
    obtain ⟨form, span?, children, ids, hsized, hform, hspan⟩ := exists_sized h hk (by simp)
    obtain rfl := Form.form_of_kind_eq_member hform.symm
    obtain ⟨span, rfl, hin⟩ := hsized
    exact ⟨span, hspan, widthOf_toList source ▸ hin⟩
  · intro id hk
    obtain ⟨form, span?, children, ids, hsized, hform, hspan⟩ := exists_sized h hk (by simp)
    obtain rfl := Form.kind_eq_block.1 hform.symm
    obtain ⟨span, rfl, hin⟩ := hsized
    exact ⟨span, hspan, widthOf_toList source ▸ hin⟩

end SyntaxTree

end AddressTrace
