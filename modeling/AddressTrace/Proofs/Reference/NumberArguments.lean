import AddressTrace.Proofs.Reference.CallPattern
import AddressTrace.Proofs.Reference.Initializers
import AddressTrace.Proofs.Solidity.Literals
import AddressTrace.Proofs.Solidity.Numerals
import AddressTrace.Proofs.Tree.Places

/-!
# Numbers that calls are given

Each argument of a call that waits for an answer is a string literal, or it comes from a number
literal of the source: the argument itself, or the value of the variable that it names.  The text
that is kept of the literal says what the literal says, but for two things.  The unit is left out,
so the text denotes the value of the literal only if the unit stands for one; and a hexadecimal
literal keeps its low lines, with which it denotes nothing.

## Main definitions

* `Solidity.Literal.IsAt` — a number literal of a source;
* `TakesFrom` — the number literal that an argument comes from.

## Main statements

* `Solidity.Literal.IsAt.unique` — there is one literal at a place;
* `exists_literal_of_number` — each number of a tree comes from a literal of the source;
* `exists_takesFrom` — each argument is a string or comes from a number;
* `pending_argument_value` — when an argument has the value of its literal.
-/

namespace AddressTrace

open Text SyntaxTree Solidity

/-- **A number literal of a source** that begins at an offset: an expression of the file, reached by
way of operands that become nodes, whose number is written so. -/
structure Solidity.Literal.IsAt (l : Literal) (source : String) (start : Nat) : Prop where
  expression : ∃ unit position p text span, sourceUnit? source = some unit ∧
    (Part.file unit).partAt Part.lowered position = some p ∧ p.literal? = some (text, span) ∧
    span.start = start ∧ p.unit?.map (·.text) = l.unit
  lexeme : ∃ lexemes, lexemes? source.toList = some lexemes ∧ ∃ x ∈ lexemes, x.token.isNumber ∧
    x.span.start = start ∧ x.WrittenAs source.toList l.written

/-- **There is one literal at a place** of a source. -/
theorem Solidity.Literal.IsAt.unique {l l' : Literal} {source : String} {start : Nat}
    (h : l.IsAt source start) (h' : l'.IsAt source start) : l = l' := by
  have hunit : l.unit = l'.unit := by
    obtain ⟨unit, _, p, _, _, hunit, hp, hliteral, hstart, hname⟩ := h.expression
    obtain ⟨unit', _, p', _, _, hunit', hp', hliteral', hstart', hname'⟩ := h'.expression
    rw [hunit] at hunit'
    cases hunit'
    have hsame : p = p' := Part.eq_of_partAt_of_start_eq (p := .file unit)
      (pairwise_start_outlines hunit) hp hliteral hp' hliteral' (hstart.trans hstart'.symm)
    rw [← hname, ← hname', hsame]
  have hwritten : l.written = l'.written := by
    obtain ⟨lexemes, hlexemes, x, hx, -, hstart, hwritten⟩ := h.lexeme
    obtain ⟨lexemes', hlexemes', x', hx', -, hstart', hwritten'⟩ := h'.lexeme
    rw [hlexemes] at hlexemes'
    cases hlexemes'
    have hnodup : (lexemes.map fun x => x.span.start).Nodup :=
      List.pairwise_map.2 ((start_lt_start_of_lexemes? hlexemes).imp Nat.ne_of_lt)
    obtain rfl : x = x' := List.inj_on_of_nodup_map hnodup hx hx' (hstart.trans hstart'.symm)
    exact hwritten.unique hwritten'
  cases l
  cases l'
  cases hunit
  cases hwritten
  rfl

/-- **Each number of the tree of a source comes from a literal**, of which its text is kept. -/
theorem exists_literal_of_number {source : String} {t : SyntaxTree} (h : ofSource? source = some t)
    {id : NodeId} {text : String} (hkind : t.kind? id = some (.number text)) :
    ∃ (place : Span) (l : Literal), t.span? id = some place ∧ l.IsAt source place.start ∧
      l.KeptAs text := by
  obtain ⟨place, hplace, hmark⟩ := (parsed_ofSource? h).number_mark hkind
  obtain ⟨unit, hunit, rfl⟩ := Option.map_eq_some_iff.1 h
  have hmem := mem_marksAll_of_mark? hmark
  obtain ⟨position, p, span, hp, hliteral, hstart⟩ :=
    Part.exists_partAt_of_mem_marks (p := .file unit) hmem
  obtain ⟨lexemes, hlexemes, hmarked⟩ := exists_marked_outlines hunit
  obtain ⟨x, hx, hbegins⟩ := hmarked.exists_lexeme _ hmem
  obtain ⟨hnumber, written, hwritten, hkept⟩ := exists_keptAs_of_begins
    (scannedIn_of_lexemes? hlexemes x hx) hbegins (p.unit?.map (·.text))
  refine ⟨place, ⟨written, p.unit?.map (·.text)⟩, hplace, ⟨?_, ?_⟩, hkept⟩
  · exact ⟨unit, position, p, text, span, hunit, hp, hliteral, hstart, rfl⟩
  · exact ⟨lexemes, hlexemes, x, hx, hnumber, hbegins.start_eq.symm, hwritten⟩

/-! ### Where an argument comes from -/

/-- **The number literal that an argument comes from**: the argument itself, or the value in a
declaration of the variable that the argument names. -/
inductive TakesFrom (t : SyntaxTree) (id literal : NodeId) : Prop
  | itself (h : id = literal)
  | variable {d : Declaration} {origin : Origin} (hid : t.kind? id = some (.identifier d.name))
      (h : d.InitializedBy t origin literal)

section

variable {t : SyntaxTree} {ds : Declarations} {libraries : LinkedLibraries}

/-- The value of an identifier comes from the literal in a declaration of its name. -/
theorem exists_initializedBy_of_hasValue (ht : t.Located) {id : NodeId} {name value : String}
    (h : HasValue t (.ofTree t) id name value) :
    ∃ (d : Declaration) (origin : Origin) (literal : NodeId), d.name = name ∧ d.address = value ∧
      d.InitializedBy t origin literal := by
  cases h with
  | «local» hv =>
      obtain ⟨d, _, hgoverns, -⟩ :=
        LocalTable.exists_governs_of_find? ht (LocalTable.find?_eq_some.2 hv)
      obtain ⟨⟨literal, hliteral⟩, -⟩ := declares_local.exists_initializedBy hgoverns.mem
      exact ⟨d, _, literal, hgoverns.name_eq, hgoverns.address_eq, hliteral⟩
  | state hnone hspan hnearest =>
      obtain ⟨d, hd, hname, haddress⟩ := StateTable.exists_declaration_of_nearest
        (StateTable.find?_ofTree.1 (StateTable.find?_eq_some.2 hnearest))
      obtain ⟨⟨literal, hliteral⟩, -⟩ := declares_state.exists_initializedBy hd
      exact ⟨d, _, literal, hname, haddress, hliteral⟩

/-- **Each argument is a string, or it comes from a number.** -/
theorem exists_takesFrom (ht : t.Located) {id : NodeId} {text : String}
    (h : IsArgument t (.ofTree t) id text) :
    t.kind? id = some (.string text) ∨
      ∃ literal, TakesFrom t id literal ∧ t.kind? literal = some (.number text) := by
  rcases h with ⟨⟨hkind⟩ | ⟨hkind, hvalue⟩⟩ | ⟨hkind⟩
  · exact .inr ⟨id, .itself rfl, hkind⟩
  · obtain ⟨d, origin, literal, rfl, rfl, hliteral⟩ := exists_initializedBy_of_hasValue ht hvalue
    exact .inr ⟨literal, .variable hkind hliteral, hliteral.kind?_literal⟩
  · exact .inl hkind

/-- The arguments of a call that waits for an answer stand at their places. -/
theorem exists_argumentOf {f : Finding} (hf : f ∈ callFindings t ds libraries)
    {request : CallRequest} (hrequest : f.resolution = .pending request) {i : Nat} {text : String}
    (htext : request.arguments[i]? = some text) :
    ∃ id, f.ArgumentOf t i id ∧ IsArgument t ds id text := by
  obtain ⟨member, -, hf⟩ := List.mem_filterMap.1 hf
  obtain ⟨call, request', hcalls, rfl⟩ := callFinding?_eq_some_iff.1 hf
  cases hrequest
  obtain ⟨arguments, hcall, hvalues⟩ := hcalls.arguments
  obtain ⟨id, hid, hargument⟩ := exists_getElem?_of_forall₂ hvalues htext
  exact ⟨id, ⟨call, member, arguments, rfl, hcall, hid⟩, hargument⟩

end

/-- **When an argument has the value of its literal.**  Each argument of a call that waits for an
answer stands at its place and is a string, or it comes from a number literal of the source.  In the
second case, if the literal has a value in the language, the argument denotes this value exactly if
the literal is not a hexadecimal one with low lines and its unit stands for one, unless the value is
zero. -/
theorem pending_argument_value {source : String} {t : SyntaxTree} (h : ofSource? source = some t)
    (file : SourceFile) (libraries : LinkedLibraries) (passes : List Pass) {r : Reference}
    (hr : r ∈ (collect file t (.ofTree t) libraries passes).references) {request : CallRequest}
    (hpending : r.resolution = .pending request) :
    ∃ f ∈ callFindings t (.ofTree t) libraries, file.reference? t f = some r ∧
      ∀ i text, request.arguments[i]? = some text → ∃ id, f.ArgumentOf t i id ∧
        (t.kind? id = some (.string text) ∨
          ∃ (literal : NodeId) (place : Span), TakesFrom t id literal ∧
            t.kind? literal = some (.number text) ∧ t.span? literal = some place ∧
            (∃ l : Solidity.Literal, l.IsAt source place.start) ∧
            ∀ l : Solidity.Literal, l.IsAt source place.start → ∀ value, l.value? = some value →
              (numeral? text.toList = some value ↔
                (IsHexText l.written → '_' ∉ l.written.toList) ∧
                  (value = 0 ∨ l.factor? = some 1))) := by
  obtain ⟨p, -, f, hf, href⟩ := mem_references_collect.1 hr
  have hresolution := (reference?_eq_some href).2.1
  rw [hpending] at hresolution
  -- Only the pass over calls finds what waits for an answer.
  have hcalls : p = .calls := by
    rw [← (Pass.isOf_of_mem_findings hf).isPending_iff, ← hresolution]
    rfl
  subst hcalls
  refine ⟨f, hf, href, fun i text htext => ?_⟩
  obtain ⟨id, hid, hargument⟩ := exists_argumentOf hf hresolution.symm htext
  refine ⟨id, hid, ?_⟩
  rcases exists_takesFrom (parsed_ofSource? h).located hargument with
    hstring | ⟨literal, htakes, hkind⟩
  · exact .inl hstring
  · obtain ⟨place, l, hplace, hat, hkept⟩ := exists_literal_of_number h hkind
    refine .inr ⟨literal, place, htakes, hkind, hplace, ⟨l, hat⟩, fun l' hat' value hvalue => ?_⟩
    obtain rfl := hat.unique hat'
    exact hkept.numeral?_eq_value_iff hvalue

/-- A contract that gives a call a number with an exponent and one with a unit. -/
def numbersInCall : String :=
  "contract c \x7b function f() public \x7b " ++
    "I(0x1111111111111111111111111111111111111111).g(1_000e3, 1 ether); \x7d \x7d"

/-- The tree of this contract. -/
def numbersInCallTree : SyntaxTree := ofOutlines
  [.node (.contract (some "c")) (some ⟨0, 105⟩)
    [.node (.function (some "f")) (some ⟨13, 103⟩)
      [.node .block (some ⟨33, 103⟩)
        [.node .statement (some ⟨35, 100⟩)
          [.node .call (some ⟨35, 100⟩)
            [.node (.member "g") (some ⟨35, 82⟩)
                [.node .call (some ⟨35, 80⟩)
                  [letterAt "I" 35, literalAt 37 "0x1111111111111111111111111111111111111111"]],
              .node (.number "1000e3") (some ⟨83, 90⟩) [],
              .node (.number "1") (some ⟨92, 99⟩) []]]]]]]

theorem ofSource?_numbersInCall : ofSource? numbersInCall = some numbersInCallTree := by
  decide +kernel

/-- The references of the calls of this contract. -/
def numbersInCallReferences : List Reference :=
  (collect (.ofText "/c.sol" "c" numbersInCall) numbersInCallTree (.ofTree numbersInCallTree) .empty
    [.calls]).references

/-- What the call asks for. -/
def numbersInCallRequest : CallRequest :=
  ⟨"0x1111111111111111111111111111111111111111", "g", ["1000e3", "1"]⟩

theorem exists_pending_numbersInCall :
    ∃ r ∈ numbersInCallReferences, r.resolution = .pending numbersInCallRequest := by
  decide +kernel

/-- A literal is at a place if some position has its unit and some lexeme its characters. -/
theorem Solidity.Literal.IsAt.of_found {l : Literal} {source : String} (position : List Nat)
    (text : String) (span : Span) (x : Lexeme)
    (hexpression : ((sourceUnit? source).bind fun unit =>
      ((Part.file unit).partAt Part.lowered position).bind fun p =>
        p.literal?.map fun found => (found, p.unit?.map (·.text))) = some ((text, span), l.unit))
    (hlexeme : (lexemes? source.toList).map (fun lexemes => decide (x ∈ lexemes)) = some true)
    (hnumber : x.token.isNumber) (hstart : x.span.start = span.start)
    (hwritten : x.WrittenAs source.toList l.written) : l.IsAt source span.start := by
  constructor
  · obtain ⟨unit, hunit, hfound⟩ := Option.bind_eq_some_iff.1 hexpression
    obtain ⟨p, hp, hfound⟩ := Option.bind_eq_some_iff.1 hfound
    obtain ⟨found, hliteral, heq⟩ := Option.map_eq_some_iff.1 hfound
    obtain ⟨rfl, hname⟩ := Prod.mk.inj heq
    exact ⟨unit, position, p, text, span, hunit, hp, hliteral, rfl, hname⟩
  · obtain ⟨lexemes, hlexemes, hx⟩ := Option.map_eq_some_iff.1 hlexeme
    exact ⟨lexemes, hlexemes, x, of_decide_eq_true hx, hnumber, hstart, hwritten⟩

/-- The first number of the call, with an exponent. -/
theorem isAt_numbersInCall_exponent :
    Solidity.Literal.IsAt ⟨"1_000e3", none⟩ numbersInCall 83 := by
  refine .of_found [0, 0, 0, 0, 0, 1] "1000e3" ⟨83, 90⟩ ⟨.number "1_000" "3", ⟨83, 90⟩⟩
    (by decide +kernel) (by decide +kernel) rfl rfl ⟨?_, by decide +kernel⟩
  exact ⟨numbersInCall.toList.take 83, numbersInCall.toList.drop 90, by decide +kernel,
    by decide +kernel⟩

/-- The second number of the call, with a unit. -/
theorem isAt_numbersInCall_unit :
    Solidity.Literal.IsAt ⟨"1", some "ether"⟩ numbersInCall 92 := by
  refine .of_found [0, 0, 0, 0, 0, 2] "1" ⟨92, 99⟩ ⟨.number "1" "", ⟨92, 93⟩⟩
    (by decide +kernel) (by decide +kernel) rfl rfl ⟨?_, by decide +kernel⟩
  exact ⟨numbersInCall.toList.take 92, numbersInCall.toList.drop 93, by decide +kernel,
    by decide +kernel⟩

/-- The first argument comes from a number, and it has the value of its literal. -/
theorem pending_argument_value_exponent :
    ∃ (literal : NodeId) (l : Solidity.Literal), l.IsAt numbersInCall 83 ∧
      numbersInCallTree.kind? literal = some (.number "1000e3") ∧
      numbersInCallTree.span? literal = some ⟨83, 90⟩ ∧
      l.value? = some (10 ^ 6) ∧ numeral? "1000e3".toList = some (10 ^ 6) := by
  obtain ⟨r, hr, hpending⟩ := exists_pending_numbersInCall
  obtain ⟨f, -, -, harguments⟩ :=
    pending_argument_value ofSource?_numbersInCall _ _ _ hr hpending
  obtain ⟨id, -, hstring | ⟨literal, place, -, hkind, hplace, -, hvalue⟩⟩ :=
    harguments 0 "1000e3" rfl
  · have hnone : ∀ id < numbersInCallTree.size,
        numbersInCallTree.kind? id ≠ some (.string "1000e3") := by
      decide +kernel
    exact absurd hstring (hnone id (lt_size_of_kind? hstring))
  · have hone : ∀ id < numbersInCallTree.size,
        numbersInCallTree.kind? id = some (.number "1000e3") →
          numbersInCallTree.span? id = some ⟨83, 90⟩ := by
      decide +kernel
    rw [hone literal (lt_size_of_kind? hkind) hkind] at hplace
    cases hplace
    have hmillion : (⟨"1_000e3", none⟩ : Solidity.Literal).value? = some (10 ^ 6) := by
      decide +kernel
    refine ⟨literal, _, isAt_numbersInCall_exponent, hkind,
      hone literal (lt_size_of_kind? hkind) hkind, hmillion, ?_⟩
    have hdecimal : ¬ IsHexText "1_000e3" := by
      rw [IsHexText]
      decide +kernel
    exact (hvalue _ isAt_numbersInCall_exponent _ hmillion).2
      ⟨fun hhex => absurd hhex hdecimal, .inr rfl⟩

/-- The value of an argument is not always that of its literal: a unit gets lost. -/
theorem not_pending_argument_value_unit :
    ¬ ∀ r ∈ numbersInCallReferences, ∀ request, r.resolution = .pending request →
      ∀ f ∈ callFindings numbersInCallTree (.ofTree numbersInCallTree) .empty,
        (SourceFile.ofText "/c.sol" "c" numbersInCall).reference? numbersInCallTree f = some r →
        ∀ i text id literal place (l : Solidity.Literal), request.arguments[i]? = some text →
          f.ArgumentOf numbersInCallTree i id → TakesFrom numbersInCallTree id literal →
          numbersInCallTree.kind? literal = some (.number text) →
          numbersInCallTree.span? literal = some place → l.IsAt numbersInCall place.start →
          ∀ value, l.value? = some value → numeral? text.toList = some value := by
  intro hclaim
  have hreference : ∃ r ∈ numbersInCallReferences, r.resolution = .pending numbersInCallRequest ∧
      ∃ f ∈ callFindings numbersInCallTree (.ofTree numbersInCallTree) .empty,
        (SourceFile.ofText "/c.sol" "c" numbersInCall).reference? numbersInCallTree f = some r ∧
        f.parent = some 5 := by
    decide +kernel
  obtain ⟨r, hr, hpending, f, hf, href, hparent⟩ := hreference
  have hvalue := hclaim r hr _ hpending f hf href 1 "1" 11 11 ⟨92, 99⟩ ⟨"1", some "ether"⟩ rfl
    ⟨5, 6, [10, 11], hparent, by decide +kernel, rfl⟩ (.itself rfl) (by decide +kernel)
    (by decide +kernel) isAt_numbersInCall_unit (10 ^ 18) (by decide +kernel)
  exact absurd hvalue (by decide +kernel)

end AddressTrace
