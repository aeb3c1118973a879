import AddressTrace.Proofs.Solidity.Lexemes
import AddressTrace.Proofs.Solidity.Outlines
import Mathlib.Data.List.Forall2

/-!
# What a parser finds among the lexemes it reads

A parser takes lexemes off the front of a cursor, and what it returns has marks: its identifiers,
numbers and blocks.  Each mark begins with a lexeme of its own among those read, in their order.
This is stated for a parser that goes on where others have stopped, so that it passes through
sequences, choices and repetitions.

## Main definitions

* `Begins` — a lexeme begins a mark;
* `Marked` — some marks begin with some of these lexemes, in their order;
* `Cursor.Takes` — one cursor is reached from another by taking lexemes;
* `Parser.Reads` — a parser that goes on after some marks were found;
* `Parser.Finds`, `Parser.Passes` — a parser by itself, with marks and without;
* `Parser.Stays` — a parser that only looks ahead.

## Main statements

* `Parser.Reads.andThen` — sequences;
* `Parser.finds_many`, `Parser.finds_separated` — repetitions.
-/

namespace AddressTrace.Solidity

open Text

/-- **A lexeme begins a mark**, and says what the mark says. -/
inductive Begins : Mark → Lexeme → Prop
  | identifier {token : Token} {name : String} (span : Span) (h : token.word? = some name) :
      Begins (.identifier name span) ⟨token, span⟩
  | number (digits exponent : String) (span : Span) :
      Begins (.number (decimalText (Parser.withoutLowLines digits)
        (Parser.withoutLowLines exponent)) span.start) ⟨.number digits exponent, span⟩
  | hexNumber (text : String) (span : Span) :
      Begins (.number text span.start) ⟨.hexNumber text, span⟩
  | block (span : Span) : Begins (.block span.start) ⟨.symbol Parser.openBrace, span⟩
  | unchecked (span : Span) : Begins (.block span.start) ⟨.keyword "unchecked", span⟩

theorem Begins.start_eq {m : Mark} {l : Lexeme} (h : Begins m l) : m.start = l.span.start := by
  cases h <;> rfl

/-- **Marks that begin with lexemes of their own** among these, in their order. -/
def Marked (marks : List Mark) (lexemes : List Lexeme) : Prop :=
  List.SublistForall₂ Begins marks lexemes

namespace Marked

theorem of_nil (lexemes : List Lexeme) : Marked [] lexemes := List.SublistForall₂.nil

theorem singleton {m : Mark} {l : Lexeme} (h : Begins m l) : Marked [m] [l] :=
  .cons h .nil

theorem append {m₁ m₂ : List Mark} {l₁ l₂ : List Lexeme} (h₁ : Marked m₁ l₁)
    (h₂ : Marked m₂ l₂) : Marked (m₁ ++ m₂) (l₁ ++ l₂) := by
  induction h₁ with
  | nil =>
      rename_i lexemes
      induction lexemes with
      | nil => exact h₂
      | cons _ _ ih => exact .cons_right ih
  | cons h _ ih => exact .cons h ih
  | cons_right _ ih => exact .cons_right ih

/-- Some of the marks begin with lexemes of their own as well. -/
theorem sublist {m₁ m₂ : List Mark} {l : List Lexeme} (hm : m₁.Sublist m₂) (h : Marked m₂ l) :
    Marked m₁ l := by
  induction h generalizing m₁ with
  | nil =>
      rw [List.eq_nil_of_sublist_nil hm]
      exact .nil
  | cons hb _ ih =>
      cases hm with
      | cons _ hm => exact .cons_right (ih hm)
      | cons_cons _ hm => exact .cons hb (ih hm)
  | cons_right _ ih => exact .cons_right (ih hm)

/-- Each of the marks begins with one of the lexemes. -/
theorem exists_lexeme {marks : List Mark} {lexemes : List Lexeme} (h : Marked marks lexemes) :
    ∀ m ∈ marks, ∃ l ∈ lexemes, Begins m l := by
  induction h with
  | nil =>
      intro m hm
      cases hm
  | cons hb _ ih =>
      intro m hm
      rcases List.mem_cons.1 hm with rfl | hm
      · exact ⟨_, List.mem_cons_self, hb⟩
      · obtain ⟨l, hl, hbegins⟩ := ih m hm
        exact ⟨l, List.mem_cons_of_mem _ hl, hbegins⟩
  | cons_right _ ih =>
      intro m hm
      obtain ⟨l, hl, hbegins⟩ := ih m hm
      exact ⟨l, List.mem_cons_of_mem _ hl, hbegins⟩

/-- **Marks of lexemes that begin one behind the other do so, too.** -/
theorem pairwise_start {marks : List Mark} {lexemes : List Lexeme} (h : Marked marks lexemes)
    (hl : lexemes.Pairwise fun l r => l.span.start < r.span.start) :
    marks.Pairwise fun m n => m.start < n.start := by
  induction h with
  | nil => exact List.Pairwise.nil
  | cons hb hrest ih =>
      rw [List.pairwise_cons] at hl
      refine List.Pairwise.cons ?_ (ih hl.2)
      intro m hm
      obtain ⟨l, hmem, hbegins⟩ := exists_lexeme hrest m hm
      rw [hb.start_eq, hbegins.start_eq]
      exact hl.1 l hmem
  | cons_right _ ih => exact ih (List.pairwise_cons.1 hl).2

end Marked

/-- The offset at which the lexeme ahead begins. -/
def Cursor.ahead (c : Cursor) : Nat := (c.rest.head?.map (·.span.start)).getD c.stop

theorem Cursor.ahead_eq {c : Cursor} {l : Lexeme} {rest : List Lexeme} (h : c.rest = l :: rest) :
    c.ahead = l.span.start := by
  rw [ahead, h]
  rfl

/-- **A cursor is reached from another by taking lexemes** off the front, one after the other. -/
inductive Cursor.Takes : Cursor → List Lexeme → Cursor → Prop
  | nil (c : Cursor) : Takes c [] c
  | cons {stop : Nat} {l : Lexeme} {rest used : List Lexeme} {c' : Cursor}
      (h : Takes ⟨l.span.stop, rest⟩ used c') : Takes ⟨stop, l :: rest⟩ (l :: used) c'

namespace Cursor.Takes

variable {c c₁ c₂ : Cursor} {used used₁ used₂ : List Lexeme}

theorem trans (h₁ : c.Takes used₁ c₁) (h₂ : c₁.Takes used₂ c₂) : c.Takes (used₁ ++ used₂) c₂ := by
  induction h₁ with
  | nil => exact h₂
  | cons _ ih => exact .cons (ih h₂)

theorem rest_eq (h : c.Takes used c₁) : c.rest = used ++ c₁.rest := by
  induction h with
  | nil => rfl
  | @cons _ l _ _ _ _ ih => exact congrArg (l :: ·) ih

end Cursor.Takes

namespace Parser

variable {α β : Type}

theorem bind_eq_some {p : Parser α} {q : α → Parser β} {c : Cursor} {r : β × Cursor} :
    (p >>= q) c = some r ↔ ∃ a c₁, p c = some (a, c₁) ∧ q a c₁ = some r := by
  constructor
  · intro h
    obtain ⟨⟨a, c₁⟩, ha, hr⟩ := Option.bind_eq_some_iff.1 h
    exact ⟨a, c₁, ha, hr⟩
  · rintro ⟨a, c₁, ha, hr⟩
    exact Option.bind_eq_some_iff.2 ⟨(a, c₁), ha, hr⟩

/-- **A parser that goes on after some marks were found**: it takes lexemes off the front, and the
marks of its value are among those found before and those that begin with the lexemes taken. -/
def Reads (p : Parser α) (c : Cursor) (before : List Mark) (marks : α → List Mark) : Prop :=
  ∀ a c', p c = some (a, c') → ∃ used found,
    c.Takes used c' ∧ Marked found used ∧ (marks a).Sublist (before ++ found)

/-- **A parser whose values have their marks in the lexemes it takes.** -/
def Finds (p : Parser α) (marks : α → List Mark) : Prop := ∀ c, Reads p c [] marks

/-- **A parser that only takes lexemes off the front.** -/
def Passes (p : Parser α) : Prop := Finds p fun _ => []

/-- **A parser that looks ahead only**: the cursor stays where it is. -/
def Stays (p : Parser α) : Prop := ∀ c, ∃ a, p c = some (a, c)

namespace Reads

variable {p : Parser α} {q : α → Parser β} {c : Cursor} {before : List Mark}
  {found : α → List Mark} {marks : β → List Mark}

theorem pure {a : α} (h : (found a).Sublist before) :
    Reads (Pure.pure a) c before found := by
  intro b c' hb
  cases hb
  exact ⟨[], [], .nil c, .of_nil _, by simpa using h⟩

theorem refuse : Reads (Parser.refuse : Parser α) c before found := by
  intro a c' h
  cases h

/-- **A sequence**: the second parser goes on after the marks of the first one. -/
theorem andThen (hp : Reads p c before found) (hq : ∀ a c₁, Reads (q a) c₁ (found a) marks) :
    Reads (p >>= q) c before marks := by
  intro b c' h
  obtain ⟨a, c₁, ha, hb⟩ := bind_eq_some.1 h
  obtain ⟨used₁, found₁, htakes₁, hmarked₁, hsub₁⟩ := hp a c₁ ha
  obtain ⟨used₂, found₂, htakes₂, hmarked₂, hsub₂⟩ := hq a c₁ b c' hb
  refine ⟨used₁ ++ used₂, found₁ ++ found₂, htakes₁.trans htakes₂, hmarked₁.append hmarked₂, ?_⟩
  rw [← List.append_assoc]
  exact hsub₂.trans (hsub₁.append_right found₂)

/-- What was found before may be kept while a parser reads. -/
theorem frame (h : Reads p c before found) (pre : List Mark) :
    Reads p c (pre ++ before) fun a => pre ++ found a := by
  intro a c' ha
  obtain ⟨used, new, htakes, hmarked, hsub⟩ := h a c' ha
  refine ⟨used, new, htakes, hmarked, ?_⟩
  rw [List.append_assoc]
  exact hsub.append_left pre

/-- It does no harm when more marks were found before. -/
theorem more {fewer : List Mark} (h : Reads p c fewer found) (hfewer : fewer.Sublist before) :
    Reads p c before found := by
  intro a c' ha
  obtain ⟨used, new, htakes, hmarked, hsub⟩ := h a c' ha
  exact ⟨used, new, htakes, hmarked, hsub.trans (hfewer.append_right new)⟩

/-- A sequence whose first part is read by itself. -/
theorem bind (hp : Finds p found) (hq : ∀ a c₁, Reads (q a) c₁ (before ++ found a) marks) :
    Reads (p >>= q) c before marks := by
  have hframe := (hp c).frame before
  rw [List.append_nil] at hframe
  exact hframe.andThen hq

/-- A sequence whose first part has no marks. -/
theorem pass (hp : Passes p) (hq : ∀ a c₁, Reads (q a) c₁ before marks) :
    Reads (p >>= q) c before marks := by
  refine bind hp fun a c₁ => ?_
  rw [List.append_nil]
  exact hq a c₁

/-- A sequence that begins by looking ahead. -/
theorem stay (hp : Stays p) (hq : ∀ a, Reads (q a) c before marks) :
    Reads (p >>= q) c before marks := by
  intro b c' h
  obtain ⟨a, c₁, ha, hb⟩ := bind_eq_some.1 h
  obtain ⟨a', ha'⟩ := hp c
  rw [ha'] at ha
  cases ha
  exact hq _ b c' hb

/-- A sequence that begins by asking where it stands. -/
theorem start {q : Nat → Parser β} (hq : Reads (q c.ahead) c before marks) :
    Reads (Parser.start >>= q) c before marks := by
  intro b c' h
  obtain ⟨a, c₁, ha, hb⟩ := bind_eq_some.1 h
  cases ha
  exact hq b c' hb

/-- A sequence that begins with a look at the token ahead. -/
theorem peek {q : Option Token → Parser β}
    (hq : Reads (q (c.rest.head?.map (·.token))) c before marks) :
    Reads (Parser.peek >>= q) c before marks := by
  intro b c' h
  obtain ⟨a, c₁, ha, hb⟩ := bind_eq_some.1 h
  cases ha
  exact hq b c' hb

/-- A sequence that begins by asking for the bytes read from an offset on. -/
theorem spanFrom {offset : Nat} {q : Span → Parser β}
    (hq : Reads (q ⟨offset, c.stop⟩) c before marks) :
    Reads (Parser.spanFrom offset >>= q) c before marks := by
  intro b c' h
  obtain ⟨a, c₁, ha, hb⟩ := bind_eq_some.1 h
  cases ha
  exact hq b c' hb

/-- A sequence that begins with a lexeme which is a mark. -/
theorem lexeme {read : Lexeme → Option α} (found : Lexeme → α → List Mark)
    (hfound : ∀ l a, read l = some a → Marked (found l a) [l])
    (hq : ∀ l rest a, c.rest = l :: rest → read l = some a →
      Reads (q a) ⟨l.span.stop, rest⟩ (before ++ found l a) marks) :
    Reads (Parser.lexeme read >>= q) c before marks := by
  intro b c' h
  obtain ⟨a, c₁, ha, hb⟩ := bind_eq_some.1 h
  obtain ⟨stop, _ | ⟨l, rest⟩⟩ := c
  · cases ha
  · obtain ⟨a, hread, heq⟩ := Option.map_eq_some_iff.1 ha
    cases heq
    obtain ⟨used, found₂, htakes, hmarked, hsub⟩ := hq l rest a rfl hread b c' hb
    refine ⟨l :: used, found l a ++ found₂, .cons htakes, ?_, ?_⟩
    · exact (hfound l a hread).append hmarked
    · rw [← List.append_assoc]
      exact hsub

/-- A value that is at hand is passed on. -/
theorem given {a : α} (h : Reads (q a) c before marks) : Reads (Pure.pure a >>= q) c before marks :=
  h

/-- A sequence that begins with a token which is a mark at the place where it stands. -/
theorem token {t : Token} {m : Nat → Mark} {q : Unit → Parser β}
    (hm : ∀ span : Span, Begins (m span.start) ⟨t, span⟩)
    (hq : ∀ c₁, Reads (q ()) c₁ (before ++ [m c.ahead]) marks) :
    Reads (Parser.token t >>= q) c before marks := by
  refine lexeme (fun l _ => [m l.span.start]) ?_ ?_
  · intro l a hread
    obtain ⟨token, span⟩ := l
    split at hread
    · next ht =>
        cases ht
        exact .singleton (hm span)
    · cases hread
  · intro l rest a hrest hread
    rw [← Cursor.ahead_eq hrest]
    exact hq _

theorem weaken {less : α → List Mark} (h : Reads p c before found)
    (hless : ∀ a, (less a).Sublist (found a)) : Reads p c before less := by
  intro a c' ha
  obtain ⟨used, new, htakes, hmarked, hsub⟩ := h a c' ha
  exact ⟨used, new, htakes, hmarked, (hless a).trans hsub⟩

theorem ite {b : Bool} {p₁ p₂ : Parser α} (h₁ : b = true → Reads p₁ c before found)
    (h₂ : b = false → Reads p₂ c before found) :
    Reads (if b = true then p₁ else p₂) c before found := by
  cases b with
  | true => exact h₁ rfl
  | false => exact h₂ rfl

end Reads

namespace Finds

variable {p : Parser α} {found : α → List Mark}

theorem weaken {less : α → List Mark} (h : Finds p found)
    (hless : ∀ a, (less a).Sublist (found a)) : Finds p less :=
  fun c => (h c).weaken hless

/-- What a parser finds need not be kept. -/
theorem passes (h : Finds p found) : Passes p := h.weaken fun _ => List.nil_sublist _

theorem refuse : Finds (Parser.refuse : Parser α) found := fun _ => .refuse

theorem pure {a : α} (h : found a = []) : Finds (Pure.pure a) found :=
  fun _ => .pure (by rw [h])

end Finds

namespace Passes

variable {p : Parser α} {q : α → Parser β}

theorem pure (a : α) : Passes (Pure.pure a) := Finds.pure rfl

theorem refuse : Passes (Parser.refuse : Parser α) := Finds.refuse

theorem bind (hp : Passes p) (hq : ∀ a, Passes (q a)) : Passes (p >>= q) :=
  fun _ => .pass hp fun a c₁ => hq a c₁

theorem ite {P : Prop} [Decidable P] {p₁ p₂ : Parser α} (h₁ : Passes p₁) (h₂ : Passes p₂) :
    Passes (if P then p₁ else p₂) := by
  split
  · exact h₁
  · exact h₂

end Passes

/-! ### Looking ahead -/

namespace Stays

variable {p : Parser α} {q : α → Parser β}

theorem pure (a : α) : Stays (Pure.pure a) := fun _ => ⟨a, rfl⟩

theorem bind (hp : Stays p) (hq : ∀ a, Stays (q a)) : Stays (p >>= q) := by
  intro c
  obtain ⟨a, ha⟩ := hp c
  obtain ⟨b, hb⟩ := hq a c
  exact ⟨b, bind_eq_some.2 ⟨a, c, ha, hb⟩⟩

theorem passes (hp : Stays p) : Passes p := by
  intro c a c' ha
  obtain ⟨b, hb⟩ := hp c
  rw [hb] at ha
  cases ha
  exact ⟨[], [], .nil c, .of_nil _, List.nil_sublist _⟩

end Stays

theorem stays_peek : Stays peek := fun c => ⟨c.rest.head?.map (·.token), rfl⟩

theorem stays_peekSecond : Stays peekSecond := fun c => ⟨c.rest[1]?.map (·.token), rfl⟩

theorem stays_nextIs (t : Token) : Stays (nextIs t) := stays_peek.bind fun _ => .pure _

theorem stays_nameAhead : Stays nameAhead := stays_peek.bind fun _ => .pure _

theorem stays_valueNameAhead : Stays valueNameAhead := stays_peek.bind fun _ => .pure _

/-! ### Single lexemes -/

theorem finds_lexeme {read : Lexeme → Option α} {found : α → List Mark}
    (h : ∀ l a, read l = some a → Marked (found a) [l]) : Finds (lexeme read) found := by
  rintro ⟨stop, _ | ⟨l, rest⟩⟩ a c' ha
  · cases ha
  · obtain ⟨b, hread, heq⟩ := Option.map_eq_some_iff.1 ha
    cases heq
    exact ⟨[l], found a, .cons (.nil _), h l a hread, List.Sublist.refl _⟩

theorem passes_lexeme (read : Lexeme → Option α) : Passes (lexeme read) :=
  finds_lexeme fun _ _ _ => .of_nil _

theorem passes_token (t : Token) : Passes (token t) := passes_lexeme _

theorem passes_symbol (s : String) : Passes (symbol s) := passes_token _

theorem passes_keyword (s : String) : Passes (keyword s) := passes_token _

theorem passes_trial (t : Token) : Passes (trial t) :=
  (stays_nextIs t).passes.bind fun _ => .ite ((passes_token t).bind fun _ => .pure _) (.pure _)

theorem passes_trySymbol (s : String) : Passes (trySymbol s) := passes_trial _

theorem passes_tryKeyword (s : String) : Passes (tryKeyword s) := passes_trial _

/-! ### Names -/

theorem finds_nameBy {text? : Token → Option String}
    (h : ∀ t s, text? t = some s → t.word? = some s) :
    Finds (nameBy text?) fun n => [Name.mark n] := by
  refine finds_lexeme fun l n hread => ?_
  obtain ⟨s, hs, rfl⟩ := Option.map_eq_some_iff.1 hread
  exact .singleton (.identifier l.span (h l.token s hs))

theorem word?_of_nameText? {t : Token} {s : String} (h : t.nameText? = some s) :
    t.word? = some s := by
  unfold Token.nameText? at h
  split at h
  · exact h
  · split at h
    · exact h
    · cases h
  · cases h

theorem word?_of_declaredText? {t : Token} {s : String} (h : t.declaredText? = some s) :
    t.word? = some s := by
  unfold Token.declaredText? at h
  split at h
  · exact h
  · exact word?_of_nameText? h

theorem finds_name : Finds name fun n => [Name.mark n] :=
  finds_nameBy fun _ _ => word?_of_declaredText?

theorem finds_valueName : Finds valueName fun n => [Name.mark n] :=
  finds_nameBy fun _ _ => word?_of_nameText?

theorem passes_nameBy (text? : Token → Option String) : Passes (nameBy text?) := passes_lexeme _

theorem passes_name : Passes name := passes_nameBy _

theorem finds_optionalName : Finds optionalName fun n => n.toList.map Name.mark := by
  intro c
  refine .stay stays_nameAhead fun _ => .ite (fun _ => ?_) fun _ => ?_
  · exact .bind finds_name fun n c => .pure (List.Sublist.refl _)
  · exact .pure (List.nil_sublist _)

theorem passes_optionalName : Passes optionalName := finds_optionalName.passes

/-! ### Repetitions -/

theorem finds_after (s : String) {p : Parser α} {found : α → List Mark} (hp : Finds p found) :
    Finds (after s p) fun o => o.elim [] found := by
  intro c
  refine .pass (passes_trySymbol s) fun b c => .ite (fun _ => ?_) fun _ => ?_
  · exact .bind hp fun a c => .pure (List.Sublist.refl _)
  · exact .pure (List.nil_sublist _)

/-- **A repetition finds the marks of its values**, one value after the other. -/
theorem finds_many {p : Parser (Option α)} {found : α → List Mark}
    (hp : Finds p fun o => o.elim [] found) (rounds : Nat) :
    Finds (many p rounds) fun as => as.flatMap found := by
  induction rounds with
  | zero => exact Finds.refuse
  | succ rounds ih =>
      intro c
      refine .bind hp fun o c => ?_
      cases o with
      | none => exact .pure (List.nil_sublist _)
      | some a =>
          refine .bind ih fun as c => .pure ?_
          rw [List.flatMap_cons]
          exact List.Sublist.refl _

theorem passes_many {p : Parser (Option α)} (hp : Passes p) (rounds : Nat) :
    Passes (many p rounds) := by
  have hnone : Finds p fun o => o.elim [] fun _ => [] := by
    refine hp.weaken fun o => ?_
    cases o <;> exact List.nil_sublist _
  exact (finds_many hnone rounds).passes

theorem finds_manyAfter (separator : String) {p : Parser α} {found : α → List Mark}
    (hp : Finds p found) (rounds : Nat) :
    Finds (manyAfter separator p rounds) fun as => as.flatMap found :=
  finds_many (finds_after separator hp) rounds

theorem finds_separated (separator : String) {p : Parser α} {found : α → List Mark}
    (hp : Finds p found) (rounds : Nat) :
    Finds (separated separator p rounds) fun as => as.flatMap found := by
  intro c
  refine .bind hp fun a c => .bind (finds_manyAfter separator hp rounds) fun as c => .pure ?_
  rw [List.flatMap_cons]
  exact List.Sublist.refl _

theorem finds_listUntil (close : String) {p : Parser α} {found : α → List Mark}
    (hp : Finds p found) (rounds : Nat) :
    Finds (listUntil close p rounds) fun as => as.flatMap found := by
  intro c
  refine .pass (passes_trySymbol close) fun b c => .ite (fun _ => ?_) fun _ => ?_
  · exact .pure (List.nil_sublist _)
  · refine .bind (finds_separated "," hp rounds) fun as c => ?_
    exact .pass (passes_symbol close) fun _ c => .pure (List.Sublist.refl _)

theorem finds_allUntil (close : String) {p : Parser α} {found : α → List Mark}
    (hp : Finds p found) (rounds : Nat) :
    Finds (allUntil close p rounds) fun as => as.flatMap found := by
  refine finds_many (fun c => ?_) rounds
  refine .pass (passes_trySymbol close) fun b c => .ite (fun _ => ?_) fun _ => ?_
  · exact .pure (List.nil_sublist _)
  · exact .bind hp fun a c => .pure (List.Sublist.refl _)

theorem passes_after (s : String) {p : Parser α} (hp : Passes p) : Passes (after s p) :=
  (finds_after s hp).passes

theorem passes_manyAfter (separator : String) {p : Parser α} (hp : Passes p) (rounds : Nat) :
    Passes (manyAfter separator p rounds) :=
  (finds_manyAfter separator hp rounds).passes

theorem passes_separated (separator : String) {p : Parser α} (hp : Passes p) (rounds : Nat) :
    Passes (separated separator p rounds) :=
  (finds_separated separator hp rounds).passes

theorem passes_listUntil (close : String) {p : Parser α} (hp : Passes p) (rounds : Nat) :
    Passes (listUntil close p rounds) :=
  (finds_listUntil close hp rounds).passes

theorem passes_allUntil (close : String) {p : Parser α} (hp : Passes p) (rounds : Nat) :
    Passes (allUntil close p rounds) :=
  (finds_allUntil close hp rounds).passes

theorem passes_path (rounds : Nat) : Passes (path rounds) := passes_separated "." passes_name rounds

end Parser

end AddressTrace.Solidity
