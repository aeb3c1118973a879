import AddressTrace.Proofs.Solidity.Reading.Basic

/-!
# What parsers give inside a text

The lexemes of a text stand one behind the other, so a parser that takes them off the front moves to
the right and stays inside the text.  If a lexeme was taken since some offset was ahead, the bytes
from that offset on are bytes of the text.

## Main definitions

* `Cursor.Within` — a cursor on lexemes of a text;
* `Cursor.Reaches` — a cursor reaches another one farther on in the text;
* `Parser.Keeps` — a parser that stays in the text, and whose value has a property;
* `Parser.Gives` — such a parser, from every cursor on.

## Main statements

* `Cursor.Within.takes` — taking lexemes leads farther on;
* `Cursor.Within.inText` — the bytes read from an offset on are bytes of the text;
* `Parser.Keeps.andThen` — sequences;
* `Parser.gives_many`, `Parser.gives_separated` — repetitions.
-/

namespace AddressTrace.Solidity

open Text

/-- **A cursor on lexemes of a text**, which stand one behind the other. -/
structure Cursor.Within (source : List Char) (c : Cursor) : Prop where
  stop_le : c.stop ≤ widthOf source
  stop_le_start : ∀ l ∈ c.rest, c.stop ≤ l.span.start
  scanned : ∀ l ∈ c.rest, ScannedIn source 0 l
  before : c.rest.Pairwise Lexeme.Before

/-- **A cursor reaches another one** that stands in the text, too, and not farther to the left. -/
structure Cursor.Reaches (source : List Char) (c c' : Cursor) : Prop where
  within : c'.Within source
  stop_le_stop : c.stop ≤ c'.stop
  ahead_le_ahead : c.ahead ≤ c'.ahead

namespace Cursor

variable {source : List Char} {c c' c'' : Cursor}

theorem Reaches.trans (h : c.Reaches source c') (h' : c'.Reaches source c'') :
    c.Reaches source c'' :=
  ⟨h'.within, h.stop_le_stop.trans h'.stop_le_stop, h.ahead_le_ahead.trans h'.ahead_le_ahead⟩

namespace Within

theorem refl (h : c.Within source) : c.Reaches source c := ⟨h, Nat.le_refl _, Nat.le_refl _⟩

theorem stop_le_ahead (h : c.Within source) : c.stop ≤ c.ahead := by
  obtain ⟨stop, _ | ⟨l, rest⟩⟩ := c
  · exact Nat.le_refl _
  · exact h.stop_le_start l List.mem_cons_self

/-- The cursor behind the lexeme ahead. -/
theorem next {stop : Nat} {l : Lexeme} {rest : List Lexeme}
    (h : Within source ⟨stop, l :: rest⟩) :
    Reaches source ⟨stop, l :: rest⟩ ⟨l.span.stop, rest⟩ := by
  obtain ⟨hl, hrest⟩ := List.pairwise_cons.1 h.before
  have htext := (h.scanned l List.mem_cons_self).inText
  have hstart : stop ≤ l.span.start := h.stop_le_start l List.mem_cons_self
  have hwithin : Within source ⟨l.span.stop, rest⟩ :=
    ⟨htext.stop_le, fun r hr => (hl r hr).stop_le_start,
      fun r hr => h.scanned r (List.mem_cons_of_mem _ hr), hrest⟩
  refine ⟨hwithin, hstart.trans htext.start_lt_stop.le, ?_⟩
  rw [ahead_eq (l := l) rfl]
  exact htext.start_lt_stop.le.trans hwithin.stop_le_ahead

/-- **Taking lexemes leads farther on in the text.** -/
theorem takes {used : List Lexeme} (h : c.Within source) (ht : c.Takes used c') :
    c.Reaches source c' := by
  induction ht with
  | nil c => exact h.refl
  | cons _ ih => exact h.next.trans (ih h.next.within)

/-- **The bytes read from an offset on are bytes of the text**, if the lexeme read last ends behind
this offset. -/
theorem inText {offset : Nat} (h : c.Within source) (hoffset : offset < c.stop) :
    Span.InText (widthOf source) ⟨offset, c.stop⟩ :=
  ⟨hoffset, h.stop_le⟩

end Within

end Cursor

namespace Parser

variable {α β : Type} {source : List Char}

/-- A parser that takes lexemes off the front stays in the text. -/
theorem Passes.reaches {p : Parser α} {c c' : Cursor} {a : α} (hp : Passes p)
    (hc : c.Within source) (h : p c = some (a, c')) : c.Reaches source c' := by
  obtain ⟨used, -, htakes, -, -⟩ := hp c a c' h
  exact hc.takes htakes

/-- **A parser that stays in a text**, and whose value has a property. -/
def Keeps (source : List Char) (p : Parser α) (c : Cursor) (good : α → Prop) : Prop :=
  c.Within source → ∀ a c', p c = some (a, c') → c.Reaches source c' ∧ good a

/-- **A parser that stays in a text and gives values with a property**, from every cursor on. -/
def Gives (source : List Char) (p : Parser α) (good : α → Prop) : Prop := ∀ c, Keeps source p c good

namespace Keeps

variable {p : Parser α} {q : α → Parser β} {c : Cursor} {mid : α → Prop} {good : β → Prop}

theorem pure {a : α} (h : mid a) : Keeps source (Pure.pure a) c mid := by
  intro hc b c' hb
  cases hb
  exact ⟨hc.refl, h⟩

theorem refuse : Keeps source (Parser.refuse : Parser α) c mid := by
  intro _ a c' h
  cases h

/-- **A sequence**: the second parser goes on where the first one has led. -/
theorem andThen (hp : Keeps source p c mid)
    (hq : ∀ a c₁, c.Reaches source c₁ → mid a → Keeps source (q a) c₁ good) :
    Keeps source (p >>= q) c good := by
  intro hc b c' h
  obtain ⟨a, c₁, ha, hb⟩ := bind_eq_some.1 h
  obtain ⟨hreach, hmid⟩ := hp hc a c₁ ha
  obtain ⟨hreach', hgood⟩ := hq a c₁ hreach hmid hreach.within b c' hb
  exact ⟨hreach.trans hreach', hgood⟩

/-- A sequence whose first part gives values of its own, wherever it stands. -/
theorem bind (hp : Gives source p mid) (hq : ∀ a c₁, mid a → Keeps source (q a) c₁ good) :
    Keeps source (p >>= q) c good :=
  (hp c).andThen fun a c₁ _ ha => hq a c₁ ha

/-- A sequence whose first part only takes lexemes. -/
theorem pass (hp : Passes p) (hq : ∀ a c₁, c.Reaches source c₁ → Keeps source (q a) c₁ good) :
    Keeps source (p >>= q) c good := by
  have hstays : Keeps source p c fun _ => True := fun hc _ _ h => ⟨hp.reaches hc h, trivial⟩
  exact hstays.andThen fun a c₁ hreach _ => hq a c₁ hreach

/-- A sequence that begins by looking ahead. -/
theorem stay (hp : Stays p) (hq : ∀ a, Keeps source (q a) c good) :
    Keeps source (p >>= q) c good := by
  intro hc b c' h
  obtain ⟨a, c₁, ha, hb⟩ := bind_eq_some.1 h
  obtain ⟨a', ha'⟩ := hp c
  rw [ha'] at ha
  cases ha
  exact hq _ hc b c' hb

/-- A sequence that begins by asking where it stands. -/
theorem start {q : Nat → Parser β} (hq : Keeps source (q c.ahead) c good) :
    Keeps source (Parser.start >>= q) c good := by
  intro hc b c' h
  obtain ⟨a, c₁, ha, hb⟩ := bind_eq_some.1 h
  cases ha
  exact hq hc b c' hb

/-- A sequence that begins with a token, which the scanner finds from where the parser stands. -/
theorem token {t : Token} {q : Unit → Parser β}
    (hq : ∀ c₁, c.Reaches source c₁ → ScannedIn source 0 ⟨t, ⟨c.ahead, c₁.stop⟩⟩ →
      Keeps source (q ()) c₁ good) :
    Keeps source (Parser.token t >>= q) c good := by
  intro hc b c' h
  obtain ⟨a, c₁, ha, hb⟩ := bind_eq_some.1 h
  have hreach := (passes_token t).reaches hc ha
  obtain ⟨stop, _ | ⟨l, rest⟩⟩ := c
  · cases ha
  · obtain ⟨a, hread, heq⟩ := Option.map_eq_some_iff.1 ha
    cases heq
    dsimp only at hread
    split at hread
    · next ht =>
        cases ht
        have hscanned := hc.scanned l List.mem_cons_self
        obtain ⟨hreach', hgood⟩ := hq _ hreach hscanned hreach.within b c' hb
        exact ⟨hreach.trans hreach', hgood⟩
    · cases hread

/-- A sequence that begins by asking for the bytes read from an offset on: they are bytes of the
text if something was read since. -/
theorem spanFrom {offset : Nat} {q : Span → Parser β}
    (hq : (offset < c.stop → Span.InText (widthOf source) ⟨offset, c.stop⟩) →
      Keeps source (q ⟨offset, c.stop⟩) c good) :
    Keeps source (Parser.spanFrom offset >>= q) c good := by
  intro hc b c' h
  obtain ⟨a, c₁, ha, hb⟩ := bind_eq_some.1 h
  cases ha
  exact hq hc.inText hc b c' hb

/-- A value that is at hand is passed on. -/
theorem given {a : α} (h : Keeps source (q a) c good) : Keeps source (Pure.pure a >>= q) c good := h

theorem ite {b : Bool} {p₁ p₂ : Parser α} (h₁ : b = true → Keeps source p₁ c mid)
    (h₂ : b = false → Keeps source p₂ c mid) :
    Keeps source (if b = true then p₁ else p₂) c mid := by
  cases b with
  | true => exact h₁ rfl
  | false => exact h₂ rfl

end Keeps

/-! ### Repetitions -/

variable {p : Parser α} {good : α → Prop}

theorem gives_after (s : String) (hp : Gives source p good) :
    Gives source (after s p) fun o => ∀ a ∈ o, good a := by
  intro c
  refine .pass (passes_trySymbol s) fun b _ _ => .ite (fun _ => ?_) fun _ => ?_
  · exact .bind hp fun a _ ha => .pure (by simpa using ha)
  · exact .pure (by simp)

/-- **A repetition gives values with the property**, each of them. -/
theorem gives_many {p : Parser (Option α)} (hp : Gives source p fun o => ∀ a ∈ o, good a)
    (rounds : Nat) : Gives source (many p rounds) fun as => ∀ a ∈ as, good a := by
  induction rounds with
  | zero => exact fun _ => .refuse
  | succ rounds ih =>
      intro c
      refine .bind hp fun o _ ho => ?_
      cases o with
      | none => exact .pure (by simp)
      | some a =>
          refine .bind ih fun as _ has => .pure ?_
          exact List.forall_mem_cons.2 ⟨ho a rfl, has⟩

theorem gives_manyAfter (separator : String) (hp : Gives source p good) (rounds : Nat) :
    Gives source (manyAfter separator p rounds) fun as => ∀ a ∈ as, good a :=
  gives_many (gives_after separator hp) rounds

theorem gives_separated (separator : String) (hp : Gives source p good) (rounds : Nat) :
    Gives source (separated separator p rounds) fun as => ∀ a ∈ as, good a := by
  intro c
  refine .bind hp fun a _ ha => .bind (gives_manyAfter separator hp rounds) fun as _ has => ?_
  exact .pure (List.forall_mem_cons.2 ⟨ha, has⟩)

theorem gives_listUntil (close : String) (hp : Gives source p good) (rounds : Nat) :
    Gives source (listUntil close p rounds) fun as => ∀ a ∈ as, good a := by
  intro c
  refine .pass (passes_trySymbol close) fun b _ _ => .ite (fun _ => ?_) fun _ => ?_
  · exact .pure (by simp)
  · refine .bind (gives_separated "," hp rounds) fun as _ has => ?_
    exact .pass (passes_symbol close) fun _ _ _ => .pure has

theorem gives_allUntil (close : String) (hp : Gives source p good) (rounds : Nat) :
    Gives source (allUntil close p rounds) fun as => ∀ a ∈ as, good a := by
  refine gives_many (fun c => ?_) rounds
  refine .pass (passes_trySymbol close) fun b _ _ => .ite (fun _ => ?_) fun _ => ?_
  · exact .pure (by simp)
  · exact .bind hp fun a _ ha => .pure (by simpa using ha)

end Parser

end AddressTrace.Solidity
