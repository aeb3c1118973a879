import AddressTrace.Solidity.Lexer
import Mathlib.Data.List.TakeWhile

/-!
# Where lexemes stand

The scanner moves to the right only, so the lexemes of a text stand one behind the other, and each
of them takes some bytes.

## Main definitions

* `Lexeme.Before` — a lexeme ends where another one begins, or earlier;
* `Span.InText` — a span takes some bytes of a text;
* `ScannedIn` — a lexeme is what the scanner finds at its place;
* `Token.spelling?` — the text that a token is written with, if the token tells it;
* `StandsAt` — a text stands in a source from an offset on;
* `Lexeme.WrittenAs` — the text that a lexeme is written with.

## Main statements

* `before_of_lexemes?` — the lexemes of a text stand one behind the other;
* `start_lt_start_of_lexemes?` — so they begin at places of their own;
* `scannedIn_of_lexemes?`, `ScannedIn.inText` — they stand inside the text;
* `ScannedIn.standsAt` — words and hexadecimal numbers are the texts that they stand on;
* `written_of_scanNumber` — decimal numbers are digits and maybe an exponent;
* `ScannedIn.digits` — decimal numbers have digits.
-/

namespace AddressTrace

/-- **A span takes some bytes of a text** of this width. -/
structure Text.Span.InText (width : Nat) (span : Text.Span) : Prop where
  start_lt_stop : span.start < span.stop
  stop_le : span.stop ≤ width

namespace Solidity

open Text

/-- **A lexeme with some bytes that ends before another one begins.** -/
structure Lexeme.Before (l r : Lexeme) : Prop where
  start_lt_stop : l.span.start < l.span.stop
  stop_le_start : l.span.stop ≤ r.span.start

theorem Lexeme.Before.start_lt_start {l r : Lexeme} (h : l.Before r) :
    l.span.start < r.span.start :=
  Nat.lt_of_lt_of_le h.start_lt_stop h.stop_le_start

/-- The lexemes of the rest of a text begin behind the characters to be skipped. -/
theorem le_start_of_lexemesFrom {mode : Mode} {offset skip : Nat} {cs : List Char}
    {lexemes : List Lexeme} (h : lexemesFrom mode offset skip cs = some lexemes) :
    ∀ l ∈ lexemes, offset + widthOf (cs.take skip) ≤ l.span.start := by
  fun_induction lexemesFrom mode offset skip cs generalizing lexemes with
  | case1 mode offset skip =>
      cases h
      intro l hl
      cases hl
  | case2 mode offset skip c cs ih =>
      intro l hl
      have hle := ih h l hl
      rw [List.take_succ_cons, widthOf_cons]
      omega
  | case3 mode offset c cs more hscan ih =>
      intro l hl
      have hle := ih h l hl
      rw [List.take_zero, widthOf_nil]
      omega
  | case4 mode offset c cs token more hscan stop =>
      rename_i ih
      obtain ⟨rest, hrest, rfl⟩ := Option.map_eq_some_iff.1 h
      intro l hl
      rw [List.take_zero, widthOf_nil]
      rcases List.mem_cons.1 hl with rfl | hl
      · exact Nat.le_refl _
      · have hle := ih hrest l hl
        omega
  | case5 mode offset c cs hscan => cases h

/-- The lexemes of the rest of a text stand one behind the other. -/
theorem before_of_lexemesFrom {mode : Mode} {offset skip : Nat} {cs : List Char}
    {lexemes : List Lexeme} (h : lexemesFrom mode offset skip cs = some lexemes) :
    lexemes.Pairwise Lexeme.Before := by
  fun_induction lexemesFrom mode offset skip cs generalizing lexemes with
  | case1 mode offset skip =>
      cases h
      exact List.Pairwise.nil
  | case2 mode offset skip c cs ih =>
      exact ih h
  | case3 mode offset c cs more hscan ih =>
      exact ih h
  | case4 mode offset c cs token more hscan stop =>
      rename_i ih
      obtain ⟨rest, hrest, rfl⟩ := Option.map_eq_some_iff.1 h
      refine List.Pairwise.cons ?_ (ih hrest)
      intro l hl
      have hle := le_start_of_lexemesFrom hrest l hl
      have hpos := c.utf8Size_pos
      constructor
      · show offset < offset + widthOf (c :: cs.take more)
        rw [widthOf_cons]
        omega
      · show offset + widthOf (c :: cs.take more) ≤ l.span.start
        rw [widthOf_cons]
        omega
  | case5 mode offset c cs hscan => cases h

/-- **The lexemes of a text stand one behind the other.** -/
theorem before_of_lexemes? {source : List Char} {lexemes : List Lexeme}
    (h : lexemes? source = some lexemes) : lexemes.Pairwise Lexeme.Before :=
  before_of_lexemesFrom h

/-- **The lexemes of a text begin at places of their own**, in the order of the text. -/
theorem start_lt_start_of_lexemes? {source : List Char} {lexemes : List Lexeme}
    (h : lexemes? source = some lexemes) :
    lexemes.Pairwise fun l r => l.span.start < r.span.start :=
  (before_of_lexemes? h).imp Lexeme.Before.start_lt_start

/-! ### The texts of lexemes -/

/-- **A lexeme is what the scanner finds** at some place of a text whose first character has this
offset, and takes the bytes of the characters that belong to it. -/
def ScannedIn (cs : List Char) (offset : Nat) (l : Lexeme) : Prop :=
  ∃ before c rest mode more, cs = before ++ c :: rest ∧ l.span.start = offset + widthOf before ∧
    l.span.stop = l.span.start + widthOf (c :: rest.take more) ∧
    scan mode c rest = .token l.token more

theorem ScannedIn.cons {c : Char} {cs : List Char} {offset : Nat} {l : Lexeme}
    (h : ScannedIn cs (offset + c.utf8Size) l) : ScannedIn (c :: cs) offset l := by
  obtain ⟨before, d, rest, mode, more, rfl, hstart, hstop, hscan⟩ := h
  refine ⟨c :: before, d, rest, mode, more, rfl, ?_, hstop, hscan⟩
  rw [hstart, widthOf_cons, Nat.add_assoc]

theorem scannedIn_of_lexemesFrom {mode : Mode} {offset skip : Nat} {cs : List Char}
    {lexemes : List Lexeme} (h : lexemesFrom mode offset skip cs = some lexemes) :
    ∀ l ∈ lexemes, ScannedIn cs offset l := by
  fun_induction lexemesFrom mode offset skip cs generalizing lexemes with
  | case1 mode offset skip =>
      cases h
      intro l hl
      cases hl
  | case2 mode offset skip c cs ih => exact fun l hl => (ih h l hl).cons
  | case3 mode offset c cs more hscan ih => exact fun l hl => (ih h l hl).cons
  | case4 mode offset c cs token more hscan stop =>
      rename_i ih
      obtain ⟨rest, hrest, rfl⟩ := Option.map_eq_some_iff.1 h
      intro l hl
      rcases List.mem_cons.1 hl with rfl | hl
      · exact ⟨[], c, cs, mode, more, rfl, rfl, rfl, hscan⟩
      · exact (ih hrest l hl).cons
  | case5 mode offset c cs hscan => cases h

/-- **The lexemes of a text are what the scanner finds in it.** -/
theorem scannedIn_of_lexemes? {source : List Char} {lexemes : List Lexeme}
    (h : lexemes? source = some lexemes) : ∀ l ∈ lexemes, ScannedIn source 0 l :=
  scannedIn_of_lexemesFrom h

/-- **What the scanner finds in a text takes some bytes of it.** -/
theorem ScannedIn.inText {source : List Char} {l : Lexeme} (h : ScannedIn source 0 l) :
    l.span.InText (widthOf source) := by
  obtain ⟨before, c, rest, mode, more, rfl, hstart, hstop, -⟩ := h
  have hpos := c.utf8Size_pos
  have hsplit : widthOf rest = widthOf (rest.take more) + widthOf (rest.drop more) := by
    rw [← widthOf_append, List.take_append_drop]
  rw [widthOf_cons] at hstop
  constructor
  · omega
  · rw [widthOf_append, widthOf_cons]
    omega

/-- Is this a number, but not one with a fraction? -/
def Token.isNumber : Token → Bool
  | .number .. | .hexNumber _ => true
  | _ => false

/-- The word that a token spells. -/
def Token.word? : Token → Option String
  | .identifier s => some s
  | .keyword s => some s
  | _ => none

/-- **The text that a token is written with**, if the token tells it: words and hexadecimal numbers
do. -/
def Token.spelling? : Token → Option String
  | .identifier s => some s
  | .keyword s => some s
  | .hexNumber s => some s
  | _ => none

theorem Token.spelling?_of_word? {token : Token} {word : String} (h : token.word? = some word) :
    token.spelling? = some word := by
  cases token <;> first | exact h | cases h

section

variable {token : Token} {more : Nat}

theorem eq_string_of_scanString {quote : Char} {before : Nat} {cs : List Char}
    (h : scanString quote before cs = .token token more) : ∃ text, token = .string text := by
  unfold scanString at h
  split at h <;> cases h
  exact ⟨_, rfl⟩

theorem eq_of_scanRaw {quote : Char} {allowed : Char → Bool} {t : Token} {before : Nat}
    {cs : List Char} (h : scanRaw quote allowed t before cs = .token token more) : token = t := by
  unfold scanRaw at h
  dsimp only at h
  split at h <;> cases h
  rfl

theorem eq_rational_of_scanFraction {before : Nat} {cs : List Char}
    (h : scanFraction before cs = .token token more) : token = .rational := by
  unfold scanFraction at h
  dsimp only at h
  split at h <;> cases h
  rfl

theorem eq_symbol_of_scanSymbol {cs : List Char} (h : scanSymbol cs = .token token more) :
    ∃ s, token = .symbol s := by
  unfold scanSymbol at h
  split at h <;> cases h
  exact ⟨_, rfl⟩

/-- **A word is the text of the characters that belong to it**, and what the rule for words finds is
no number. -/
theorem scanWord_cases {c : Char} {cs : List Char} (h : scanWord c cs = .token token more) :
    token.isNumber = false ∧
      ∀ text, token.spelling? = some text → text.toList = c :: cs.take more := by
  have hplain : ∀ {word : String}, word = String.ofList (c :: cs.takeWhile isIdentifierContinue) →
      Scan.token (if isReserved word then .keyword word else .identifier word)
        (cs.takeWhile isIdentifierContinue).length = .token token more →
      token.isNumber = false ∧
        ∀ text, token.spelling? = some text → text.toList = c :: cs.take more := by
    intro word hword h
    have htail : cs.takeWhile isIdentifierContinue =
        cs.take (cs.takeWhile isIdentifierContinue).length :=
      List.prefix_iff_eq_take.1 (List.takeWhile_prefix _)
    split at h <;> cases h <;> refine ⟨rfl, fun w hw => ?_⟩ <;> cases hw <;>
      rw [hword, String.toList_ofList, ← htail]
  have hquoted : ∀ {t : Token}, t.isNumber = false → t.spelling? = none → token = t →
      token.isNumber = false ∧
        ∀ text, token.spelling? = some text → text.toList = c :: cs.take more := by
    rintro t hnumber hspelling rfl
    exact ⟨hnumber, fun text h => by rw [hspelling] at h; cases h⟩
  unfold scanWord at h
  dsimp only at h
  split at h
  · split at h
    · split at h
      · obtain ⟨text, htext⟩ := eq_string_of_scanString h
        exact hquoted rfl rfl htext
      · exact hquoted rfl rfl (eq_of_scanRaw h)
      · exact hquoted rfl rfl (eq_of_scanRaw h)
      · exact hplain rfl h
    · exact hplain rfl h
  · exact hplain rfl h

/-- **Words and numbers are scanned by rules of their own**: what other rules find is neither. -/
theorem scan_cases {mode : Mode} {c : Char} {cs : List Char}
    (h : scan mode c cs = .token token more) :
    scanWord c cs = .token token more ∨ (c.isDigit ∧ scanNumber mode c cs = .token token more) ∨
      (token.spelling? = none ∧ token.isNumber = false) := by
  unfold scan at h
  split at h
  · cases h
  split at h
  · exact .inl h
  right
  split at h
  · next hdigit => exact .inl ⟨hdigit, h⟩
  right
  split at h
  · obtain ⟨text, rfl⟩ := eq_string_of_scanString h
    exact ⟨rfl, rfl⟩
  split at h
  · cases h
  · split at h <;> cases h
  · split at h
    · cases eq_rational_of_scanFraction h
      exact ⟨rfl, rfl⟩
    · obtain ⟨s, rfl⟩ := eq_symbol_of_scanSymbol h
      exact ⟨rfl, rfl⟩
  · dsimp only at h
    split at h <;> cases h
    exact ⟨rfl, rfl⟩
  · obtain ⟨s, rfl⟩ := eq_symbol_of_scanSymbol h
    exact ⟨rfl, rfl⟩

/-- **A hexadecimal number is the text of the characters that belong to it**, and the rule for
numbers finds no words. -/
theorem toList_of_scanNumber {mode : Mode} {c : Char} {cs : List Char} {text : String}
    (h : scanNumber mode c cs = .token token more) (htext : token.spelling? = some text) :
    text.toList = c :: cs.take more := by
  unfold scanNumber at h
  dsimp only at h
  split at h
  · next rest =>
      have htail : rest.takeWhile isHexPart = rest.take (rest.takeWhile isHexPart).length :=
        List.prefix_iff_eq_take.1 (List.takeWhile_prefix _)
      split at h
      · split at h <;> cases h
        cases htext
        rw [String.toList_ofList, Nat.add_comm, List.take_succ_cons, ← htail]
      · cases h
  · split at h
    · cases h
      cases htext
    split at h
    · split at h
      · cases eq_rational_of_scanFraction h
        cases htext
      · cases h
        cases htext
    · split at h <;> cases h
      cases htext

/-- **A number is scanned by the rule for numbers.** -/
theorem scanNumber_of_scan {mode : Mode} {c : Char} {cs : List Char}
    (h : scan mode c cs = .token token more) (hnumber : token.isNumber) :
    c.isDigit ∧ scanNumber mode c cs = .token token more := by
  rcases scan_cases h with h | h | ⟨-, hno⟩
  · simp [(scanWord_cases h).1] at hnumber
  · exact h
  · simp [hno] at hnumber

/-- **A token that tells its text has the characters that belong to it.** -/
theorem toList_of_scan {mode : Mode} {c : Char} {cs : List Char} {text : String}
    (h : scan mode c cs = .token token more) (htext : token.spelling? = some text) :
    text.toList = c :: cs.take more := by
  rcases scan_cases h with h | ⟨-, h⟩ | ⟨hno, -⟩
  · exact (scanWord_cases h).2 text htext
  · exact toList_of_scanNumber h htext
  · rw [hno] at htext
    cases htext

end

/-- An exponent is the text behind its mark. -/
theorem exponent?_eq_some {cs e : List Char} {n : Nat} (h : exponent? cs = some (e, n)) :
    (e = [] ∧ n = 0) ∨ ∃ mark, (mark = 'e' ∨ mark = 'E') ∧ cs.take n = mark :: e := by
  unfold exponent? at h
  split at h
  · next c cs =>
      split at h
      · next hmark =>
          dsimp only at h
          split at h
          · cases h
          · cases h
            have hsigns : cs.take (cs.takeWhile (· == '-')).length = cs.takeWhile (· == '-') :=
              (List.prefix_iff_eq_take.1 (List.takeWhile_prefix _)).symm
            refine .inr ⟨c, hmark, ?_⟩
            rw [Nat.add_assoc, Nat.add_comm 1, List.take_succ_cons, List.take_add, hsigns,
              ← List.prefix_iff_eq_take.1 (List.takeWhile_prefix _)]
      · cases h
        exact .inl ⟨rfl, rfl⟩
  · cases h
    exact .inl ⟨rfl, rfl⟩

/-- **A decimal number is its digits, and behind them its exponent** if it has one.  After the first
digit there are digits and low lines only. -/
theorem written_of_scanNumber {mode : Mode} {c : Char} {cs : List Char} {digits exponent : String}
    {more : Nat} (h : scanNumber mode c cs = .token (.number digits exponent) more) :
    ∃ tail, digits = String.ofList (c :: tail) ∧ (∀ d ∈ tail, isNumberPart d) ∧
      ((exponent = "" ∧ c :: cs.take more = digits.toList) ∨
        ∃ mark, (mark = 'e' ∨ mark = 'E') ∧
          c :: cs.take more = digits.toList ++ mark :: exponent.toList) := by
  have htake : cs.take (cs.takeWhile isNumberPart).length = cs.takeWhile isNumberPart :=
    (List.prefix_iff_eq_take.1 (List.takeWhile_prefix _)).symm
  have hplain : Scan.token (.number (String.ofList (c :: cs.takeWhile isNumberPart)) "")
        (cs.takeWhile isNumberPart).length = .token (.number digits exponent) more →
      ∃ tail, digits = String.ofList (c :: tail) ∧ (∀ d ∈ tail, isNumberPart d) ∧
        ((exponent = "" ∧ c :: cs.take more = digits.toList) ∨
          ∃ mark, (mark = 'e' ∨ mark = 'E') ∧
            c :: cs.take more = digits.toList ++ mark :: exponent.toList) := by
    intro h
    cases h
    refine ⟨_, rfl, fun d hd => List.mem_takeWhile_imp hd, .inl ⟨rfl, ?_⟩⟩
    rw [htake, String.toList_ofList]
  unfold scanNumber at h
  dsimp only at h
  split at h
  · split at h
    · split at h <;> cases h
    · cases h
  · split at h
    · exact hplain h
    split at h
    · split at h
      · cases eq_rational_of_scanFraction h
      · exact hplain h
    · split at h
      · next e n hexponent =>
          rcases exponent?_eq_some hexponent with ⟨rfl, rfl⟩ | ⟨mark, hmark, hwritten⟩
          · exact hplain h
          · cases h
            refine ⟨_, rfl, fun d hd => List.mem_takeWhile_imp hd, .inr ⟨mark, hmark, ?_⟩⟩
            rw [List.take_add, htake, hwritten, String.toList_ofList, String.toList_ofList,
              List.cons_append]
      · cases h

/-- **A text stands in a source** from an offset on. -/
def StandsAt (source : List Char) (text : String) (offset : Nat) : Prop :=
  ∃ before after, source = before ++ text.toList ++ after ∧ widthOf before = offset

/-- **A lexeme is written so** in a source: the text stands where the lexeme begins, and ends where
the lexeme ends. -/
def Lexeme.WrittenAs (l : Lexeme) (source : List Char) (written : String) : Prop :=
  StandsAt source written l.span.start ∧ l.span.stop = l.span.start + widthOf written.toList

/-- What is scanned is written with the characters that belong to it. -/
theorem ScannedIn.exists_written {source : List Char} {l : Lexeme} (h : ScannedIn source 0 l) :
    ∃ c rest mode more, scan mode c rest = .token l.token more ∧
      l.WrittenAs source (String.ofList (c :: rest.take more)) := by
  obtain ⟨before, c, rest, mode, more, hsource, hstart, hstop, hscan⟩ := h
  refine ⟨c, rest, mode, more, hscan, ⟨before, rest.drop more, ?_, ?_⟩, ?_⟩
  · rw [hsource, String.toList_ofList, List.append_assoc, List.cons_append,
      List.take_append_drop]
  · rw [hstart, Nat.zero_add]
  · rw [hstop, String.toList_ofList]

/-- **Words and hexadecimal numbers are the texts that they stand on.** -/
theorem ScannedIn.standsAt {source : List Char} {l : Lexeme} {text : String}
    (h : ScannedIn source 0 l) (htext : l.token.spelling? = some text) :
    l.WrittenAs source text := by
  obtain ⟨c, rest, mode, more, hscan, hwritten⟩ := h.exists_written
  rw [← toList_of_scan hscan htext, String.ofList_toList] at hwritten
  exact hwritten

/-- **A decimal number begins with a digit** and goes on with digits and low lines. -/
theorem ScannedIn.digits {source : List Char} {digits exponent : String} {span : Span}
    (h : ScannedIn source 0 ⟨.number digits exponent, span⟩) :
    ∃ c tail, digits = String.ofList (c :: tail) ∧ c.isDigit ∧ ∀ d ∈ tail, isNumberPart d := by
  obtain ⟨before, c, rest, mode, more, -, -, -, hscan⟩ := h
  obtain ⟨hdigit, hnumber⟩ := scanNumber_of_scan hscan rfl
  obtain ⟨tail, hdigits, htail, -⟩ := written_of_scanNumber hnumber
  exact ⟨c, tail, hdigits, hdigit, htail⟩

end Solidity

end AddressTrace
