import AddressTrace.Proofs.Solidity.Spans.Expression
import AddressTrace.Proofs.Text.Hex
import Mathlib.Algebra.Field.Rat

/-!
# What number literals denote

A number literal is written with digits, low lines between them, an exponent, and maybe a unit
behind it.  What it denotes does not depend on the low lines, and the unit multiplies it.  The text
that is kept of a decimal literal has no low lines and denotes what the literal denotes without its
unit; of a hexadecimal literal all characters are kept.

## Main definitions

* `numeral?` — the number that a text denotes;
* `unitFactor?` — what a unit stands for;
* `Literal`, `Literal.value?` — a literal as written, and its value in the language.

## Main statements

* `numeral?_eq_none` — a text with low lines denotes no number;
* `numeral?_decimalText` — the text that is kept of a decimal literal.
-/

namespace AddressTrace.Solidity

open Text

/-! ### Numerals -/

/-- The number that decimal digits denote, of which there must be one at least. -/
def decimal? (ds : List Char) : Option Nat :=
  if ds ≠ [] ∧ ds.all Char.isDigit then some (Nat.ofDigitChars 10 ds 0) else none

/-- The power of ten behind the mark of an exponent. -/
def power? : List Char → Option Int
  | '-' :: ds => (decimal? ds).map fun n : Nat => -(n : Int)
  | ds => (decimal? ds).map fun n : Nat => (n : Int)

/-- Is this the mark of an exponent? -/
def isExponentMark (c : Char) : Bool := c == 'e' || c == 'E'

/-- **The number that a text denotes**, if it is a hexadecimal number, a decimal integer or an
integer with an exponent. -/
def numeral? : List Char → Option Rat
  | '0' :: 'x' :: ds => if ds = [] then none else (hexNatFrom? 0 ds).map fun n : Nat => (n : Rat)
  | cs =>
    match cs.dropWhile Char.isDigit with
    | [] => (decimal? cs).map fun n : Nat => (n : Rat)
    | c :: es =>
      if isExponentMark c then
        (decimal? (cs.takeWhile Char.isDigit)).bind fun n : Nat =>
          (power? es).map fun k : Int => (n : Rat) * (10 : Rat) ^ k
      else none

/-- **What a unit stands for**, those of earlier versions of the language among them. -/
def unitFactor? : String → Option Nat
  | "wei" | "seconds" => some 1
  | "gwei" => some (10 ^ 9)
  | "szabo" => some (10 ^ 12)
  | "finney" => some (10 ^ 15)
  | "ether" => some (10 ^ 18)
  | "minutes" => some 60
  | "hours" => some 3600
  | "days" => some 86400
  | "weeks" => some 604800
  | "years" => some 31536000
  | _ => none

/-- **A number literal**: its characters as written, without the unit, and the unit. -/
structure Literal where
  written : String
  unit : Option String
deriving Repr, DecidableEq

namespace Literal

/-- What the unit of a literal stands for, which is one if there is no unit. -/
def factor? (l : Literal) : Option Nat := l.unit.elim (some 1) unitFactor?

/-- **The value of a literal in the language**: what is written denotes a number, whatever low lines
stand between the digits, and the unit multiplies it. -/
def value? (l : Literal) : Option Rat :=
  (numeral? (l.written.toList.filter (· != '_'))).bind fun n =>
    l.factor?.map fun k : Nat => n * (k : Rat)

end Literal

/-! ### What a text denotes -/

theorem decimal?_eq_some {ds : List Char} (hne : ds ≠ []) (hdigits : ∀ c ∈ ds, c.isDigit) :
    decimal? ds = some (Nat.ofDigitChars 10 ds 0) :=
  if_pos ⟨hne, List.all_eq_true.2 hdigits⟩

theorem isDigit_of_decimal? {ds : List Char} {n : Nat} (h : decimal? ds = some n) :
    ∀ c ∈ ds, c.isDigit := by
  unfold decimal? at h
  split at h
  · next hdigits => exact List.all_eq_true.1 hdigits.2
  · cases h

theorem not_isDigit_of_isExponentMark {c : Char} (h : isExponentMark c) : c.isDigit = false := by
  rw [isExponentMark, Bool.or_eq_true, beq_iff_eq, beq_iff_eq] at h
  rcases h with rfl | rfl <;> rfl

/-- What is not marked as hexadecimal is read as a decimal number. -/
theorem numeral?_of_not_hex {cs : List Char} (h : ∀ ds, cs ≠ '0' :: 'x' :: ds) :
    numeral? cs =
      match cs.dropWhile Char.isDigit with
      | [] => (decimal? cs).map fun n : Nat => (n : Rat)
      | c :: es =>
        if isExponentMark c then
          (decimal? (cs.takeWhile Char.isDigit)).bind fun n : Nat =>
            (power? es).map fun k : Int => (n : Rat) * (10 : Rat) ^ k
        else none := by
  unfold numeral?
  split
  · next ds => exact absurd rfl (h ds)
  · rfl

/-- **Decimal digits and an exponent** denote the number of the digits times a power of ten. -/
theorem numeral?_exponent {ds es : List Char} {mark : Char} (hne : ds ≠ [])
    (hdigits : ∀ c ∈ ds, c.isDigit) (hmark : isExponentMark mark) :
    numeral? (ds ++ mark :: es) =
      (power? es).map fun k : Int => (Nat.ofDigitChars 10 ds 0 : Rat) * (10 : Rat) ^ k := by
  have hstop : ¬ mark.isDigit := by
    rw [not_isDigit_of_isExponentMark hmark]
    decide
  have hnothex : ∀ rest, ds ++ mark :: es ≠ '0' :: 'x' :: rest := by
    intro rest heq
    -- The second character is a digit or the mark.
    rcases ds with _ | ⟨c, _ | ⟨d, ds⟩⟩
    · exact hne rfl
    · cases heq
      cases hmark
    · cases heq
      exact absurd (hdigits 'x' (by simp)) (by decide)
  rw [numeral?_of_not_hex hnothex, List.dropWhile_append_of_pos hdigits,
    List.takeWhile_append_of_pos hdigits, List.dropWhile_cons_of_neg hstop,
    List.takeWhile_cons_of_neg hstop, List.append_nil]
  dsimp only
  rw [if_pos hmark, decimal?_eq_some hne hdigits, Option.bind_some]

theorem power?_eq_none {es : List Char} (h : '_' ∈ es) : power? es = none := by
  have hnone : ∀ {ds : List Char}, '_' ∈ ds → decimal? ds = none := by
    intro ds hmem
    cases hds : decimal? ds with
    | none => rfl
    | some n => exact absurd (isDigit_of_decimal? hds '_' hmem) (by decide)
  unfold power?
  split
  · next ds =>
      have hmem : '_' ∈ ds := by simpa using h
      rw [hnone hmem, Option.map_none]
  · rw [hnone h, Option.map_none]

/-- **A text with low lines denotes no number.** -/
theorem numeral?_eq_none {cs : List Char} (h : '_' ∈ cs) : numeral? cs = none := by
  by_cases hhex : ∃ ds, cs = '0' :: 'x' :: ds
  · obtain ⟨ds, rfl⟩ := hhex
    have hmem : '_' ∈ ds := by simpa using h
    have hnone : hexNatFrom? 0 ds = none := by
      cases hds : hexNatFrom? 0 ds with
      | none => rfl
      | some n => exact absurd (isHexDigit_of_hexNatFrom? hds '_' hmem) (by decide)
    simp [numeral?, hnone]
  · rw [numeral?_of_not_hex fun ds heq => hhex ⟨ds, heq⟩]
    have hsplit := List.takeWhile_append_dropWhile (p := Char.isDigit) (l := cs)
    split
    · next hdrop =>
        rw [hdrop, List.append_nil] at hsplit
        rw [← hsplit] at h
        exact absurd (List.mem_takeWhile_imp h) (by decide)
    · next c es hdrop =>
        rw [← hsplit, hdrop, List.mem_append, List.mem_cons] at h
        rcases h with h | rfl | h
        · exact absurd (List.mem_takeWhile_imp h) (by decide)
        · rfl
        · simp [power?_eq_none h]

/-! ### The text that is kept of a literal -/

/-- **The text that is kept of a decimal literal denotes what is written**, as far as that denotes
anything. -/
theorem numeral?_decimalText {mode : Mode} {c : Char} {cs : List Char} {digits exponent : String}
    {more : Nat} (hdigit : c.isDigit)
    (h : scanNumber mode c cs = .token (.number digits exponent) more) {n : Rat}
    (hn : numeral? ((c :: cs.take more).filter (· != '_')) = some n) :
    numeral? (decimalText (Parser.withoutLowLines digits)
      (Parser.withoutLowLines exponent)).toList = some n := by
  obtain ⟨tail, rfl, htail, hwritten⟩ := written_of_scanNumber h
  -- Without low lines the digits are digits only, and the first one stays.
  have hline : (c != '_') = true := by
    rw [bne_iff_ne]
    rintro rfl
    cases hdigit
  have hne : (c :: tail).filter (· != '_') ≠ [] := by
    rw [List.filter_cons, if_pos hline]
    exact List.cons_ne_nil _ _
  have hdigits : ∀ d ∈ (c :: tail).filter (· != '_'), d.isDigit := by
    intro d hd
    obtain ⟨hd, hnot⟩ := List.mem_filter.1 hd
    rcases List.mem_cons.1 hd with rfl | hd
    · exact hdigit
    · have hpart := htail d hd
      rw [isNumberPart, Bool.or_eq_true] at hpart
      exact hpart.resolve_right fun heq => by simp_all
  have hkept : (Parser.withoutLowLines (String.ofList (c :: tail))).toList =
      (c :: tail).filter (· != '_') := by
    rw [Parser.withoutLowLines, String.toList_ofList, String.toList_ofList]
  rw [String.toList_ofList] at hwritten
  rw [toList_decimalText, hkept]
  rcases hwritten with ⟨rfl, hwritten⟩ | ⟨mark, hmark, hwritten⟩
  · rw [hwritten] at hn
    exact hn
  · have hmarked : isExponentMark mark := by
      rcases hmark with rfl | rfl <;> rfl
    have hmarkline : (mark :: exponent.toList).filter (· != '_') =
        mark :: exponent.toList.filter (· != '_') := by
      rcases hmark with rfl | rfl <;> rfl
    rw [hwritten, List.filter_append, hmarkline, numeral?_exponent hne hdigits hmarked] at hn
    obtain ⟨k, hk, rfl⟩ := Option.map_eq_some_iff.1 hn
    -- An exponent of low lines alone denotes no power, and else the text has the exponent.
    have hexponent : ¬ (Parser.withoutLowLines exponent).isEmpty := by
      intro hempty
      rw [Parser.withoutLowLines, String.isEmpty_iff, ← String.toList_eq_nil_iff,
        String.toList_ofList] at hempty
      rw [hempty] at hk
      cases hk
    rw [if_neg hexponent, numeral?_exponent hne hdigits rfl, Parser.withoutLowLines,
      String.toList_ofList, hk, Option.map_some]

namespace Literal

/-- **A text is what is kept of a literal**: all characters of a hexadecimal one, and of a decimal
one something that denotes what is written. -/
inductive KeptAs (l : Literal) (text : String) : Prop
  | hex (h : IsHexText l.written) (heq : text = l.written)
  | decimal (h : ¬ IsHexText l.written)
      (hsame : ∀ n, numeral? (l.written.toList.filter (· != '_')) = some n →
        numeral? text.toList = some n)

theorem factor?_pos {l : Literal} {k : Nat} (h : l.factor? = some k) : 0 < k := by
  unfold factor? at h
  cases hunit : l.unit with
  | none =>
      rw [hunit] at h
      cases h
      exact Nat.one_pos
  | some unit =>
      rw [hunit, Option.elim_some] at h
      unfold unitFactor? at h
      split at h <;> cases h <;> decide

/-- **When the text that is kept of a literal denotes its value**: a hexadecimal literal must have
no low lines, and the unit must stand for one unless the value is zero. -/
theorem KeptAs.numeral?_eq_value_iff {l : Literal} {text : String} (h : l.KeptAs text) {value : Rat}
    (hvalue : l.value? = some value) :
    numeral? text.toList = some value ↔
      (IsHexText l.written → '_' ∉ l.written.toList) ∧ (value = 0 ∨ l.factor? = some 1) := by
  obtain ⟨n, hn, hvalue⟩ := Option.bind_eq_some_iff.1 hvalue
  obtain ⟨k, hk, rfl⟩ := Option.map_eq_some_iff.1 hvalue
  have hpos := factor?_pos hk
  -- Once the text denotes the number without its unit, only the unit is left to compare.
  have hunit : n = n * (k : Rat) ↔ n * (k : Rat) = 0 ∨ l.factor? = some 1 := by
    have hk0 : (k : Rat) ≠ 0 := Nat.cast_ne_zero.2 (Nat.ne_of_gt hpos)
    rw [hk, Option.some_inj, mul_eq_zero, or_iff_left hk0]
    by_cases hzero : n = 0
    · simp [hzero]
    · rw [left_eq_mul₀ hzero, Nat.cast_eq_one, or_iff_right hzero]
  cases h with
  | hex hhex heq =>
      subst heq
      by_cases hline : '_' ∈ l.written.toList
      · rw [numeral?_eq_none hline]
        exact iff_of_false (fun h => nomatch h) fun h => h.1 hhex hline
      · have hall : l.written.toList.filter (· != '_') = l.written.toList := by
          rw [List.filter_eq_self]
          intro c hc
          rw [bne_iff_ne]
          rintro rfl
          exact hline hc
        rw [hall] at hn
        rw [hn, Option.some_inj, hunit]
        exact ⟨fun h => ⟨fun _ => hline, h⟩, fun h => h.2⟩
  | decimal hhex hsame =>
      rw [hsame n hn, Option.some_inj, hunit]
      exact ⟨fun h => ⟨fun hnot => absurd hnot hhex, h⟩, fun h => h.2⟩

end Literal

/-- A hexadecimal number is marked as one. -/
theorem isHexText_of_scanNumber {mode : Mode} {c : Char} {cs : List Char} {text : String}
    {more : Nat} (h : scanNumber mode c cs = .token (.hexNumber text) more) : IsHexText text := by
  unfold scanNumber at h
  dsimp only at h
  split at h
  · split at h
    · split at h <;> cases h
      rw [IsHexText, String.toList_ofList]
      rfl
    · cases h
  · split at h
    · cases h
    split at h
    · split at h
      · cases eq_rational_of_scanFraction h
      · cases h
    · split at h <;> cases h

/-- A decimal number is not marked as a hexadecimal one. -/
theorem not_isHexText_of_scanNumber {mode : Mode} {c : Char} {cs : List Char}
    {digits exponent : String} {more : Nat}
    (h : scanNumber mode c cs = .token (.number digits exponent) more) :
    ¬ IsHexText (String.ofList (c :: cs.take more)) := by
  obtain ⟨tail, rfl, htail, hwritten⟩ := written_of_scanNumber h
  rw [String.toList_ofList] at hwritten
  rw [IsHexText, String.toList_ofList]
  have hsecond : ∀ {after : List Char}, after.head? ≠ some 'x' →
      (c :: tail ++ after).take 2 ≠ ['0', 'x'] := by
    intro after hafter heq
    cases tail with
    | nil =>
        cases after with
        | nil => cases heq
        | cons d after =>
            cases heq
            exact hafter rfl
    | cons d tail =>
        cases heq
        exact absurd (htail 'x' List.mem_cons_self) (by decide)
  rcases hwritten with ⟨-, hwritten⟩ | ⟨mark, hmark, hwritten⟩
  · rw [hwritten, ← List.append_nil (c :: tail)]
    exact hsecond (by simp)
  · rw [hwritten]
    refine hsecond ?_
    rcases hmark with rfl | rfl <;> simp

/-- **The lexeme of a number is written as a literal of which the text of its mark is kept**,
whatever its unit is. -/
theorem exists_keptAs_of_begins {source : List Char} {text : String} {start : Nat} {x : Lexeme}
    (hx : ScannedIn source 0 x) (h : Begins (.number text start) x) (unit : Option String) :
    x.token.isNumber ∧ ∃ written, x.WrittenAs source written ∧
      (⟨written, unit⟩ : Literal).KeptAs text := by
  cases h with
  | number digits exponent span =>
      obtain ⟨c, rest, mode, more, hscan, hwritten⟩ := hx.exists_written
      obtain ⟨hdigit, hnumber⟩ := scanNumber_of_scan hscan rfl
      refine ⟨rfl, _, hwritten, .decimal (not_isHexText_of_scanNumber hnumber) fun n hn => ?_⟩
      rw [String.toList_ofList] at hn
      exact numeral?_decimalText hdigit hnumber hn
  | hexNumber text span =>
      obtain ⟨c, rest, mode, more, hscan, -⟩ := hx.exists_written
      obtain ⟨-, hnumber⟩ := scanNumber_of_scan hscan rfl
      exact ⟨rfl, text, hx.standsAt rfl, .hex (isHexText_of_scanNumber hnumber) rfl⟩

example : (⟨"1_000e-2", some "gwei"⟩ : Literal).value? = some (10 ^ 10) := by decide +kernel

end AddressTrace.Solidity
