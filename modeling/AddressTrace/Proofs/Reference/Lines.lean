import AddressTrace.Proofs.Reference.Origins
import AddressTrace.Proofs.Text.Bytes
import AddressTrace.Tree.OfSource
import Mathlib.Data.List.Sort

/-!
# Lines and columns

The line of a byte offset is one more than the number of newline bytes in front of it, and its
column the distance to the line's beginning, which is just behind the last of them.  So the places
of a text are in the order of the offsets, beyond its end as well, and the two ends of a reference
are shown in the order that they have in the text.

## Main definitions

* `newlinesBefore`, `lineStart` — the newline bytes in front of an offset, and where its line
  begins;
* `Position.Precedes` — one place comes before another.

## Main statements

* `LineIndex.takeWhile_starts` — which beginnings of lines count for an offset;
* `LineIndex.getElem?_starts` — the entry of the table that a line begins at;
* `LineIndex.position_eq` — line and column in terms of newline bytes;
* `LineIndex.precedes_of_lt` — a greater offset comes later;
* `position_exact` — all this, and what it says of references.
-/

namespace AddressTrace.Text

/-- **The offsets of the newline bytes in front of an offset**, ascending. -/
def newlinesBefore (text : String) (offset : Nat) : List Nat :=
  (List.range offset).filter fun i => text.toUTF8.toList[i]? = some newline

/-- **Where the line of an offset begins**: just behind the last newline byte in front of it, or at
the beginning of the text. -/
def lineStart (text : String) (offset : Nat) : Nat :=
  (newlinesBefore text offset).getLast?.elim 0 (· + 1)

/-- **One place comes before another**: on an earlier line, or on the same line in an earlier
column. -/
def Position.Precedes (p q : Position) : Prop :=
  p.line < q.line ∨ p.line = q.line ∧ p.column < q.column

variable {text : String} {offset : Nat}

theorem mem_newlinesBefore {i : Nat} :
    i ∈ newlinesBefore text offset ↔ i < offset ∧ text.toUTF8.toList[i]? = some newline := by
  rw [newlinesBefore, List.mem_filter, List.mem_range, decide_eq_true_iff]

theorem pairwise_newlinesBefore (text : String) (offset : Nat) :
    (newlinesBefore text offset).Pairwise (· < ·) :=
  List.pairwise_lt_range.filter _

/-- The newlines in front of a later offset are those in front of this one, and some more. -/
theorem newlinesBefore_add (text : String) (offset k : Nat) :
    newlinesBefore text (offset + k) = newlinesBefore text offset ++
      ((List.range k).map (offset + ·)).filter fun i => text.toUTF8.toList[i]? = some newline := by
  rw [newlinesBefore, List.range_add, List.filter_append, newlinesBefore]

/-- A line begins at or in front of its offsets, so that columns can be counted from there. -/
theorem lineStart_le (text : String) (offset : Nat) : lineStart text offset ≤ offset := by
  rw [lineStart]
  cases hlast : (newlinesBefore text offset).getLast? with
  | none => exact Nat.zero_le offset
  | some i => exact (mem_newlinesBefore.1 (List.mem_of_getLast? hlast)).1

namespace LineIndex

/-! ### The table of lines -/

/-- **A line begins behind each newline byte**, and nowhere else. -/
theorem mem_startsFrom {cs : List Char} {start : Nat} :
    start ∈ startsFrom offset cs ↔
      ∃ i, (cs.flatMap String.utf8EncodeChar)[i]? = some newline ∧ start = offset + i + 1 := by
  induction cs generalizing offset with
  | nil => simp [startsFrom]
  | cons c cs ih =>
      -- The newline byte is this character, or it belongs to one of the others.
      have hbytes : (∃ i, ((c :: cs).flatMap String.utf8EncodeChar)[i]? = some newline ∧
            start = offset + i + 1) ↔
          (c = '\n' ∧ start = offset + 1) ∨
            ∃ i, (cs.flatMap String.utf8EncodeChar)[i]? = some newline ∧
              start = offset + c.utf8Size + i + 1 := by
        rw [List.flatMap_cons]
        constructor
        · rintro ⟨i, hi, rfl⟩
          by_cases hlt : i < c.utf8Size
          · rw [List.getElem?_append_left (by rwa [String.length_utf8EncodeChar]),
              getElem?_utf8EncodeChar_eq_newline] at hi
            obtain ⟨hc, rfl⟩ := hi
            exact .inl ⟨hc, rfl⟩
          · rw [List.getElem?_append_right (by rw [String.length_utf8EncodeChar]; omega),
              String.length_utf8EncodeChar] at hi
            exact .inr ⟨_, hi, by omega⟩
        · rintro (⟨rfl, rfl⟩ | ⟨i, hi, rfl⟩)
          · exact ⟨0, rfl, rfl⟩
          · refine ⟨c.utf8Size + i, ?_, by omega⟩
            rw [List.getElem?_append_right (by rw [String.length_utf8EncodeChar]; omega),
              String.length_utf8EncodeChar, Nat.add_sub_cancel_left]
            exact hi
      rw [hbytes, startsFrom]
      split
      · next hc =>
          subst hc
          rw [List.mem_cons, ih]
          exact or_congr_left (and_iff_right rfl).symm
      · next hc =>
          rw [ih]
          exact (or_iff_right fun h => hc h.1).symm

/-- The beginnings of lines ascend, so that they can be searched by halving. -/
theorem pairwise_startsFrom (cs : List Char) (offset : Nat) :
    (startsFrom offset cs).Pairwise (· < ·) := by
  induction cs generalizing offset with
  | nil => exact .nil
  | cons c cs ih =>
      rw [startsFrom]
      split
      · refine List.pairwise_cons.2 ⟨fun start hstart => ?_, ih _⟩
        obtain ⟨i, -, rfl⟩ := mem_startsFrom.1 hstart
        omega
      · exact ih _

/-- In ascending order what is not greater stands in front. -/
theorem takeWhile_le_eq_filter {l : List Nat} (h : l.Pairwise (· < ·)) (n : Nat) :
    l.takeWhile (· ≤ n) = l.filter (· ≤ n) := by
  induction l with
  | nil => rfl
  | cons a l ih =>
      obtain ⟨hhead, htail⟩ := List.pairwise_cons.1 h
      by_cases ha : a ≤ n
      · simp [ha, ih htail]
      · have hnone : l.filter (· ≤ n) = [] := by
          rw [List.filter_eq_nil_iff]
          intro b hb hle
          exact ha ((hhead b hb).le.trans (of_decide_eq_true hle))
        simp [ha, hnone]

/-- **The beginnings of lines that count for an offset** are those behind the newline bytes in front
of it. -/
theorem takeWhile_starts (text : String) (offset : Nat) :
    (ofText text).starts.takeWhile (· ≤ offset) = (newlinesBefore text offset).map (· + 1) := by
  have hstarts := pairwise_startsFrom text.toList 0
  rw [show (ofText text).starts = startsFrom 0 text.toList from rfl,
    takeWhile_le_eq_filter hstarts]
  refine (hstarts.filter _).eq_of_mem_iff ?_ fun start => ?_
  · exact (pairwise_newlinesBefore text offset).map _ fun _ _ => Nat.succ_lt_succ
  · rw [List.mem_filter, decide_eq_true_iff, mem_startsFrom, List.mem_map, ← toList_toUTF8]
    simp only [mem_newlinesBefore]
    constructor
    · rintro ⟨⟨i, hi, rfl⟩, hle⟩
      exact ⟨i, ⟨by omega, hi⟩, by omega⟩
    · rintro ⟨i, ⟨hlt, hi⟩, rfl⟩
      exact ⟨⟨i, hi, by omega⟩, hlt⟩

/-- **Where a line begins is in the table**, at the place that its number tells, if it is not the
first line. -/
theorem getElem?_starts {n : Nat} (h : (newlinesBefore text offset).length = n + 1) :
    (ofText text).starts[n]? = some (lineStart text offset) := by
  obtain ⟨later, hlater⟩ := List.takeWhile_prefix (· ≤ offset) (l := (ofText text).starts)
  rw [takeWhile_starts] at hlater
  obtain ⟨i, hi⟩ : ∃ i, (newlinesBefore text offset)[n]? = some i :=
    ⟨_, List.getElem?_eq_getElem (by omega)⟩
  have hlast : (newlinesBefore text offset).getLast? = some i := by
    rw [List.getLast?_eq_getElem?, h, Nat.add_sub_cancel, hi]
  rw [← hlater, List.getElem?_append_left (by rw [List.length_map]; omega), List.getElem?_map, hi,
    lineStart, hlast]
  rfl

/-! ### Places -/

/-- **The place of an offset** in terms of newline bytes. -/
theorem position_eq (text : String) (offset : Nat) :
    (ofText text).position offset =
      ⟨1 + (newlinesBefore text offset).length, offset - lineStart text offset⟩ := by
  have hlast : ((newlinesBefore text offset).map (· + 1)).getLastD 0 = lineStart text offset := by
    rw [List.getLastD_eq_getLast?, List.getLast?_map, lineStart]
    cases (newlinesBefore text offset).getLast? <;> rfl
  rw [position, lineColumn, takeWhile_starts]
  simp only [List.length_map, hlast, Nat.add_comm]

/-- **A greater offset comes later.**  Either there is a newline byte between the two, or both are
on one line. -/
theorem precedes_of_lt (text : String) {a b : Nat} (h : a < b) :
    ((ofText text).position a).Precedes ((ofText text).position b) := by
  obtain ⟨k, rfl⟩ := Nat.exists_eq_add_of_lt h
  rw [position_eq, position_eq, Nat.add_assoc]
  have hmore := newlinesBefore_add text a (k + 1)
  generalize ((List.range (k + 1)).map (a + ·)).filter _ = between at hmore
  cases between with
  | nil =>
      rw [List.append_nil] at hmore
      have hstart : lineStart text (a + (k + 1)) = lineStart text a := by
        rw [lineStart, lineStart, hmore]
      have hle := lineStart_le text a
      refine .inr ⟨by rw [hmore], ?_⟩
      show a - lineStart text a < a + (k + 1) - lineStart text (a + (k + 1))
      omega
  | cons i more =>
      left
      show 1 + _ < 1 + _
      rw [hmore, List.length_append, List.length_cons]
      omega

/-- **Places are in the order of the offsets.** -/
theorem precedes_iff (text : String) {a b : Nat} :
    ((ofText text).position a).Precedes ((ofText text).position b) ↔ a < b := by
  refine ⟨fun h => ?_, precedes_of_lt text⟩
  rcases Nat.lt_trichotomy a b with hab | rfl | hba
  · exact hab
  · rcases h with h | ⟨-, h⟩ <;> exact absurd h (Nat.lt_irrefl _)
  · have hback := precedes_of_lt text hba
    rw [Position.Precedes] at h hback
    omega

/-- No two offsets have one place. -/
theorem position_injective (text : String) : Function.Injective (ofText text).position := by
  intro a b hab
  have hnot : ¬ a < b ∧ ¬ b < a := by
    rw [← precedes_iff text, ← precedes_iff text, hab, precedes_iff text]
    exact ⟨Nat.lt_irrefl b, Nat.lt_irrefl b⟩
  omega

end LineIndex

end AddressTrace.Text

namespace AddressTrace

open Text

/-- A reference is shown at the places of its two ends. -/
theorem places_of_mem_collect {file : SourceFile} {t : SyntaxTree} {ds : Declarations}
    {libraries : LinkedLibraries} {passes : List Pass} {r : Reference}
    (h : r ∈ (collect file t ds libraries passes).references) :
    r.first = file.lines.position r.span.start ∧ r.last = file.lines.position r.span.stop := by
  obtain ⟨p, -, f, -, hr⟩ := mem_references_collect.1 h
  obtain ⟨span, -, rfl⟩ := Option.map_eq_some_iff.1 hr
  exact ⟨rfl, rfl⟩

/-- **Lines and columns are exact and keep the order of offsets.**  The beginnings of lines that are
kept for a text ascend.  For any offset, also beyond the end of the text, the line is one more than
the number of newline bytes in front of the offset, and the column the distance to the beginning of
this line.  The beginning is not behind the offset, and if the line is not the first one, it is kept
at the place that the number of the line tells.  So one offset is smaller than another exactly if
its place comes first, and no two offsets have one place.  A reference is shown from the place where
it begins to the one where it ends, in this order. -/
theorem position_exact (text : String) :
    let place := (LineIndex.ofText text).position
    (LineIndex.ofText text).starts.Pairwise (· < ·) ∧
    (∀ offset, (place offset).line = 1 + (newlinesBefore text offset).length ∧
      lineStart text offset ≤ offset ∧ (place offset).column = offset - lineStart text offset ∧
      ∀ n, (place offset).line = n + 2 →
        (LineIndex.ofText text).starts[n]? = some (lineStart text offset)) ∧
    (∀ a b, a < b ↔ (place a).Precedes (place b)) ∧
    Function.Injective place ∧
    ∀ (path contractName : String) (t : SyntaxTree) (ds : Declarations)
      (libraries : LinkedLibraries) (passes : List Pass),
      ∀ r ∈ (collect (.ofText path contractName text) t ds libraries passes).references,
        r.first = place r.span.start ∧ r.last = place r.span.stop ∧
          (r.span.start < r.span.stop ↔ r.first.Precedes r.last) := by
  intro place
  refine ⟨LineIndex.pairwise_startsFrom _ _, fun offset => ?_,
    fun a b => (LineIndex.precedes_iff text).symm, LineIndex.position_injective text, ?_⟩
  · have hplace := LineIndex.position_eq text offset
    have hline : (place offset).line = 1 + (newlinesBefore text offset).length :=
      congrArg Position.line hplace
    exact ⟨hline, lineStart_le text offset, congrArg Position.column hplace,
      fun n hn => LineIndex.getElem?_starts (by omega)⟩
  · intro path contractName t ds libraries passes r hr
    obtain ⟨hfirst, hlast⟩ := places_of_mem_collect hr
    refine ⟨hfirst, hlast, ?_⟩
    rw [hfirst, hlast]
    exact (LineIndex.precedes_iff text).symm

/-- A text with letters of several bytes, a line that ends in two characters and an empty one. -/
def unevenLines : String :=
  "/* \u00e4\u20ac */\r\n\ncontract c \x7b address a =\n " ++
    "0x1111111111111111111111111111111111111111; \x7d"

/-- The literal at byte 40 is shown on the fourth line, and it is shown to end after its
beginning. -/
theorem position_exact_unevenLines :
    ∃ t, SyntaxTree.ofSource? unevenLines = some t ∧
      ∃ r ∈ (collect (.ofText "/c.sol" "c" unevenLines) t (.ofTree t) .empty
        [.hardcoded]).references,
        r.span.start = 40 ∧ r.first = (LineIndex.ofText unevenLines).position 40 ∧
          r.first = ⟨4, 1⟩ ∧ r.first.Precedes r.last := by
  have hfound : ∃ t ∈ SyntaxTree.ofSource? unevenLines,
      ∃ r ∈ (collect (.ofText "/c.sol" "c" unevenLines) t (.ofTree t) .empty
        [.hardcoded]).references, r.span = ⟨40, 82⟩ := by
    decide +kernel
  obtain ⟨t, ht, r, hr, hspan⟩ := hfound
  obtain ⟨-, -, -, -, hreferences⟩ := position_exact unevenLines
  obtain ⟨hfirst, -, hends⟩ := hreferences "/c.sol" "c" t (.ofTree t) .empty [.hardcoded] r hr
  rw [hspan] at hfirst hends
  have hplace : (LineIndex.ofText unevenLines).position 40 = ⟨4, 1⟩ := by decide +kernel
  exact ⟨t, ht, r, hr, congrArg Span.start hspan, hfirst, hfirst.trans hplace,
    hends.1 (by decide)⟩

end AddressTrace
