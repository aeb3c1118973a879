import AddressTrace.Json.Writer
import AddressTrace.Proofs.Json.Reader
import AddressTrace.Proofs.Text.Hex
import Mathlib.Tactic.IntervalCases

/-!
# What the writer writes

What is written for a string is read as this string, whatever characters it has.  The argument goes
character by character: what stands for one is read as one piece, an escape of the quote, of the
backslash and of the control characters, and the character itself otherwise.  An escape by digits is
only written for a control character, so no unit of it is half of a pair, and the pieces are put
together without looking at their neighbours.

What is written for an integer has no digit behind a zero in front.  A text for a whole is then made
up of the texts for its parts, and a layout puts nothing but white space between them, so that one
argument serves all layouts.

## Main definitions

* `Piece.StandsFor` — a piece of a string stands for a character;
* `Numeral.ofInt` — an integer as it is written;
* `Value.form?` — a value as it is written, if it has no doubles.

## Main statements

* `exists_readPieces?_escapeChar` — what is written for a character is read as one piece for it;
* `takes_readString?_quote` — what is written for a string is read as the string;
* `isText_integer` — what is written for an integer is read as the integer;
* `isText_render`, `Form.parseChars?_render` — what is written for a value is read as its form, in
  any layout.
-/

namespace AddressTrace.Json

open Text

/-! ### Characters -/

/-- **A piece stands for a character**: it is the character, or the unit of one that needs no
pair. -/
inductive Piece.StandsFor : Piece → Char → Prop
  | char (c : Char) : StandsFor (.char c) c
  | unit {c : Char} (h : c.toNat < 0xD800) : StandsFor (.unit c.toNat) c

/-- A piece for a character is joined to others without looking at them. -/
theorem joinPieces?_cons {p : Piece} {c : Char} (h : p.StandsFor c) (ps : List Piece) :
    joinPieces? (p :: ps) = (joinPieces? ps).map (c :: ·) := by
  cases h with
  | char c => rfl
  | unit h =>
    have hhigh : isHighUnit c.toNat = false := by simp [isHighUnit]; omega
    have hlow : isLowUnit c.toNat = false := by simp [isLowUnit]; omega
    cases ps with
    | nil => simp [joinPieces?, hhigh, hlow]
    | cons q qs => cases q <;> simp [joinPieces?, hhigh, hlow]

theorem readPieces?_shortEscape {e c : Char} (h : shortEscape? e = some c) (cs : List Char) :
    readPieces? (['\\', e] ++ cs) =
      (readPieces? cs).map fun (ps, rest) => (.char c :: ps, rest) := by
  have he : e ≠ 'u' := by
    rintro rfl
    cases h
  rw [List.cons_append, List.singleton_append, readPieces?_escape _ he, h]
  cases readPieces? cs <;> rfl

/-- **How a character is written**: by a letter behind a backslash, by the digits of a control
character, or as itself. -/
theorem escapeChar_cases (c : Char) :
    (∃ e, shortEscape? e = some c ∧ escapeChar c = ['\\', e]) ∨
    (c.toNat < 0x20 ∧
      escapeChar c = ['\\', 'u', '0', '0', hexDigit (c.toNat / 16), hexDigit (c.toNat % 16)]) ∨
    (c.toNat ≠ 0x22 ∧ ¬ (c.toNat < 0x20 ∨ c = '\\') ∧ escapeChar c = [c]) := by
  have hcode : ∀ {n : Nat}, c.toNat = n → Char.ofNat n = c := fun h => h ▸ Char.ofNat_toNat c
  rw [escapeChar]
  split
  · next hquote => exact .inl ⟨quoteMark, by rw [hquote]; rfl, rfl⟩
  · next hquote =>
    split
    · next hslash => exact .inl ⟨'\\', by rw [hslash]; rfl, rfl⟩
    · next hslash =>
      split
      · next hcontrol =>
        split
        · next hn => exact .inl ⟨'b', by rw [← hcode hn]; rfl, rfl⟩
        · next hn => exact .inl ⟨'t', by rw [← hcode hn]; rfl, rfl⟩
        · next hn => exact .inl ⟨'n', by rw [← hcode hn]; rfl, rfl⟩
        · next hn => exact .inl ⟨'f', by rw [← hcode hn]; rfl, rfl⟩
        · next hn => exact .inl ⟨'r', by rw [← hcode hn]; rfl, rfl⟩
        · exact .inr (.inl ⟨hcontrol, rfl⟩)
      · next hcontrol =>
        refine .inr (.inr ⟨fun hn => hquote (hcode hn).symm, ?_, rfl⟩)
        exact not_or.2 ⟨hcontrol, hslash⟩

/-- **What is written for a character** is read as one piece for it. -/
theorem exists_readPieces?_escapeChar (c : Char) :
    ∃ p : Piece, p.StandsFor c ∧ ∀ cs, readPieces? (escapeChar c ++ cs) =
      (readPieces? cs).map fun (ps, rest) => (p :: ps, rest) := by
  rcases escapeChar_cases c with ⟨e, he, heq⟩ | ⟨hcontrol, heq⟩ | ⟨hquote, hplain, heq⟩
  · exact ⟨.char c, .char c, fun cs => by rw [heq, readPieces?_shortEscape he]⟩
  · refine ⟨.unit c.toNat, .unit (by omega), fun cs => ?_⟩
    have hdigits := hexNat?_hexDigits (n := c.toNat) (by omega)
    simp only [heq, List.cons_append, List.nil_append, readPieces?, hdigits]
    cases readPieces? cs <;> rfl
  · refine ⟨.char c, .char c, fun cs => ?_⟩
    rw [heq, List.singleton_append, readPieces?_char _ hquote hplain]
    cases readPieces? cs <;> rfl

/-! ### Strings -/

/-- The characters of a string are read up to its closing quote. -/
theorem exists_readPieces?_flatMap (cs rest : List Char) :
    ∃ pieces, readPieces? (cs.flatMap escapeChar ++ quoteMark :: rest) = some (pieces, rest) ∧
      joinPieces? pieces = some cs := by
  induction cs with
  | nil => exact ⟨[], readPieces?_quote rest rfl, rfl⟩
  | cons c cs ih =>
    obtain ⟨pieces, hpieces, hjoin⟩ := ih
    obtain ⟨p, hp, hread⟩ := exists_readPieces?_escapeChar c
    refine ⟨p :: pieces, ?_, ?_⟩
    · rw [List.flatMap_cons, List.append_assoc, hread, hpieces]
      rfl
    · rw [joinPieces?_cons hp, hjoin]
      rfl

/-- **What is written for a string** is read as the string. -/
theorem takes_readString?_quote (s : String) :
    Takes readString? (fun _ => True) (s.toList.flatMap escapeChar ++ [quoteMark]) (some s) := by
  intro rest _
  obtain ⟨pieces, hpieces, hjoin⟩ := exists_readPieces?_flatMap s.toList rest
  rw [List.append_assoc, List.singleton_append, readString?, hpieces, Option.map_some]
  dsimp only
  rw [hjoin, Option.map_some, String.ofList_toList]

/-! ### Numbers -/

/-- **An integer as it is written**: its decimal digits, and a sign if it is negative. -/
def Numeral.ofInt (n : Int) : Numeral := ⟨n < 0, Nat.toDigits 10 n.natAbs, [], none⟩

/-- Integers that are written alike are equal. -/
theorem Numeral.ofInt_inj {m n : Int} : ofInt m = ofInt n ↔ m = n := by
  refine ⟨fun h => ?_, congrArg ofInt⟩
  have hsign : m < 0 ↔ n < 0 := decide_eq_decide.1 (congrArg Numeral.negative h)
  have hdigits : Nat.toDigits 10 m.natAbs = Nat.toDigits 10 n.natAbs := congrArg Numeral.whole h
  have habs : m.natAbs = n.natAbs := by
    rw [← Nat.ofDigitChars_ten_toDigits (n := m.natAbs), hdigits, Nat.ofDigitChars_ten_toDigits]
  omega

theorem isDigit_of_mem_toDigits {n : Nat} {c : Char} (h : c ∈ Nat.toDigits 10 n) :
    c.isDigit = true :=
  Nat.isDigit_of_mem_toDigits (by decide) (by decide) h

/-- The digits of a positive number do not begin with a zero. -/
theorem head?_toDigits_ne_zero {n : Nat} (h : 0 < n) : (Nat.toDigits 10 n).head? ≠ some '0' := by
  induction n using Nat.strongRecOn with
  | ind n ih =>
    rw [Nat.toDigits_eq_if (by decide)]
    split
    · interval_cases n <;> decide
    · rw [List.head?_append_of_ne_nil _ Nat.toDigits_ne_nil]
      exact ih (n / 10) (by omega) (by omega)

theorem behindWhole_toDigits {α : Type} (n : Nat) (next : Option α) :
    behindWhole (Nat.toDigits 10 n) next = next := by
  unfold behindWhole
  split
  · next hnil => exact absurd hnil Nat.toDigits_ne_nil
  · next hzero =>
    rcases Nat.eq_zero_or_pos n with rfl | hn
    · simp at hzero
    · exact absurd (congrArg List.head? hzero) (head?_toDigits_ne_zero hn)
  · rfl

theorem exists_toDigits_eq_cons (n : Nat) :
    ∃ c cs, Nat.toDigits 10 n = c :: cs ∧ c.isDigit = true := by
  obtain ⟨c, cs, hcs⟩ := List.exists_cons_of_ne_nil (Nat.toDigits_ne_nil (n := n) (b := 10))
  exact ⟨c, cs, hcs, isDigit_of_mem_toDigits (hcs ▸ List.mem_cons_self)⟩

/-- Digits begin with no sign. -/
theorem numeralSign_toDigits (n : Nat) :
    numeralSign (Nat.toDigits 10 n) = (false, Nat.toDigits 10 n) := by
  obtain ⟨c, cs, hcs, hc⟩ := exists_toDigits_eq_cons n
  rw [hcs, numeralSign]
  rintro rest heq
  obtain rfl := (List.cons.inj heq).1
  cases hc

/-- Digits behind a sign are read to their end. -/
theorem readNumeral?_toDigits {cs : List Char} {negative : Bool} {n : Nat}
    (h : numeralSign cs = (negative, Nat.toDigits 10 n)) :
    readNumeral? cs = some (⟨negative, Nat.toDigits 10 n, [], none⟩, []) := by
  have hspan : spanDigits (Nat.toDigits 10 n) = (Nat.toDigits 10 n, []) := by
    have hend : ∀ c ∈ ([] : List Char).head?, c.isDigit = false := by simp
    have hdigits := spanDigits_append (fun c => isDigit_of_mem_toDigits (n := n)) hend
    rwa [List.append_nil] at hdigits
  rw [readNumeral?_eq, h]
  simp only [hspan]
  rw [behindWhole_toDigits]
  rfl

/-- A number that is read to its end is the text of the number. -/
theorem isText_of_readNumeral? {c : Char} {cs : List Char} {x : Numeral}
    (hc : c = '-' ∨ c.isDigit = true) (h : readNumeral? (c :: cs) = some (x, [])) :
    IsText (c :: cs) (.number x) := by
  obtain ⟨text, -, htext, htakes⟩ := exists_takes_readNumeral? h
  rw [List.append_nil] at htext
  have hne : ∀ d : Char, d ≠ '-' → d.isDigit = false → c ≠ d := by
    rintro d hminus hdigit rfl
    exact hc.elim hminus (Bool.eq_false_iff.1 hdigit)
  refine isText_number ?_ ?_ ?_ (htext ▸ htakes)
  · rw [Bool.eq_false_iff, ne_eq, isSpace_iff]
    simp [hne]
  · simp [hne]
  · intro hquote
    exact hne (Char.ofNat 0x22) (by decide) (by decide) (hquote ▸ Char.ofNat_toNat c).symm

/-- **What is written for an integer** is read as the integer. -/
theorem isText_integer (n : Int) : IsText (toString n).toList (.number (.ofInt n)) := by
  rw [Int.toString_eq_repr, Int.repr_eq_if]
  split
  · next hle =>
    have hofInt : Numeral.ofInt n = ⟨false, Nat.toDigits 10 n.toNat, [], none⟩ := by
      rw [Numeral.ofInt, decide_eq_false (by omega), show n.natAbs = n.toNat by omega]
    have hread := readNumeral?_toDigits (numeralSign_toDigits n.toNat)
    obtain ⟨c, cs, hcs, hc⟩ := exists_toDigits_eq_cons n.toNat
    rw [Nat.toList_repr, hofInt]
    rw [hcs] at hread ⊢
    exact isText_of_readNumeral? (.inr hc) hread
  · next hneg =>
    have hofInt : Numeral.ofInt n = ⟨true, Nat.toDigits 10 (-n).toNat, [], none⟩ := by
      rw [Numeral.ofInt, decide_eq_true (by omega), show n.natAbs = (-n).toNat by omega]
    rw [String.toList_append, Nat.toList_repr, hofInt]
    exact isText_of_readNumeral? (.inl rfl) (readNumeral?_toDigits rfl)

/-! ### Forms -/

mutual

/-- **The form of a value as it is written**, if it has no doubles. -/
def Value.form? : Value → Option Form
  | .null => some .null
  | .bool b => some (.bool b)
  | .number (.integer n) => some (.number (.ofInt n))
  | .number (.double _) => none
  | .string s => some (.string (some s))
  | .array items => (itemForms? items).map .array
  | .object members => (memberForms? members).map .object

/-- The forms of some items. -/
def itemForms? : List Value → Option (List Form)
  | [] => some []
  | v :: vs => do return (← v.form?) :: (← itemForms? vs)

/-- The forms of some members under their names. -/
def memberForms? : List (String × Value) → Option (List (Option String × Form))
  | [] => some []
  | (name, v) :: ms => do return (some name, ← v.form?) :: (← memberForms? ms)

end

/-! ### Layouts -/

theorem isSpace_of_isWhitespace {c : Char} (h : c.isWhitespace = true) : isSpace c = true := by
  simp only [Char.isWhitespace, Bool.or_eq_true, decide_eq_true_eq] at h
  rw [isSpace_iff]
  rcases h with ((h | h) | h) | h <;> simp [h]

theorem Layout.allSpace_line (layout : Layout) (level : Nat) : AllSpace (layout.line level) :=
  fun c hc => isSpace_of_isWhitespace (layout.isWhitespace_of_mem_line level c hc)

theorem Layout.allSpace_gap (layout : Layout) : AllSpace layout.gap :=
  fun c hc => isSpace_of_isWhitespace (layout.isWhitespace_of_mem_gap c hc)

theorem Layout.exists_enclose (layout : Layout) (level : Nat) (opening closing : Char)
    (elements : List (List Char)) :
    ∃ inside, layout.enclose level opening closing elements = opening :: inside ++ [closing] := by
  cases elements with
  | nil => exact ⟨[], rfl⟩
  | cons => exact ⟨_, rfl⟩

section Elements

variable {α : Type} {element : Nat → List Char → Option (α × List Char)} {close : Char}
  {all : Nat → List Char → Option (List α × List Char)} {texts : List (List Char)} {as : List α}

/-- Elements with commas between them are read up to the closing character. -/
theorem IsSequence.takesWithin_intercalate (h : IsSequence element close all)
    (htexts : List.Forall₂ (TakesWithin element 0) texts as) (hne : texts ≠ []) {space : List Char}
    (hspace : AllSpace space) :
    TakesWithin all 1 (List.intercalate [','] texts ++ space ++ [close]) as := by
  induction htexts with
  | nil => exact absurd rfl hne
  | cons htext hmore ih =>
    cases hmore with
    | nil =>
      rw [List.intercalate_singleton]
      exact h.takesWithin_singleton htext hspace
    | cons =>
      have hall := h.takesWithin_cons htext allSpace_nil (ih (by simp))
      rw [List.intercalate_cons_cons]
      simpa only [List.nil_append, List.append_assoc, List.cons_append] using hall

/-- **What a layout puts between brackets** is read as its elements. -/
theorem IsSequence.takesWithin_enclose (h : IsSequence element close all) {first : Char}
    {wrap : List α → Form}
    (heq : ∀ depth cs, readForm? (depth + 1) (first :: cs) =
      readEnclosed? close wrap (all depth) cs) (layout : Layout) (level : Nat)
    (htexts : List.Forall₂ (TakesWithin element 0) texts as) :
    TakesWithin readForm? 0 (layout.enclose level first close texts) (wrap as) := by
  cases htexts with
  | nil => exact takesWithin_empty heq allSpace_nil h.isSpace_close
  | cons htext hmore =>
    exact h.takesWithin_brackets heq
      (h.takesWithin_intercalate (.cons htext hmore) (by simp) (layout.allSpace_line level))

end Elements

/-- White space in front of a form does not matter. -/
theorem IsText.takesWithin_append {text space : List Char} {f : Form} (h : IsText text f)
    (hspace : AllSpace space) : TakesWithin readForm? 0 (space ++ text) f := by
  intro depth hdepth rest hrest
  rw [List.append_assoc, readForm?_append _ _ hspace]
  exact h.takes depth (by simp at hdepth; omega) rest hrest

variable (layout : Layout) (level : Nat)

/-- A member on a line of its own is read under its name. -/
theorem IsText.takesWithin_member {text : List Char} {f : Form} (h : IsText text f)
    (name : String) :
    TakesWithin readMember? 0 (layout.line level ++ quote name ++ ':' :: (layout.gap ++ text))
      (some name, f) := by
  have hquote : quoteMark.toNat = 0x22 := rfl
  have htakes := takesWithin_readMember? hquote (layout.allSpace_line level) allSpace_nil
    (takes_readString?_quote name) (h.takesWithin_append layout.allSpace_gap)
  simpa only [quote, List.nil_append, List.cons_append, List.append_assoc] using htakes

variable {texts : List (List Char)}

theorem isText_array {items : List Form}
    (h : List.Forall₂ (TakesWithin readForm? 0) texts items) :
    IsText (layout.enclose level '[' ']' texts) (.array items) := by
  obtain ⟨inside, hinside⟩ := layout.exists_enclose level '[' ']' texts
  exact ⟨isSequence_items.takesWithin_enclose readForm?_array layout level h,
    ⟨_, _, hinside, by decide⟩, fun _ _ => ⟨inside, hinside⟩, nofun⟩

theorem isText_object {members : List (Option String × Form)}
    (h : List.Forall₂ (TakesWithin readMember? 0) texts members) :
    IsText (layout.enclose level openBrace closeBrace texts) (.object members) := by
  obtain ⟨inside, hinside⟩ := layout.exists_enclose level openBrace closeBrace texts
  exact ⟨isSequence_members.takesWithin_enclose readForm?_object layout level h,
    ⟨_, _, hinside, by decide⟩, nofun, fun _ _ => ⟨inside, hinside⟩⟩

/-! ### Values -/

mutual

/-- **What is written for a value** is read as its form, in any layout. -/
theorem isText_render (level : Nat) :
    ∀ (v : Value) {f : Form}, v.form? = some f → IsText (v.render layout level) f
  | .null, _, rfl => isText_word (by decide) (by simp) (by simp) readForm?_null
  | .bool true, _, rfl => isText_word (by decide) (by simp) (by simp) readForm?_true
  | .bool false, _, rfl => isText_word (by decide) (by simp) (by simp) readForm?_false
  | .number (.integer n), _, rfl => isText_integer n
  | .string s, _, rfl => isText_string rfl (takes_readString?_quote s)
  | .array items, f, h => by
    obtain ⟨forms, hforms, rfl⟩ := Option.map_eq_some_iff.1 h
    exact isText_array layout level (takesWithin_renderItems (level + 1) items hforms)
  | .object members, f, h => by
    obtain ⟨forms, hforms, rfl⟩ := Option.map_eq_some_iff.1 h
    exact isText_object layout level (takesWithin_renderMembers (level + 1) members hforms)

theorem takesWithin_renderItems (level : Nat) :
    ∀ (vs : List Value) {forms : List Form}, itemForms? vs = some forms →
      List.Forall₂ (TakesWithin readForm? 0) (renderItems layout level vs) forms
  | [], _, rfl => .nil
  | v :: vs, forms, h => by
    simp only [itemForms?, Option.bind_eq_bind, Option.bind_eq_some_iff] at h
    obtain ⟨f, hf, fs, hfs, heq⟩ := h
    cases heq
    exact .cons ((isText_render level v hf).takesWithin_append (layout.allSpace_line level))
      (takesWithin_renderItems level vs hfs)

theorem takesWithin_renderMembers (level : Nat) :
    ∀ (ms : List (String × Value)) {forms : List (Option String × Form)},
      memberForms? ms = some forms →
      List.Forall₂ (TakesWithin readMember? 0) (renderMembers layout level ms) forms
  | [], _, rfl => .nil
  | (name, v) :: ms, forms, h => by
    simp only [memberForms?, Option.bind_eq_bind, Option.bind_eq_some_iff] at h
    obtain ⟨f, hf, fs, hfs, heq⟩ := h
    cases heq
    exact .cons ((isText_render level v hf).takesWithin_member layout level name)
      (takesWithin_renderMembers level ms hfs)

end

/-- A whole text that is written for a value has its form, and white space behind it does not
matter. -/
theorem Form.parseChars?_render {v : Value} {f : Form} (h : v.form? = some f) {tail : List Char}
    (htail : AllSpace tail) : Form.parseChars? (v.render layout level ++ tail) = some f :=
  Form.parseChars?_eq_some.2
    ⟨[], v.render layout level, tail, allSpace_nil, htail, rfl, isText_render layout level v h⟩

end AddressTrace.Json
