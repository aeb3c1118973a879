import AddressTrace.Json.Reader
import Mathlib.Data.List.Basic
import Mathlib.Data.List.TakeDrop
import Mathlib.Data.List.TakeWhile

/-!
# What the reader reads

The reader of JSON works its way through a list of characters and leaves the rest of it.  What it
reads is a text of its own: the same is read from this text whatever follows, as long as a number is
not continued, and at any depth that is enough for the text.  So a whole text has a form exactly if
it is the form's own text with white space around it.

Strings, numbers and the sequences between brackets come first.  The induction is on the depth, for
forms, items and members at one time; items and members are both sequences of something, and only
what stands in a sequence differs.

## Main definitions

* `Takes`, `TakesWithin` — a text is read whatever follows, at any depth that is enough;
* `EndsNumeral` — what may follow a number;
* `IsSequence` — elements with commas between them and a closing character behind them;
* `IsText` — the text of a form.

## Main statements

* `exists_takes_readString?`, `exists_takes_readNumeral?` — strings and numbers have a text;
* `IsSequence.takesWithin_cons`, `takesWithin_readMember?`, `isText_string` — the text of a whole
  from those of its parts;
* `IsSequence.takesClosedAt_succ`, `exists_texts` — one step deeper, and at all depths;
* `Form.parseChars?_eq_some` — which texts have a form;
* `head?_of_readForm?_object` — what an opening brace has behind it.
-/

namespace AddressTrace.Json

open Text

variable {α : Type}

/-- **A reader takes a text** as a value, and leaves what follows, which may be anything of some
sort. -/
def Takes (read : List Char → Option (α × List Char)) (Follows : List Char → Prop)
    (text : List Char) (a : α) : Prop :=
  ∀ rest, Follows rest → read (text ++ rest) = some (a, rest)

/-! ### White space -/

/-- **A text of white space.** -/
def AllSpace (cs : List Char) : Prop := ∀ c ∈ cs, isSpace c = true

theorem allSpace_nil : AllSpace [] := by simp [AllSpace]

theorem isSpace_iff {c : Char} :
    isSpace c = true ↔ ((c = ' ' ∨ c = '\t') ∨ c = '\n') ∨ c = '\r' := by
  simp only [isSpace, Bool.or_eq_true, beq_iff_eq]

theorem isSpace_of_quote {c : Char} (h : c.toNat = 0x22) : isSpace c = false := by
  rw [Bool.eq_false_iff, ne_eq, isSpace_iff]
  rintro (((rfl | rfl) | rfl) | rfl) <;> exact absurd h (by decide)

theorem skipSpace_append {space : List Char} (h : AllSpace space) (cs : List Char) :
    skipSpace (space ++ cs) = skipSpace cs :=
  List.dropWhile_append_of_pos h

theorem skipSpace_cons {c : Char} (h : isSpace c = false) (cs : List Char) :
    skipSpace (c :: cs) = c :: cs :=
  List.dropWhile_cons_of_neg (by simp [h])

theorem skipSpace_eq_nil {cs : List Char} : skipSpace cs = [] ↔ AllSpace cs :=
  List.dropWhile_eq_nil_iff

theorem skipSpace_eq_cons {cs rest : List Char} {c : Char} (h : skipSpace cs = c :: rest) :
    ∃ space, AllSpace space ∧ isSpace c = false ∧ cs = space ++ c :: rest := by
  refine ⟨cs.takeWhile isSpace, fun x hx => List.mem_takeWhile_imp hx, ?_, ?_⟩
  · have hhead := List.head?_dropWhile_not isSpace cs
    rw [skipSpace] at h
    rw [h] at hhead
    exact hhead
  · rw [← h]
    exact (List.takeWhile_append_dropWhile).symm

/-! ### Strings -/

section Pieces

variable {c : Char} (cs : List Char)

theorem readPieces?_escape (h : c ≠ 'u') : readPieces? ('\\' :: c :: cs) = do
    let e ← shortEscape? c
    let (pieces, rest) ← readPieces? cs
    return (.char e :: pieces, rest) := by
  rw [readPieces?]
  intros
  contradiction

theorem readPieces?_quote (h : c.toNat = 0x22) : readPieces? (c :: cs) = some ([], cs) := by
  have hc : c ≠ '\\' := by
    rintro rfl
    exact absurd h (by decide)
  rw [readPieces?, if_pos h]
  · intros; contradiction
  · intros; contradiction

theorem readPieces?_char (hquote : c.toNat ≠ 0x22) (hplain : ¬ (c.toNat < 0x20 ∨ c = '\\')) :
    readPieces? (c :: cs) = do
      let (pieces, rest) ← readPieces? cs
      return (.char c :: pieces, rest) := by
  obtain ⟨-, hc⟩ := not_or.1 hplain
  rw [readPieces?, if_neg hquote, if_neg hplain]
  · intros; contradiction
  · intros; contradiction

end Pieces

/-- **The pieces of a string** are read whatever follows. -/
theorem exists_takes_readPieces? {cs rest : List Char} {pieces : List Piece}
    (h : readPieces? cs = some (pieces, rest)) :
    ∃ text, cs = text ++ rest ∧ Takes readPieces? (fun _ => True) text pieces := by
  fun_induction readPieces? cs generalizing pieces rest with
  | case1 => cases h
  | case2 a b c d cs ih =>
    simp only [Option.bind_eq_bind, Option.bind_eq_some_iff] at h
    obtain ⟨n, hn, ⟨more, left⟩, hmore, hpieces⟩ := h
    cases hpieces
    obtain ⟨text, rfl, htakes⟩ := ih hmore
    refine ⟨'\\' :: 'u' :: a :: b :: c :: d :: text, rfl, fun rest' hrest' => ?_⟩
    simp only [List.cons_append, readPieces?, hn, htakes rest' hrest', Option.bind_eq_bind,
      Option.bind_some]
    rfl
  | case3 c cs hcode ih =>
    simp only [Option.bind_eq_bind, Option.bind_eq_some_iff] at h
    obtain ⟨e, he, ⟨more, left⟩, hmore, hpieces⟩ := h
    cases hpieces
    obtain ⟨text, rfl, htakes⟩ := ih hmore
    refine ⟨'\\' :: c :: text, rfl, fun rest' hrest' => ?_⟩
    have hc : c ≠ 'u' := by
      rintro rfl
      cases he
    rw [List.cons_append, List.cons_append, readPieces?_escape _ hc, he, htakes rest' hrest']
    rfl
  | case4 c cs hcode hescape hquote =>
    cases h
    exact ⟨[c], rfl, fun rest' _ => readPieces?_quote rest' hquote⟩
  | case5 => cases h
  | case6 c cs hcode hescape hquote hplain ih =>
    simp only [Option.bind_eq_bind, Option.bind_eq_some_iff] at h
    obtain ⟨⟨more, left⟩, hmore, hpieces⟩ := h
    cases hpieces
    obtain ⟨text, rfl, htakes⟩ := ih hmore
    refine ⟨c :: text, rfl, fun rest' hrest' => ?_⟩
    rw [List.cons_append, readPieces?_char _ hquote hplain, htakes rest' hrest']
    rfl

/-- **A string** is read whatever follows. -/
theorem exists_takes_readString? {cs rest : List Char} {string : Option String}
    (h : readString? cs = some (string, rest)) :
    ∃ text, cs = text ++ rest ∧ Takes readString? (fun _ => True) text string := by
  obtain ⟨⟨pieces, left⟩, hpieces, heq⟩ := Option.map_eq_some_iff.1 h
  cases heq
  obtain ⟨text, htext, htakes⟩ := exists_takes_readPieces? hpieces
  refine ⟨text, htext, fun rest' hrest' => ?_⟩
  rw [readString?, htakes rest' hrest']
  rfl

/-! ### Numbers -/

/-- **What may follow a number**: anything that would not be read as more of it. -/
def EndsNumeral (rest : List Char) : Prop :=
  ∀ c ∈ rest.head?, c.isDigit = false ∧ c ≠ '.' ∧ c ≠ 'e' ∧ c ≠ 'E'

theorem spanDigits_append {digits rest : List Char} (h : ∀ c ∈ digits, c.isDigit = true)
    (hrest : ∀ c ∈ rest.head?, c.isDigit = false) :
    spanDigits (digits ++ rest) = (digits, rest) := by
  have hstop : rest.takeWhile Char.isDigit = [] ∧ rest.dropWhile Char.isDigit = rest := by
    cases rest with
    | nil => exact ⟨rfl, rfl⟩
    | cons c rest =>
      have hc : ¬ c.isDigit = true := by simp [hrest c rfl]
      exact ⟨List.takeWhile_cons_of_neg hc, List.dropWhile_cons_of_neg hc⟩
  rw [spanDigits, List.span_eq_takeWhile_dropWhile, List.takeWhile_append_of_pos h,
    List.dropWhile_append_of_pos h, hstop.1, hstop.2, List.append_nil]

theorem spanDigits_eq {cs digits rest : List Char} (h : spanDigits cs = (digits, rest)) :
    (∀ c ∈ digits, c.isDigit = true) ∧ cs = digits ++ rest := by
  rw [spanDigits, List.span_eq_takeWhile_dropWhile] at h
  cases h
  exact ⟨fun c hc => List.mem_takeWhile_imp hc, List.takeWhile_append_dropWhile.symm⟩

theorem forall_mem_head?_append {P : Char → Prop} {cs ds : List Char} (hcs : ∀ c ∈ cs.head?, P c)
    (hds : ∀ c ∈ ds.head?, P c) : ∀ c ∈ (cs ++ ds).head?, P c := by
  cases cs with
  | nil => exact hds
  | cons c cs => exact hcs

/-- **A fraction** is read if what follows is neither a digit nor a point. -/
theorem exists_takes_readFraction? {cs rest fraction : List Char}
    (h : readFraction? cs = some (fraction, rest)) :
    ∃ text, cs = text ++ rest ∧ (∀ c ∈ text.head?, c = '.') ∧
      Takes readFraction? (fun rest => ∀ c ∈ rest.head?, c.isDigit = false ∧ c ≠ '.')
        text fraction := by
  unfold readFraction? at h
  split at h
  · next cs =>
    generalize hspan : spanDigits cs = spanned at h
    obtain ⟨digits, left⟩ := spanned
    obtain ⟨hdigits, rfl⟩ := spanDigits_eq hspan
    dsimp only at h
    split at h
    · cases h
    · next hempty =>
      cases h
      refine ⟨'.' :: fraction, rfl, by simp, fun rest' hrest' => ?_⟩
      have hspan' := spanDigits_append hdigits fun c hc => (hrest' c hc).1
      simp only [List.cons_append, readFraction?, hspan']
      rw [if_neg hempty]
  · cases h
    refine ⟨[], rfl, by simp, fun rest' hrest' => ?_⟩
    rw [List.nil_append, readFraction?]
    rintro left rfl
    obtain ⟨-, hpoint⟩ := hrest' _ rfl
    exact hpoint rfl

/-- The sign of an exponent, if there is one, and the rest. -/
def exponentSign (cs : List Char) : Bool × List Char :=
  match cs with
  | '-' :: rest => (true, rest)
  | '+' :: rest => (false, rest)
  | rest => (false, rest)

theorem readExponent?_cons (c : Char) (cs : List Char) :
    readExponent? (c :: cs) =
      if c = 'e' ∨ c = 'E' then
        let (down, rest) := exponentSign cs
        let (digits, rest) := spanDigits rest
        if digits.isEmpty then none else some (some (down, digits), rest)
      else some (none, c :: cs) :=
  rfl

/-- The sign of an exponent is read if a digit follows. -/
theorem exists_takes_exponentSign (cs : List Char) :
    ∃ text, cs = text ++ (exponentSign cs).2 ∧
      ∀ c rest, c.isDigit = true →
        exponentSign (text ++ c :: rest) = ((exponentSign cs).1, c :: rest) := by
  unfold exponentSign
  split
  · exact ⟨['-'], rfl, fun _ _ _ => rfl⟩
  · exact ⟨['+'], rfl, fun _ _ _ => rfl⟩
  · refine ⟨[], rfl, fun c rest hc => ?_⟩
    split
    · next heq =>
      obtain rfl := (List.cons.inj heq).1
      cases hc
    · next heq =>
      obtain rfl := (List.cons.inj heq).1
      cases hc
    · rfl

/-- **An exponent** is read if what follows is neither a digit nor the sign of an exponent. -/
theorem exists_takes_readExponent? {cs rest : List Char} {exponent : Option (Bool × List Char)}
    (h : readExponent? cs = some (exponent, rest)) :
    ∃ text, cs = text ++ rest ∧ (∀ c ∈ text.head?, c = 'e' ∨ c = 'E') ∧
      Takes readExponent? (fun rest => ∀ c ∈ rest.head?, c.isDigit = false ∧ c ≠ 'e' ∧ c ≠ 'E')
        text exponent := by
  have hnone : Takes readExponent?
      (fun rest => ∀ c ∈ rest.head?, c.isDigit = false ∧ c ≠ 'e' ∧ c ≠ 'E') [] none := by
    intro rest' hrest'
    cases rest' with
    | nil => rfl
    | cons c rest' =>
      obtain ⟨-, he⟩ := hrest' c rfl
      rw [List.nil_append, readExponent?_cons, if_neg (by simpa using he)]
  cases cs with
  | nil =>
    cases h
    exact ⟨[], rfl, by simp, hnone⟩
  | cons c cs =>
    rw [readExponent?_cons] at h
    split at h
    · next hc =>
      obtain ⟨sign, hsign, htakes⟩ := exists_takes_exponentSign cs
      obtain ⟨digits, left, hspan⟩ : ∃ digits left,
          spanDigits (exponentSign cs).2 = (digits, left) := ⟨_, _, rfl⟩
      obtain ⟨hdigits, hleft⟩ := spanDigits_eq hspan
      simp only [hspan] at h
      split at h
      · cases h
      · next hempty =>
        cases h
        refine ⟨c :: (sign ++ digits), ?_, by simpa using hc, fun rest' hrest' => ?_⟩
        · rw [hsign, hleft]
          simp
        · obtain ⟨digit, digits, rfl⟩ := List.exists_cons_of_ne_nil (by simpa using hempty)
          have hspan' := spanDigits_append hdigits fun c hc => (hrest' c hc).1
          rw [List.cons_append, readExponent?_cons, if_pos hc, List.append_assoc, List.cons_append,
            htakes digit _ (hdigits digit List.mem_cons_self), ← List.cons_append]
          simp only [hspan']
          rw [if_neg hempty]
    · cases h
      exact ⟨[], rfl, by simp, hnone⟩

/-- The sign of a number, if there is one, and the rest. -/
def numeralSign (cs : List Char) : Bool × List Char :=
  match cs with
  | '-' :: rest => (true, rest)
  | _ => (false, cs)

/-- What is read behind the digits before a point, if they are well-formed. -/
def behindWhole (whole : List Char) (next : Option α) : Option α :=
  match whole with
  | [] => none
  | '0' :: _ :: _ => none
  | _ => next

theorem readNumeral?_eq (cs : List Char) :
    readNumeral? cs =
      let (negative, cs) := numeralSign cs
      let (whole, cs) := spanDigits cs
      behindWhole whole do
        let (fraction, cs) ← readFraction? cs
        let (exponent, cs) ← readExponent? cs
        return (⟨negative, whole, fraction, exponent⟩, cs) :=
  rfl

/-- The sign of a number is read if a digit follows. -/
theorem exists_takes_numeralSign (cs : List Char) :
    ∃ text, cs = text ++ (numeralSign cs).2 ∧
      ∀ c rest, c.isDigit = true →
        numeralSign (text ++ c :: rest) = ((numeralSign cs).1, c :: rest) := by
  unfold numeralSign
  split
  · exact ⟨['-'], rfl, fun _ _ _ => rfl⟩
  · refine ⟨[], rfl, fun c rest hc => ?_⟩
    split
    · next heq =>
      obtain rfl := (List.cons.inj heq).1
      cases hc
    · rfl

theorem behindWhole_eq_some {whole : List Char} {next : Option α} {a : α}
    (h : behindWhole whole next = some a) :
    whole ≠ [] ∧ next = some a ∧ ∀ other : Option α, behindWhole whole other = other := by
  unfold behindWhole at h ⊢
  split at h
  · cases h
  · cases h
  · next hne hzero => exact ⟨hne, h, fun _ => rfl⟩

/-- **A number** is read if what follows would not be read as more of it. -/
theorem exists_takes_readNumeral? {cs rest : List Char} {x : Numeral}
    (h : readNumeral? cs = some (x, rest)) :
    ∃ text, text ≠ [] ∧ cs = text ++ rest ∧ Takes readNumeral? EndsNumeral text x := by
  obtain ⟨sign, hsign, htakesSign⟩ := exists_takes_numeralSign cs
  obtain ⟨whole, left, hspan⟩ : ∃ whole left, spanDigits (numeralSign cs).2 = (whole, left) :=
    ⟨_, _, rfl⟩
  obtain ⟨hdigits, hleft⟩ := spanDigits_eq hspan
  rw [readNumeral?_eq] at h
  simp only [hspan] at h
  obtain ⟨hwhole, h, hbehind⟩ := behindWhole_eq_some h
  simp only [Option.bind_eq_bind, Option.bind_eq_some_iff] at h
  obtain ⟨⟨fraction, _⟩, hfraction, ⟨exponent, _⟩, hexponent, heq⟩ := h
  cases heq
  obtain ⟨ftext, rfl, hfhead, hftakes⟩ := exists_takes_readFraction? hfraction
  obtain ⟨etext, rfl, hehead, hetakes⟩ := exists_takes_readExponent? hexponent
  refine ⟨sign ++ whole ++ ftext ++ etext, by simp [hwhole], ?_, fun rest' hrest' => ?_⟩
  · rw [hsign, hleft]
    simp
  · -- Each part ends where the next one begins.
    have hend : ∀ c ∈ (etext ++ rest').head?, c.isDigit = false ∧ c ≠ '.' :=
      forall_mem_head?_append (fun c hc => by rcases hehead c hc with rfl | rfl <;> decide)
        fun c hc => ⟨(hrest' c hc).1, (hrest' c hc).2.1⟩
    have hpoint : ∀ c ∈ (ftext ++ (etext ++ rest')).head?, c.isDigit = false :=
      forall_mem_head?_append (fun c hc => by rw [hfhead c hc]; rfl) fun c hc => (hend c hc).1
    obtain ⟨digit, digits, rfl⟩ := List.exists_cons_of_ne_nil hwhole
    have htext : sign ++ digit :: digits ++ ftext ++ etext ++ rest' =
        sign ++ digit :: (digits ++ (ftext ++ (etext ++ rest'))) := by
      simp
    rw [htext, readNumeral?_eq, htakesSign digit _ (hdigits digit List.mem_cons_self),
      ← List.cons_append]
    simp only [spanDigits_append hdigits hpoint]
    rw [hbehind, hftakes _ hend]
    simp only [Option.bind_eq_bind, Option.bind_some]
    rw [hetakes rest' fun c hc => ⟨(hrest' c hc).1, (hrest' c hc).2.2⟩]
    rfl

theorem endsNumeral_of_allSpace {space : List Char} (h : AllSpace space) : EndsNumeral space := by
  intro c hc
  rcases isSpace_iff.1 (h c (List.mem_of_mem_head? hc)) with ((rfl | rfl) | rfl) | rfl <;> decide

theorem endsNumeral_append {space : List Char} (h : AllSpace space) {c : Char}
    (hc : c = ',' ∨ c = ']' ∨ c = '}') (rest : List Char) : EndsNumeral (space ++ c :: rest) := by
  refine forall_mem_head?_append (endsNumeral_of_allSpace h) fun x hx => ?_
  obtain rfl : c = x := Option.some.inj hx
  rcases hc with rfl | rfl | rfl <;> decide

/-! ### Forms -/

section Forms

variable (depth : Nat) (cs : List Char)

theorem readForm?_append {space : List Char} (h : AllSpace space) :
    readForm? depth (space ++ cs) = readForm? depth cs := by
  cases depth with
  | zero => rw [readForm?, readForm?]
  | succ depth => rw [readForm?, readForm?, skipSpace_append h]

theorem readForm?_null :
    readForm? (depth + 1) ('n' :: cs) = ("ull".toList.isPrefixOf? cs).map (.null, ·) :=
  rfl

theorem readForm?_true :
    readForm? (depth + 1) ('t' :: cs) = ("rue".toList.isPrefixOf? cs).map (.bool true, ·) :=
  rfl

theorem readForm?_false :
    readForm? (depth + 1) ('f' :: cs) = ("alse".toList.isPrefixOf? cs).map (.bool false, ·) :=
  rfl

theorem readForm?_array :
    readForm? (depth + 1) ('[' :: cs) = readEnclosed? ']' .array (readItems? depth) cs :=
  rfl

theorem readForm?_object :
    readForm? (depth + 1) ('{' :: cs) = readEnclosed? '}' .object (readMembers? depth) cs :=
  rfl

theorem readForm?_other {c : Char} (hspace : isSpace c = false)
    (hc : c ∉ ['n', 't', 'f', '[', '{']) :
    readForm? (depth + 1) (c :: cs) =
      if c.toNat = 0x22 then (readString? cs).map fun (text, rest) => (.string text, rest)
      else (readNumeral? (c :: cs)).map fun (x, rest) => (.number x, rest) := by
  simp only [List.mem_cons, List.not_mem_nil, or_false, not_or] at hc
  obtain ⟨hn, ht, hf, hbracket, hbrace⟩ := hc
  rw [readForm?, skipSpace_cons hspace]
  dsimp only
  split
  · exact absurd rfl hn
  · exact absurd rfl ht
  · exact absurd rfl hf
  · exact absurd rfl hbracket
  · exact absurd rfl hbrace
  · rfl

end Forms

/-- **A reader takes a text at any depth that is enough**, whatever follows, if it would not be read
as more of a number. -/
def TakesWithin (read : Nat → List Char → Option (α × List Char)) (slack : Nat)
    (text : List Char) (a : α) : Prop :=
  ∀ depth, 2 * text.length + slack ≤ depth → Takes (read depth) EndsNumeral text a

/-- There is a step to take for a text that is not empty. -/
theorem TakesWithin.of_succ {read : Nat → List Char → Option (α × List Char)} {slack : Nat}
    {text : List Char} {a : α} (hne : text ≠ [])
    (h : ∀ depth, 2 * text.length + slack ≤ depth + 1 →
      Takes (read (depth + 1)) EndsNumeral text a) : TakesWithin read slack text a := by
  intro depth hdepth
  cases depth with
  | zero =>
    have hlength := List.length_pos_iff.2 hne
    omega
  | succ depth => exact h depth hdepth

/-! ### Sequences -/

/-- What is read behind an element: a comma and more elements, or the character that closes the
sequence. -/
def behindElement (close : Char) (more : List Char → Option (List α × List Char)) (a : α)
    (cs : List Char) : Option (List α × List Char) :=
  match skipSpace cs with
  | [] => none
  | c :: cs =>
    if c = ',' then (more cs).map fun (as, rest) => (a :: as, rest)
    else if c = close then some ([a], cs)
    else none

/-- **A reader of a sequence** reads an element and what stands behind it.  No element begins with
the character that closes the sequence. -/
structure IsSequence (element : Nat → List Char → Option (α × List Char)) (close : Char)
    (all : Nat → List Char → Option (List α × List Char)) : Prop where
  close_eq : close = ']' ∨ close = '}'
  succ : ∀ depth cs, all (depth + 1) cs = (element depth cs).bind fun (a, cs) =>
    behindElement close (all depth) a cs
  eq_none_of_close : ∀ depth cs, (skipSpace cs).head? = some close → element depth cs = none

section Behind

variable {close : Char} {more : List Char → Option (List α × List Char)} {a : α}
  {cs rest : List Char}

theorem behindElement_comma (h : skipSpace cs = ',' :: rest) :
    behindElement close more a cs = (more rest).map fun (as, rest) => (a :: as, rest) := by
  rw [behindElement, h]
  exact if_pos rfl

theorem behindElement_close (hclose : close ≠ ',') (h : skipSpace cs = close :: rest) :
    behindElement close more a cs = some ([a], rest) := by
  rw [behindElement, h]
  exact (if_neg hclose).trans (if_pos rfl)

theorem behindElement_other (hcomma : ∀ rest, skipSpace cs ≠ ',' :: rest)
    (hclose : ∀ rest, skipSpace cs ≠ close :: rest) : behindElement close more a cs = none := by
  rw [behindElement]
  split
  · rfl
  · next c rest hskip =>
    rw [if_neg, if_neg]
    · rintro rfl
      exact hclose rest hskip
    · rintro rfl
      exact hcomma rest hskip

theorem behindElement_eq_some {as : List α} (h : behindElement close more a cs = some (as, rest)) :
    (∃ left tail, skipSpace cs = ',' :: left ∧ more left = some (tail, rest) ∧ as = a :: tail) ∨
      skipSpace cs = close :: rest ∧ as = [a] := by
  rw [behindElement] at h
  split at h
  · cases h
  · next c left hskip =>
    split at h
    · next hcomma =>
      subst hcomma
      obtain ⟨⟨tail, _⟩, htail, heq⟩ := Option.map_eq_some_iff.1 h
      cases heq
      exact .inl ⟨left, tail, hskip, htail, rfl⟩
    · split at h
      · next hclose =>
        subst hclose
        cases h
        exact .inr ⟨hskip, rfl⟩
      · cases h

end Behind

/-- A reader reads a text and no more than that, as far as its depth goes. -/
def TakesAt (read : Nat → List Char → Option (α × List Char)) (depth : Nat) : Prop :=
  ∀ cs a rest, read depth cs = some (a, rest) →
    ∃ text, cs = text ++ rest ∧ TakesWithin read 0 text a

/-- A reader of a sequence reads a text up to the closing character, as far as its depth goes. -/
def TakesClosedAt (all : Nat → List Char → Option (List α × List Char)) (close : Char)
    (depth : Nat) : Prop :=
  ∀ cs as rest, all depth cs = some (as, rest) →
    ∃ text, cs = text ++ close :: rest ∧ TakesWithin all 1 (text ++ [close]) as

variable {element : Nat → List Char → Option (α × List Char)} {close : Char}
  {all : Nat → List Char → Option (List α × List Char)}

theorem IsSequence.close_ne_comma (h : IsSequence element close all) : close ≠ ',' := by
  rcases h.close_eq with hclose | hclose <;> rw [hclose] <;> decide

theorem IsSequence.isSpace_close (h : IsSequence element close all) : isSpace close = false := by
  rcases h.close_eq with hclose | hclose <;> rw [hclose] <;> decide

/-- One element in front of the closing character is a sequence. -/
theorem IsSequence.takesWithin_singleton (h : IsSequence element close all) {text space : List Char}
    {a : α} (htakes : TakesWithin element 0 text a) (hspace : AllSpace space) :
    TakesWithin all 1 (text ++ space ++ [close]) [a] := by
  refine .of_succ (by simp) fun depth hdepth rest hrest => ?_
  simp only [List.length_append, List.length_cons, List.length_nil] at hdepth
  have hread := htakes depth (by omega) _ (endsNumeral_append hspace (.inr h.close_eq) rest)
  rw [show text ++ space ++ [close] ++ rest = text ++ (space ++ close :: rest) by simp, h.succ,
    hread, Option.bind_some]
  refine behindElement_close h.close_ne_comma ?_
  rw [skipSpace_append hspace, skipSpace_cons h.isSpace_close]

/-- An element and a comma in front of a sequence make a longer one. -/
theorem IsSequence.takesWithin_cons (h : IsSequence element close all)
    {text space tail : List Char} {a : α} {as : List α} (htakes : TakesWithin element 0 text a)
    (hspace : AllSpace space) (htail : TakesWithin all 1 (tail ++ [close]) as) :
    TakesWithin all 1 (text ++ (space ++ ',' :: tail) ++ [close]) (a :: as) := by
  refine .of_succ (by simp) fun depth hdepth rest hrest => ?_
  simp only [List.length_append, List.length_cons, List.length_nil] at hdepth
  have hread := htakes depth (by omega) _
    (endsNumeral_append hspace (.inl rfl) (tail ++ [close] ++ rest))
  have hmore := htail depth (by simp; omega) rest hrest
  rw [show text ++ (space ++ ',' :: tail) ++ [close] ++ rest =
      text ++ (space ++ ',' :: (tail ++ [close] ++ rest)) by simp, h.succ, hread, Option.bind_some]
  dsimp only
  rw [behindElement_comma (by rw [skipSpace_append hspace, skipSpace_cons (by decide)]), hmore]
  rfl

/-- **What a sequence is read from** ends with its closing character. -/
theorem IsSequence.takesClosedAt_succ (h : IsSequence element close all) {depth : Nat}
    (helement : TakesAt element depth) (hall : TakesClosedAt all close depth) :
    TakesClosedAt all close (depth + 1) := by
  intro cs as rest hread
  rw [h.succ, Option.bind_eq_some_iff] at hread
  obtain ⟨⟨a, behind⟩, ha, hread⟩ := hread
  obtain ⟨text, rfl, htakes⟩ := helement _ _ _ ha
  rcases behindElement_eq_some hread with ⟨left, tail, hskip, htail, rfl⟩ | ⟨hskip, rfl⟩
  · obtain ⟨space, hspace, -, rfl⟩ := skipSpace_eq_cons hskip
    obtain ⟨text', rfl, htakes'⟩ := hall _ _ _ htail
    exact ⟨text ++ (space ++ ',' :: text'), by simp, h.takesWithin_cons htakes hspace htakes'⟩
  · obtain ⟨space, hspace, -, rfl⟩ := skipSpace_eq_cons hskip
    exact ⟨text ++ space, by simp, h.takesWithin_singleton htakes hspace⟩

/-- The items of an array are a sequence. -/
theorem isSequence_items : IsSequence readForm? ']' readItems? where
  close_eq := .inl rfl
  succ depth cs := by
    rw [readItems?]
    refine congrArg (Option.bind _) (funext fun (item, behind) => ?_)
    dsimp only
    split
    · next hskip =>
      rw [behindElement_comma hskip]
      cases readItems? depth _ <;> rfl
    · next hskip => exact (behindElement_close (by decide) hskip).symm
    · next hcomma hclose => exact (behindElement_other hcomma hclose).symm
  eq_none_of_close depth cs hclose := by
    obtain ⟨rest, hskip⟩ := List.head?_eq_some_iff.1 hclose
    obtain ⟨space, hspace, hc, rfl⟩ := skipSpace_eq_cons hskip
    rw [readForm?_append _ _ hspace]
    cases depth with
    | zero => rw [readForm?]
    | succ depth =>
      rw [readForm?_other _ _ hc (by decide)]
      rfl

/-- The text behind a colon, with white space in front of the colon. -/
def afterColon? (cs : List Char) : Option (List Char) :=
  match skipSpace cs with
  | ':' :: rest => some rest
  | _ => none

theorem afterColon?_eq_some {cs rest : List Char} :
    afterColon? cs = some rest ↔ skipSpace cs = ':' :: rest := by
  rw [afterColon?]
  constructor
  · intro h
    split at h
    · next hskip =>
      cases h
      exact hskip
    · cases h
  · intro h
    simp [h]

/-- One member of an object. -/
def readMember? (depth : Nat) (cs : List Char) :
    Option ((Option String × Form) × List Char) :=
  match skipSpace cs with
  | [] => none
  | quote :: cs =>
    if quote.toNat ≠ 0x22 then none
    else (readString? cs).bind fun (name, cs) => (afterColon? cs).bind fun cs =>
      (readForm? depth cs).map fun (value, rest) => ((name, value), rest)

/-- The members of an object are a sequence. -/
theorem isSequence_members : IsSequence readMember? '}' readMembers? where
  close_eq := .inr rfl
  succ depth cs := by
    rw [readMembers?, readMember?]
    cases skipSpace cs with
    | nil => rfl
    | cons quote cs =>
      dsimp only
      split
      · rfl
      · simp only [Option.bind_eq_bind, Option.bind_assoc]
        refine congrArg (Option.bind _) (funext fun (name, cs) => ?_)
        dsimp only
        split
        · next hskip =>
          rw [afterColon?_eq_some.2 hskip, Option.bind_some, Option.bind_map]
          refine congrArg (Option.bind _) (funext fun (value, behind) => ?_)
          dsimp only [Function.comp_apply]
          split
          · next hskip =>
            rw [behindElement_comma hskip]
            cases readMembers? depth _ <;> rfl
          · next hskip => exact (behindElement_close (by decide) hskip).symm
          · next hcomma hclose => exact (behindElement_other hcomma hclose).symm
        · next hcolon =>
          have hnone : afterColon? cs = none := Option.eq_none_iff_forall_ne_some.2
            fun rest hrest => hcolon rest (afterColon?_eq_some.1 hrest)
          rw [hnone]
          rfl
  eq_none_of_close depth cs hclose := by
    obtain ⟨rest, hskip⟩ := List.head?_eq_some_iff.1 hclose
    rw [readMember?, hskip]
    rfl

/-- A name, a colon and a value are a member, whatever white space is between them. -/
theorem takesWithin_readMember? {quote : Char} {space space' text text' : List Char}
    {name : Option String} {value : Form} (hquote : quote.toNat = 0x22) (hspace : AllSpace space)
    (hspace' : AllSpace space') (hname : Takes readString? (fun _ => True) text name)
    (hvalue : TakesWithin readForm? 0 text' value) :
    TakesWithin readMember? 0 (space ++ quote :: (text ++ (space' ++ ':' :: text')))
      (name, value) := by
  intro depth hdepth rest hrest
  simp only [List.length_append, List.length_cons] at hdepth
  have hafter : afterColon? (space' ++ ':' :: (text' ++ rest)) = some (text' ++ rest) := by
    rw [afterColon?_eq_some, skipSpace_append hspace', skipSpace_cons (by decide)]
  rw [show space ++ quote :: (text ++ (space' ++ ':' :: text')) ++ rest =
      space ++ quote :: (text ++ (space' ++ ':' :: (text' ++ rest))) by simp, readMember?,
    skipSpace_append hspace, skipSpace_cons (isSpace_of_quote hquote)]
  dsimp only
  rw [if_neg (not_not_intro hquote), hname _ trivial, Option.bind_some]
  dsimp only
  rw [hafter, Option.bind_some, hvalue depth (by omega) rest hrest]
  rfl

/-- A member is read from its own text if its value is. -/
theorem takesAt_readMember? {depth : Nat} (h : TakesAt readForm? depth) :
    TakesAt readMember? depth := by
  intro cs member rest hread
  rw [readMember?] at hread
  split at hread
  · cases hread
  · next quote cs' hskip =>
    obtain ⟨space, hspace, -, rfl⟩ := skipSpace_eq_cons hskip
    split at hread
    · cases hread
    · next hquote =>
      rw [Option.bind_eq_some_iff] at hread
      obtain ⟨⟨name, behind⟩, hname, hread⟩ := hread
      obtain ⟨text, rfl, hntakes⟩ := exists_takes_readString? hname
      dsimp only at hread
      rw [Option.bind_eq_some_iff] at hread
      obtain ⟨cs', hafter, hread⟩ := hread
      obtain ⟨space', hspace', -, rfl⟩ := skipSpace_eq_cons (afterColon?_eq_some.1 hafter)
      obtain ⟨⟨value, left⟩, hvalue, heq⟩ := Option.map_eq_some_iff.1 hread
      cases heq
      obtain ⟨text', rfl, hvtakes⟩ := h _ _ _ hvalue
      exact ⟨space ++ quote :: (text ++ (space' ++ ':' :: text')), by simp,
        takesWithin_readMember? (not_not.1 hquote) hspace hspace' hntakes hvtakes⟩

/-- **The text of a form**: it is read from it at any depth that is enough, there is no white space
in front, and an array or an object is enclosed. -/
structure IsText (text : List Char) (f : Form) : Prop where
  takes : TakesWithin readForm? 0 text f
  head : ∃ c rest, text = c :: rest ∧ isSpace c = false
  array : ∀ items, f = .array items → ∃ inside, text = '[' :: inside ++ [']']
  object : ∀ members, f = .object members → ∃ inside, text = '{' :: inside ++ ['}']

/-- A word is the text of what it stands for. -/
theorem isText_word {c : Char} {word : String} {f : Form} (hc : isSpace c = false)
    (harray : ∀ items, f ≠ .array items) (hobject : ∀ members, f ≠ .object members)
    (heq : ∀ depth cs, readForm? (depth + 1) (c :: cs) = (word.toList.isPrefixOf? cs).map (f, ·)) :
    IsText (c :: word.toList) f where
  takes := .of_succ (by simp) fun depth _ rest _ => by
    rw [List.cons_append, heq, List.isPrefixOf?_eq_some_iff_append_eq.2 rfl]
    rfl
  head := ⟨_, _, rfl, hc⟩
  array items h := absurd h (harray items)
  object members h := absurd h (hobject members)

theorem exists_isText_word {depth : Nat} {c : Char} {cs rest : List Char} {word : String}
    {f g : Form} (hc : isSpace c = false) (harray : ∀ items, g ≠ .array items)
    (hobject : ∀ members, g ≠ .object members)
    (heq : ∀ depth cs, readForm? (depth + 1) (c :: cs) = (word.toList.isPrefixOf? cs).map (g, ·))
    (hread : readForm? (depth + 1) (c :: cs) = some (f, rest)) :
    ∃ text, c :: cs = text ++ rest ∧ IsText text f := by
  rw [heq] at hread
  obtain ⟨_, hword, hf⟩ := Option.map_eq_some_iff.1 hread
  cases hf
  obtain rfl := List.append_eq_of_isPrefixOf?_eq_some hword
  exact ⟨c :: word.toList, rfl, isText_word hc harray hobject heq⟩

/-- A string in its quotes is the text of the string. -/
theorem isText_string {c : Char} {text : List Char} {string : Option String}
    (hquote : c.toNat = 0x22) (h : Takes readString? (fun _ => True) text string) :
    IsText (c :: text) (.string string) where
  takes := .of_succ (by simp) fun depth _ rest _ => by
    have hother : c ∉ ['n', 't', 'f', '[', '{'] := by
      simp only [List.mem_cons, List.not_mem_nil, or_false]
      rintro (rfl | rfl | rfl | rfl | rfl) <;> exact absurd hquote (by decide)
    rw [List.cons_append, readForm?_other _ _ (isSpace_of_quote hquote) hother, if_pos hquote,
      h rest trivial]
    rfl
  head := ⟨_, _, rfl, isSpace_of_quote hquote⟩
  array := nofun
  object := nofun

/-- A number is the text of the number. -/
theorem isText_number {c : Char} {text : List Char} {x : Numeral} (hc : isSpace c = false)
    (hother : c ∉ ['n', 't', 'f', '[', '{']) (hquote : c.toNat ≠ 0x22)
    (h : Takes readNumeral? EndsNumeral (c :: text) x) : IsText (c :: text) (.number x) where
  takes := .of_succ (by simp) fun depth _ rest hrest => by
    rw [List.cons_append, readForm?_other _ _ hc hother, if_neg hquote, ← List.cons_append,
      h rest hrest]
    rfl
  head := ⟨_, _, rfl, hc⟩
  array := nofun
  object := nofun

/-- Nothing but white space between brackets is read as no elements. -/
theorem takesWithin_empty {first : Char} {wrap : List α → Form} {space : List Char}
    (heq : ∀ depth cs, readForm? (depth + 1) (first :: cs) =
      readEnclosed? close wrap (all depth) cs)
    (hspace : AllSpace space) (hclose : isSpace close = false) :
    TakesWithin readForm? 0 (first :: space ++ [close]) (wrap []) := by
  refine .of_succ (by simp) fun depth _ rest _ => ?_
  rw [show first :: space ++ [close] ++ rest = first :: (space ++ close :: rest) by simp, heq,
    readEnclosed?, skipSpace_append hspace, skipSpace_cons hclose]
  exact if_pos rfl

/-- A sequence does not begin with the character that closes it. -/
theorem IsSequence.head?_skipSpace_ne (h : IsSequence element close all) {depth : Nat}
    {cs : List Char} {r : List α × List Char} (hread : all (depth + 1) cs = some r) :
    (skipSpace cs).head? ≠ some close := by
  intro hclose
  rw [h.succ, h.eq_none_of_close depth cs hclose] at hread
  cases hread

/-- **A sequence between brackets** is read as one form. -/
theorem IsSequence.takesWithin_brackets (h : IsSequence element close all) {first : Char}
    {wrap : List α → Form} {inside : List Char} {as : List α}
    (heq : ∀ depth cs, readForm? (depth + 1) (first :: cs) =
      readEnclosed? close wrap (all depth) cs)
    (hall : TakesWithin all 1 (inside ++ [close]) as) :
    TakesWithin readForm? 0 (first :: inside ++ [close]) (wrap as) := by
  refine .of_succ (by simp) fun depth hdepth rest hrest => ?_
  simp only [List.length_append, List.length_cons, List.length_nil] at hdepth
  obtain ⟨depth, rfl⟩ : ∃ d, depth = d + 1 := ⟨depth - 1, by omega⟩
  have hread := hall (depth + 1) (by simp; omega) rest hrest
  rw [List.append_assoc, List.singleton_append] at hread
  rw [show first :: inside ++ [close] ++ rest = first :: (inside ++ close :: rest) by simp, heq,
    readEnclosed?, if_neg (h.head?_skipSpace_ne hread), hread]
  rfl

/-- **What stands between brackets** is read as one form. -/
theorem IsSequence.exists_inside (h : IsSequence element close all) {first : Char}
    {wrap : List α → Form} {depth : Nat} {cs rest : List Char} {f : Form}
    (heq : ∀ depth cs, readForm? (depth + 1) (first :: cs) =
      readEnclosed? close wrap (all depth) cs)
    (hall : TakesClosedAt all close depth)
    (hread : readForm? (depth + 1) (first :: cs) = some (f, rest)) :
    ∃ inside as, cs = inside ++ close :: rest ∧ f = wrap as ∧
      TakesWithin readForm? 0 (first :: inside ++ [close]) f := by
  rw [heq, readEnclosed?] at hread
  dsimp only at hread
  split at hread
  · next hempty =>
    cases hread
    obtain ⟨rest, hskip⟩ := List.head?_eq_some_iff.1 hempty
    obtain ⟨space, hspace, hclose, rfl⟩ := skipSpace_eq_cons hskip
    exact ⟨space, [], by rw [hskip]; rfl, rfl, takesWithin_empty heq hspace hclose⟩
  · obtain ⟨⟨as, _⟩, has, hf⟩ := Option.map_eq_some_iff.1 hread
    cases hf
    obtain ⟨inside, rfl, htakes⟩ := hall _ _ _ has
    exact ⟨inside, as, rfl, rfl, h.takesWithin_brackets heq htakes⟩

/-- A form is read from its own text, if items and members below it are. -/
theorem exists_isText_cons {depth : Nat} {c : Char} {cs rest : List Char} {f : Form}
    (hc : isSpace c = false)
    (hitems : TakesClosedAt readItems? ']' depth)
    (hmembers : TakesClosedAt readMembers? '}' depth)
    (hread : readForm? (depth + 1) (c :: cs) = some (f, rest)) :
    ∃ text, c :: cs = text ++ rest ∧ IsText text f := by
  by_cases hother : c ∈ ['n', 't', 'f', '[', '{']
  · simp only [List.mem_cons, List.not_mem_nil, or_false] at hother
    rcases hother with rfl | rfl | rfl | rfl | rfl
    · exact exists_isText_word hc (by simp) (by simp) readForm?_null hread
    · exact exists_isText_word hc (by simp) (by simp) readForm?_true hread
    · exact exists_isText_word hc (by simp) (by simp) readForm?_false hread
    · obtain ⟨inside, items, rfl, rfl, htakes⟩ :=
        isSequence_items.exists_inside readForm?_array hitems hread
      exact ⟨'[' :: inside ++ [']'], by simp, htakes, ⟨_, _, rfl, hc⟩, fun _ _ => ⟨inside, rfl⟩,
        by simp⟩
    · obtain ⟨inside, members, rfl, rfl, htakes⟩ :=
        isSequence_members.exists_inside readForm?_object hmembers hread
      exact ⟨'{' :: inside ++ ['}'], by simp, htakes, ⟨_, _, rfl, hc⟩, by simp,
        fun _ _ => ⟨inside, rfl⟩⟩
  · rw [readForm?_other _ _ hc hother] at hread
    split at hread
    · next hquote =>
      obtain ⟨⟨string, _⟩, hstring, heq⟩ := Option.map_eq_some_iff.1 hread
      cases heq
      obtain ⟨text, rfl, htakes⟩ := exists_takes_readString? hstring
      exact ⟨c :: text, rfl, isText_string hquote htakes⟩
    · next hquote =>
      obtain ⟨⟨x, _⟩, hx, heq⟩ := Option.map_eq_some_iff.1 hread
      cases heq
      obtain ⟨text, hne, htext, htakes⟩ := exists_takes_readNumeral? hx
      obtain ⟨first, text, rfl⟩ := List.exists_cons_of_ne_nil hne
      obtain ⟨rfl, -⟩ := List.cons.inj htext
      exact ⟨c :: text, htext, isText_number hc hother hquote htakes⟩

/-- **A form is read from its own text**, behind white space, and so are the items and the members
of one. -/
theorem exists_texts (depth : Nat) :
    (∀ cs f rest, readForm? depth cs = some (f, rest) →
      ∃ space text, AllSpace space ∧ cs = space ++ text ++ rest ∧ IsText text f) ∧
    TakesClosedAt readItems? ']' depth ∧ TakesClosedAt readMembers? '}' depth := by
  induction depth with
  | zero => exact ⟨nofun, nofun, nofun⟩
  | succ depth ih =>
    obtain ⟨hform, hitems, hmembers⟩ := ih
    have hat : TakesAt readForm? depth := by
      intro cs f rest hread
      obtain ⟨space, text, hspace, rfl, htext⟩ := hform cs f rest hread
      refine ⟨space ++ text, rfl, fun e he rest' hrest' => ?_⟩
      rw [List.append_assoc, readForm?_append _ _ hspace]
      exact htext.takes e (by simp at he; omega) rest' hrest'
    refine ⟨fun cs f rest hread => ?_, isSequence_items.takesClosedAt_succ hat hitems,
      isSequence_members.takesClosedAt_succ (takesAt_readMember? hat) hmembers⟩
    cases hskip : skipSpace cs with
    | nil =>
      rw [readForm?, hskip] at hread
      cases hread
    | cons c cs' =>
      obtain ⟨space, hspace, hc, rfl⟩ := skipSpace_eq_cons hskip
      rw [readForm?_append _ _ hspace] at hread
      obtain ⟨text, htext, hread⟩ := exists_isText_cons hc hitems hmembers hread
      exact ⟨space, text, hspace, by rw [htext, List.append_assoc], hread⟩

/-! ### Whole texts -/

/-- **A text has a form** exactly if it is the form's own text with white space around it. -/
theorem Form.parseChars?_eq_some {cs : List Char} {f : Form} :
    Form.parseChars? cs = some f ↔ ∃ space text tail, AllSpace space ∧ AllSpace tail ∧
      cs = space ++ text ++ tail ∧ IsText text f := by
  rw [Form.parseChars?]
  simp only [Option.bind_eq_bind, Option.bind_eq_some_iff, Option.ite_none_right_eq_some,
    List.isEmpty_iff, skipSpace_eq_nil]
  constructor
  · rintro ⟨⟨_, tail⟩, hread, htail, heq⟩
    cases heq
    obtain ⟨space, text, hspace, hcs, htext⟩ := (exists_texts _).1 _ _ _ hread
    exact ⟨space, text, tail, hspace, htail, hcs, htext⟩
  · rintro ⟨space, text, tail, hspace, htail, rfl, htext⟩
    refine ⟨(f, tail), ?_, htail, rfl⟩
    rw [List.append_assoc, readForm?_append _ _ hspace]
    exact htext.takes _ (by simp; omega) _ (endsNumeral_of_allSpace htail)

/-- What stands behind the opening brace of an object begins with a name or is its end. -/
theorem head?_of_readForm?_object {depth : Nat} {cs rest : List Char} {f : Form}
    (h : readForm? depth ('{' :: cs) = some (f, rest)) :
    ∃ c, (skipSpace cs).head? = some c ∧ (c = '}' ∨ c.toNat = 0x22) := by
  cases depth with
  | zero => cases h
  | succ depth =>
    rw [readForm?_object, readEnclosed?] at h
    dsimp only at h
    split at h
    · next hclose => exact ⟨'}', hclose, .inl rfl⟩
    · obtain ⟨⟨members, _⟩, hmembers, -⟩ := Option.map_eq_some_iff.1 h
      cases depth with
      | zero => cases hmembers
      | succ depth =>
        rw [isSequence_members.succ, Option.bind_eq_some_iff] at hmembers
        obtain ⟨_, hmember, -⟩ := hmembers
        rw [readMember?] at hmember
        split at hmember
        · cases hmember
        · next quote cs' hskip =>
          refine ⟨quote, by rw [hskip]; rfl, .inr ?_⟩
          by_contra hquote
          rw [if_pos hquote] at hmember
          cases hmember

end AddressTrace.Json
