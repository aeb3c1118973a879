import AddressTrace.Abi.Argument
import AddressTrace.Proofs.Text.Hex

/-!
# Numbers in both spellings

A number may be given as an argument in hexadecimal, behind a marker, or in decimal.  The
hexadecimal spelling is always read as the number.  The decimal one goes to a reader that takes any
text of exactly 64 hexadecimal digits for a whole word, without asking for a marker, so a decimal
number of 64 digits is read in base sixteen.

## Main definitions

* `SpellsHex` — a text is a number in hexadecimal.

## Main statements

* `readHexUint_ofList` — digits behind a marker are read as the number that they denote;
* `readUint_toString` — how a decimal number is read;
* `spelled_alike` — the two spellings of a number are read alike unless the decimal one has 64
  digits.
-/

namespace AddressTrace.Abi

open Text

/-! ### Hexadecimal numbers -/

/-- The bytes of hexadecimal digits, of which there must be an even number. -/
theorem decodeHex_ofList {ds : List Char} {n : Nat} (h : hexNatFrom? 0 ds = some n) :
    (ds.length % 2 = 1 ∧ decodeHex (String.ofList ds) = .error .oddLength) ∨
      ∃ bytes, decodeHex (String.ofList ds) = .ok bytes ∧ 2 * bytes.length = ds.length ∧
        bytesNat bytes = n := by
  have hascii : ∀ c ∈ ds, c.toNat < 128 := fun c hc =>
    toNat_lt_of_isHexDigit (isHexDigit_of_hexNatFrom? h c hc)
  rw [decodeHex, toUTF8_ofList hascii, List.length_map]
  by_cases hodd : ds.length % 2 = 1
  · exact .inl ⟨hodd, if_pos hodd⟩
  · right
    rw [if_neg hodd]
    exact decodePairs_digits h (by omega) 0

/-- Hexadecimal digits have no marker in front. -/
theorem withoutMarker_ofList {ds : List Char} (h : ∀ c ∈ ds, isHexDigit c = true) :
    withoutMarker (String.ofList ds) = String.ofList ds := by
  unfold withoutMarker
  split
  · next rest heq =>
      rw [String.toList_ofList] at heq
      have hx : isHexDigit 'x' = true := h 'x' (by simp [heq])
      cases hx
  · rfl

/-- **Digits behind a marker are read as the number that they denote**, as long as there are not
more than 64. -/
theorem readHexUint_ofList {ds : List Char} {n : Nat} (h : hexNatFrom? 0 ds = some n)
    (hlength : ds.length ≤ 64) : readHexUint (String.ofList ds) = .ok n := by
  have hhex := isHexDigit_of_hexNatFrom? h
  have hsize : (String.ofList ds).utf8ByteSize = ds.length :=
    utf8ByteSize_ofList fun c hc => toNat_lt_of_isHexDigit (hhex c hc)
  rw [readHexUint, withoutMarker_ofList hhex]
  dsimp only
  rw [hsize, if_neg (by omega)]
  split
  · next heven =>
      rcases decodeHex_ofList h with ⟨hodd, -⟩ | ⟨bytes, hbytes, -, hvalue⟩
      · omega
      · rw [hbytes, ← hvalue]
        rfl
  · next hodd =>
      have hzero : hexNatFrom? 0 ('0' :: ds) = some n := hexNatFrom?_cons.2 ⟨0, rfl, h⟩
      have htext : "0" ++ String.ofList ds = String.ofList ('0' :: ds) := by
        simp
      rw [htext]
      rcases decodeHex_ofList hzero with ⟨hodd', -⟩ | ⟨bytes, hbytes, -, hvalue⟩
      · rw [List.length_cons] at hodd'
        omega
      · rw [hbytes, ← hvalue]
        rfl

/-! ### Decimal numbers -/

theorem le_ofDigitChars (ds : List Char) (n : Nat) : n ≤ Nat.ofDigitChars 10 ds n := by
  rw [Nat.ofDigitChars_eq_ofDigitChars_zero]
  have := Nat.one_le_pow ds.length 10 (by decide)
  nlinarith

/-- Decimal digits are read as the number that they denote if it fits into a word. -/
theorem readDecimalFrom_eq {ds : List Char} (hdigits : ∀ c ∈ ds, c.isDigit) {n : Nat}
    (h : Nat.ofDigitChars 10 ds n < wordLimit) :
    readDecimalFrom n ds = .ok (Nat.ofDigitChars 10 ds n) := by
  induction ds generalizing n with
  | nil => rfl
  | cons c cs ih =>
      rw [Nat.ofDigitChars_cons] at h ⊢
      have hlt := Nat.lt_of_le_of_lt (le_ofDigitChars cs _) h
      rw [readDecimalFrom, hdigits c List.mem_cons_self]
      simp only [Bool.not_true, Bool.false_eq_true, if_false, if_neg (Nat.not_le.2 hlt)]
      exact ih (fun d hd => hdigits d (List.mem_cons_of_mem c hd)) h

/-- **How a decimal number is read**: as the number that it is, or in base sixteen if it has exactly
64 digits. -/
theorem readUint_toString {n : Nat} (hn : n < wordLimit) :
    readUint (toString n) = .ok (if (toString n).length = 64
      then Nat.ofDigitChars 16 (toString n).toList 0 else n) := by
  have htext : toString n = String.ofList (Nat.toDigits 10 n) := Nat.toString_eq_ofList_toDigits
  have hdigits : ∀ c ∈ Nat.toDigits 10 n, c.isDigit := fun c hc =>
    Nat.isDigit_of_mem_toDigits (by decide) (by decide) hc
  have hvalue : Nat.ofDigitChars 10 (Nat.toDigits 10 n) 0 = n := Nat.ofDigitChars_ten_toDigits
  rw [readUint, fullHex?, htext, String.length_ofList, String.toList_ofList]
  have hdecimal : readAmount (Nat.toDigits 10 n) = .ok n := by
    rw [readAmount, readDecimal, readDecimalFrom_eq hdigits (by rw [hvalue]; exact hn), hvalue]
  rcases decodeHex_ofList (hexNatFrom?_of_isDigit hdigits 0) with
    ⟨hodd, herror⟩ | ⟨bytes, hbytes, hlength, hnumber⟩
  · rw [herror, if_neg (by omega)]
    exact hdecimal
  · rw [hbytes]
    dsimp only
    by_cases h64 : bytes.length = 32
    · rw [if_pos h64, if_pos (by omega), hnumber]
    · rw [if_neg h64, if_neg (by omega)]
      exact hdecimal

/-- In base sixteen the decimal digits of a number denote a greater one, unless it has one digit. -/
theorem lt_ofDigitChars_sixteen {n : Nat} (hn : 10 ≤ n) :
    n < Nat.ofDigitChars 16 (Nat.toDigits 10 n) 0 := by
  induction n using Nat.strongRecOn with
  | ind n ih =>
      have hlast : (Nat.digitChar (n % 10)).toNat - '0'.toNat = n % 10 :=
        Nat.toNat_digitChar_sub_48_of_lt_ten (Nat.mod_lt n (by decide))
      rw [Nat.toDigits_eq_if (by decide), if_neg (by omega), Nat.ofDigitChars_append,
        Nat.ofDigitChars_cons, Nat.ofDigitChars_nil, hlast]
      have hbefore : n / 10 ≤ Nat.ofDigitChars 16 (Nat.toDigits 10 (n / 10)) 0 := by
        by_cases hten : 10 ≤ n / 10
        · exact Nat.le_of_lt (ih (n / 10) (by omega) hten)
        · have hdigit := Nat.toNat_digitChar_sub_48_of_lt_ten (n := n / 10) (by omega)
          rw [Nat.toDigits_of_lt_base (by omega), Nat.ofDigitChars_cons, Nat.ofDigitChars_nil,
            Nat.mul_zero, Nat.zero_add]
          exact Nat.le_of_eq hdigit.symm
      omega

/-! ### Whole arguments -/

/-- **A text is a number in hexadecimal**: a marker, and the digits of the number in base sixteen,
each letter of them a small one or a capital. -/
def SpellsHex (text : String) (n : Nat) : Prop :=
  ∃ marker ds, (marker = 'x' ∨ marker = 'X') ∧ text = String.ofList ('0' :: marker :: ds) ∧
    ds.map Char.toLower = Nat.toDigits 16 n

/-- **A number in hexadecimal is read as the number that it is.** -/
theorem SpellsHex.readArgument_eq {text : String} {n : Nat} (h : SpellsHex text n)
    (hn : n < wordLimit) (bits : Nat) : (Kind.uint bits).readArgument text = .ok (.uint n) := by
  obtain ⟨marker, ds, hmarker, rfl, hds⟩ := h
  have hlength : ds.length ≤ 64 := by
    have hsame : (ds.map Char.toLower).length = ds.length := List.length_map Char.toLower
    rw [← hsame, hds, Nat.length_toDigits_le_iff (by decide) (by decide)]
    exact hn
  have hbehind : behindMarker? (String.ofList ('0' :: marker :: ds)) = some (String.ofList ds) := by
    rcases hmarker with rfl | rfl <;> simp [behindMarker?]
  simp only [Kind.readArgument, hbehind, readHexUint_ofList (hexNatFrom?_of_toDigits hds) hlength]
  rfl

/-- A decimal number has no marker. -/
theorem behindMarker?_toString (n : Nat) : behindMarker? (toString n) = none := by
  have hdigits : ∀ c ∈ Nat.toDigits 10 n, c.isDigit := fun c hc =>
    Nat.isDigit_of_mem_toDigits (by decide) (by decide) hc
  rw [behindMarker?, Nat.toString_eq_ofList_toDigits, String.toList_ofList]
  split
  · next rest heq => exact absurd (hdigits 'x' (by simp [heq])) (by decide)
  · next rest heq => exact absurd (hdigits 'X' (by simp [heq])) (by decide)
  · rfl

theorem readArgument_toString {n : Nat} (hn : n < wordLimit) (bits : Nat) :
    (Kind.uint bits).readArgument (toString n) =
      .ok (.uint (if (toString n).length = 64 then Nat.ofDigitChars 16 (toString n).toList 0
        else n)) := by
  simp only [Kind.readArgument, behindMarker?_toString, Kind.read, readUint_toString hn]
  rfl

/-- Two texts that are read alike can stand for one another among the arguments. -/
theorem readArgumentList_congr {k : Kind} {a b : String} (h : k.readArgument a = k.readArgument b)
    (after : List String) {ks : List Kind} {before : List String}
    (hk : ks[before.length]? = some k) :
    readArgumentList ks (before ++ a :: after) = readArgumentList ks (before ++ b :: after) := by
  induction before generalizing ks with
  | nil =>
      cases ks with
      | nil => cases hk
      | cons k' ks =>
          obtain rfl : k' = k := by simpa using hk
          rw [List.nil_append, List.nil_append, readArgumentList, readArgumentList, h]
  | cons text before ih =>
      cases ks with
      | nil => cases hk
      | cons k' ks =>
          rw [List.cons_append, List.cons_append, readArgumentList, readArgumentList, ih hk]

/-- **The two spellings of a number are read alike**, as the number that it is, unless the decimal
one has exactly 64 digits.  Where a function takes a number without a sign, of whatever size, either
spelling may then stand for the other. -/
theorem spelled_alike {n : Nat} (hn : n < wordLimit) {hex : String} (hhex : SpellsHex hex n)
    (bits : Nat) :
    (Kind.uint bits).readArgument hex = .ok (.uint n) ∧
      ((Kind.uint bits).readArgument (toString n) = .ok (.uint n) ↔ (toString n).length ≠ 64) ∧
      ((toString n).length ≠ 64 → ∀ (m : Method) (before after : List String),
        m.inputs[before.length]? = some (.uint bits) →
          m.readArguments (before ++ hex :: after) =
            m.readArguments (before ++ toString n :: after)) := by
  have hread := hhex.readArgument_eq hn bits
  have hdecimal : (toString n).length ≠ 64 →
      (Kind.uint bits).readArgument (toString n) = .ok (.uint n) := by
    intro hlength
    rw [readArgument_toString hn, if_neg hlength]
  refine ⟨hread, ⟨?_, hdecimal⟩, ?_⟩
  · intro heq hlength
    rw [readArgument_toString hn, if_pos hlength] at heq
    have hvalue : Nat.ofDigitChars 16 (toString n).toList 0 = n := by simpa using heq
    rw [Nat.toString_eq_ofList_toDigits, String.toList_ofList] at hvalue
    -- A number below ten has one digit.
    have hten : 10 ≤ n := by
      by_contra hlt
      rw [Nat.toString_eq_ofList_toDigits, String.length_ofList,
        Nat.toDigits_of_lt_base (by omega)] at hlength
      cases hlength
    exact absurd hvalue (Nat.ne_of_gt (lt_ofDigitChars_sixteen hten))
  · intro hlength m before after hk
    have hsame := hread.trans (hdecimal hlength).symm
    rw [Method.readArguments, Method.readArguments, readArgumentList_congr hsame after hk,
      List.length_append, List.length_append, List.length_cons, List.length_cons]

/-- The fee of a pool, in hexadecimal with capitals and in decimal, as the second argument of a
function. -/
theorem spelled_alike_fee :
    3000 < wordLimit ∧ SpellsHex "0XBB8" 3000 ∧
      (Kind.uint 24).readArgument "0XBB8" = .ok (.uint 3000) ∧
      ∀ m : Method, m.inputs[1]? = some (.uint 24) →
        m.readArguments ["weth", "0XBB8"] = m.readArguments ["weth", "3000"] := by
  have hn : 3000 < wordLimit := by decide
  have hhex : SpellsHex "0XBB8" 3000 := ⟨'X', ['B', 'B', '8'], .inr rfl, by decide, by decide⟩
  obtain ⟨hread, -, hreplace⟩ := spelled_alike hn hhex 24
  refine ⟨hn, hhex, hread, fun m hm => ?_⟩
  exact hreplace (by decide) m ["weth"] [] hm

/-- The least decimal number of 64 digits is not read as it is in hexadecimal. -/
theorem not_spelled_alike_of_64_digits :
    ¬ ∀ (n : Nat) (hex : String), n < wordLimit → SpellsHex hex n →
      (Kind.uint 256).readArgument hex = (Kind.uint 256).readArgument (toString n) := by
  intro halike
  have hn : 10 ^ 63 < wordLimit := by decide
  have hhex : SpellsHex "0x26e4d30eccc3215dd8f3157d27e23acbdcfe68000000000000000" (10 ^ 63) :=
    ⟨'x', "26e4d30eccc3215dd8f3157d27e23acbdcfe68000000000000000".toList, .inl rfl,
      by decide +kernel, by decide +kernel⟩
  have heq := halike _ _ hn hhex
  rw [hhex.readArgument_eq hn, readArgument_toString hn] at heq
  have hvalue : Nat.ofDigitChars 16 (toString (10 ^ 63)).toList 0 ≠ 10 ^ 63 := by decide +kernel
  have hlength : (toString (10 ^ 63)).length = 64 := by decide +kernel
  rw [if_pos hlength] at heq
  exact hvalue (by simpa using heq.symm)

end AddressTrace.Abi
