import AddressTrace.Proofs.Text.Bytes
import AddressTrace.Text.Hex
import Mathlib.Data.Nat.Digits.Defs
import Mathlib.Tactic.IntervalCases

/-!
# Reading and writing hexadecimal digits

Hexadecimal digits take one byte each, so the bytes that are read from pairs of digits make up the
number that the digits denote.  The digits of a number in base sixteen denote that number, be they
written with small letters or with capitals.

## Main definitions

* `hexNatFrom?` — the number that digits denote behind those that were read already.

## Main statements

* `decodePairs_digits` — the bytes of an even number of digits make up the number;
* `decodeHex_encodeHex` — bytes are read back from the digits that they were written in;
* `hexNat?_hexDigits` — four digits of a number below 256 are read back as the number;
* `hexNatFrom?_of_toDigits` — the digits of a number denote it, in either case;
* `hexNatFrom?_of_isDigit` — decimal digits can be read in base sixteen as well.
-/

namespace AddressTrace.Text

/-! ### Digits -/

theorem hexValue?_eq (c : Char) :
    hexValue? c =
      if 48 ≤ c.toNat ∧ c.toNat ≤ 57 then some (c.toNat - 48)
      else if 97 ≤ c.toNat ∧ c.toNat ≤ 102 then some (c.toNat - 97 + 10)
      else if 65 ≤ c.toNat ∧ c.toNat ≤ 70 then some (c.toNat - 65 + 10)
      else none := rfl

theorem toNat_of_isHexDigit {c : Char} (h : isHexDigit c = true) :
    (48 ≤ c.toNat ∧ c.toNat ≤ 57) ∨ (97 ≤ c.toNat ∧ c.toNat ≤ 102) ∨
      (65 ≤ c.toNat ∧ c.toNat ≤ 70) := by
  rw [isHexDigit, hexValue?_eq] at h
  split at h
  · next hdigit => exact .inl hdigit
  · split at h
    · next hlower => exact .inr (.inl hlower)
    · split at h
      · next hupper => exact .inr (.inr hupper)
      · cases h

theorem toNat_lt_of_isHexDigit {c : Char} (h : isHexDigit c = true) : c.toNat < 128 := by
  have hrange := toNat_of_isHexDigit h
  omega

theorem isHexDigit_of_hexValue? {c : Char} {v : Nat} (h : hexValue? c = some v) :
    isHexDigit c = true := by
  rw [isHexDigit, h, Option.isSome_some]

/-- A digit of the decimal system has the same value among the hexadecimal ones. -/
theorem hexValue?_of_isDigit {c : Char} (h : c.isDigit) :
    hexValue? c = some (c.toNat - '0'.toNat) := by
  have hrange : 48 ≤ c.toNat ∧ c.toNat ≤ 57 := by
    rw [Char.isDigit, Bool.and_eq_true, decide_eq_true_iff, decide_eq_true_iff] at h
    exact h
  rw [hexValue?_eq, if_pos hrange]
  rfl

/-- A letter has the value of its small form. -/
theorem hexValue?_toLower (c : Char) : hexValue? c.toLower = hexValue? c := by
  by_cases h : c.val ≥ 'A'.val ∧ c.val ≤ 'Z'.val
  · have hcapital : 65 ≤ c.toNat ∧ c.toNat ≤ 90 := h
    have hlower : c.toLower.toNat = c.toNat + 32 := by
      have hval : c.toLower.val = c.val + 32 := congrArg Char.val (dif_pos h : c.toLower = _)
      have hle : c.val.toNat ≤ 90 := hcapital.2
      show c.toLower.val.toNat = c.val.toNat + 32
      rw [hval, UInt32.toNat_add]
      exact Nat.mod_eq_of_lt (by simp; omega)
    rw [hexValue?_eq, hexValue?_eq, hlower]
    by_cases hhex : c.toNat ≤ 70
    · rw [if_neg (by omega), if_pos (by omega), if_neg (by omega), if_neg (by omega),
        if_pos (by omega)]
      rfl
    · rw [if_neg (by omega), if_neg (by omega), if_neg (by omega), if_neg (by omega),
        if_neg (by omega), if_neg (by omega)]
  · exact congrArg hexValue? (dif_neg h : c.toLower = c)

theorem hexValue?_lt {c : Char} {v : Nat} (h : hexValue? c = some v) : v < 16 := by
  rw [hexValue?_eq] at h
  split_ifs at h <;> cases h <;> omega

theorem isHexDigit_toLower (c : Char) : isHexDigit c.toLower = isHexDigit c := by
  rw [isHexDigit, hexValue?_toLower, isHexDigit]

theorem hexValue?_digitChar {k : Nat} (h : k < 16) : hexValue? (Nat.digitChar k) = some k := by
  interval_cases k <;> rfl

/-! ### Bytes of digits -/

/-- The byte of a character of ASCII. -/
def asciiByte (c : Char) : UInt8 := UInt8.ofNat c.toNat

theorem hexByteValue?_asciiByte {c : Char} {v : Nat} (h : hexValue? c = some v) :
    hexByteValue? (asciiByte c) = some v := by
  have hrange := toNat_of_isHexDigit (isHexDigit_of_hexValue? h)
  have hbyte : (asciiByte c).toNat = c.toNat := by
    rw [asciiByte, UInt8.toNat_ofNat']
    omega
  rw [hexByteValue?, hbyte, Char.ofNat_toNat, h]

/-- Characters of ASCII take one byte each. -/
theorem flatMap_utf8EncodeChar {cs : List Char} (h : ∀ c ∈ cs, c.toNat < 128) :
    cs.flatMap String.utf8EncodeChar = cs.map asciiByte := by
  rw [← List.flatMap_singleton' (cs.map asciiByte), List.flatMap_map]
  refine List.flatMap_congr fun c hc => ?_
  have hle : c.val.toNat ≤ 127 := Nat.le_of_lt_succ (h c hc)
  rw [String.utf8EncodeChar]
  simp only [hle, if_true]
  rfl

/-- The bytes of a text in ASCII are those of its characters. -/
theorem toUTF8_ofList {cs : List Char} (h : ∀ c ∈ cs, c.toNat < 128) :
    (String.ofList cs).toUTF8.toList = cs.map asciiByte := by
  rw [toList_toUTF8, String.toList_ofList, flatMap_utf8EncodeChar h]

/-- A text in ASCII has as many bytes as characters. -/
theorem utf8ByteSize_ofList {cs : List Char} (h : ∀ c ∈ cs, c.toNat < 128) :
    (String.ofList cs).utf8ByteSize = cs.length := by
  rw [← String.size_toByteArray, String.toByteArray_ofList, List.utf8Encode,
    flatMap_utf8EncodeChar h, List.size_toByteArray, List.length_map]

/-! ### Bytes that were written -/

theorem hexValue?_hexDigit {n : Nat} (h : n < 16) : hexValue? (hexDigit n) = some n := by
  interval_cases n <;> rfl

/-- Digits are written in lower case. -/
theorem toLower_hexDigit {n : Nat} (h : n < 16) : (hexDigit n).toLower = hexDigit n := by
  interval_cases n <;> rfl

/-- Each byte is written as two digits. -/
theorem exists_of_mem_flatMap_hexPair {bytes : List UInt8} {c : Char}
    (h : c ∈ bytes.flatMap hexPair) : ∃ n < 16, c = hexDigit n := by
  obtain ⟨b, -, hc⟩ := List.mem_flatMap.1 h
  have hbyte : b.toNat < 256 := b.toNat_lt_size
  rcases List.mem_pair.1 hc with rfl | rfl
  · exact ⟨_, by omega, rfl⟩
  · exact ⟨_, by omega, rfl⟩

theorem length_flatMap_hexPair (bytes : List UInt8) :
    (bytes.flatMap hexPair).length = 2 * bytes.length := by
  induction bytes with
  | nil => rfl
  | cons b bytes ih =>
      rw [List.flatMap_cons, List.length_append, ih, List.length_cons]
      exact Nat.add_comm 2 _

theorem isHexDigit_of_mem_flatMap_hexPair {bytes : List UInt8} :
    ∀ c ∈ bytes.flatMap hexPair, isHexDigit c = true := by
  intro c hc
  obtain ⟨n, hn, rfl⟩ := exists_of_mem_flatMap_hexPair hc
  exact isHexDigit_of_hexValue? (hexValue?_hexDigit hn)

theorem map_toLower_flatMap_hexPair (bytes : List UInt8) :
    (bytes.flatMap hexPair).map Char.toLower = bytes.flatMap hexPair := by
  refine (List.map_congr_left fun c hc => ?_).trans (List.map_id _)
  obtain ⟨n, hn, rfl⟩ := exists_of_mem_flatMap_hexPair hc
  exact toLower_hexDigit hn

/-- The pairs of digits that were written are read back as the bytes. -/
theorem decodePairs_flatMap_hexPair (bytes : List UInt8) (i : Nat) :
    decodePairs i ((bytes.flatMap hexPair).map asciiByte) = .ok bytes := by
  induction bytes generalizing i with
  | nil => rfl
  | cons b bytes ih =>
      have hbyte : b.toNat < 256 := b.toNat_lt_size
      have hhigh := hexByteValue?_asciiByte (hexValue?_hexDigit (n := b.toNat / 16) (by omega))
      have hlow := hexByteValue?_asciiByte (hexValue?_hexDigit (n := b.toNat % 16) (by omega))
      have hvalue : 16 * (b.toNat / 16) + b.toNat % 16 = b.toNat := by omega
      rw [List.flatMap_cons, hexPair, List.map_append, List.map_cons, List.map_cons, List.map_nil,
        List.cons_append, List.cons_append, List.nil_append, decodePairs, hhigh, hlow]
      simp only [ih, hvalue, UInt8.ofNat_toNat, Except.map]

/-- **Bytes are read back** from the digits that they were written in. -/
theorem decodeHex_encodeHex (bytes : List UInt8) : decodeHex (encodeHex bytes) = .ok bytes := by
  have hascii : ∀ c ∈ bytes.flatMap hexPair, c.toNat < 128 := fun c hc =>
    toNat_lt_of_isHexDigit (isHexDigit_of_mem_flatMap_hexPair c hc)
  have heven : ¬ (bytes.flatMap hexPair).length % 2 = 1 := by
    rw [length_flatMap_hexPair]
    omega
  rw [decodeHex, encodeHex, toUTF8_ofList hascii]
  simp only [List.length_map, if_neg heven, decodePairs_flatMap_hexPair]

/-! ### Numbers -/

/-- **The number that digits denote behind those that were read already.** -/
def hexNatFrom? (n : Nat) (cs : List Char) : Option Nat :=
  cs.foldlM (fun n c => (hexValue? c).map (16 * n + ·)) n

theorem hexNatFrom?_cons {n m : Nat} {c : Char} {cs : List Char} :
    hexNatFrom? n (c :: cs) = some m ↔
      ∃ v, hexValue? c = some v ∧ hexNatFrom? (16 * n + v) cs = some m := by
  rw [hexNatFrom?, List.foldlM_cons]
  simp [hexNatFrom?, Option.bind_eq_some_iff]

theorem isHexDigit_of_hexNatFrom? {n m : Nat} {cs : List Char} (h : hexNatFrom? n cs = some m) :
    ∀ c ∈ cs, isHexDigit c = true := by
  induction cs generalizing n with
  | nil => simp
  | cons c cs ih =>
      obtain ⟨v, hv, hrest⟩ := hexNatFrom?_cons.1 h
      intro d hd
      rcases List.mem_cons.1 hd with rfl | hd
      · exact isHexDigit_of_hexValue? hv
      · exact ih hrest d hd

/-- Two digits behind two zeros denote the number below 256 that they were written for. -/
theorem hexNat?_hexDigits {n : Nat} (h : n < 256) :
    hexNat? ['0', '0', hexDigit (n / 16), hexDigit (n % 16)] = some n := by
  have hhigh : hexValue? (hexDigit (n / 16)) = some (n / 16) := hexValue?_hexDigit (by omega)
  have hlow : hexValue? (hexDigit (n % 16)) = some (n % 16) := hexValue?_hexDigit (by omega)
  refine hexNatFrom?_cons.2 ⟨0, rfl, hexNatFrom?_cons.2 ⟨0, rfl, hexNatFrom?_cons.2 ⟨_, hhigh,
    hexNatFrom?_cons.2 ⟨_, hlow, congrArg some ?_⟩⟩⟩⟩
  omega

/-- **The bytes of an even number of digits make up the number that the digits denote.** -/
theorem decodePairs_digits : ∀ {ds : List Char} {n m : Nat}, hexNatFrom? n ds = some m →
    ds.length % 2 = 0 → ∀ i, ∃ bytes, decodePairs i (ds.map asciiByte) = .ok bytes ∧
      2 * bytes.length = ds.length ∧ bytes.foldl (fun n b => 256 * n + b.toNat) n = m
  | [], n, m, h, _, i => by
    cases h
    exact ⟨[], rfl, rfl, rfl⟩
  | [_], _, _, _, heven, _ => by cases heven
  | a :: b :: rest, n, m, h, heven, i => by
    obtain ⟨x, hx, h⟩ := hexNatFrom?_cons.1 h
    obtain ⟨y, hy, h⟩ := hexNatFrom?_cons.1 h
    have heven' : rest.length % 2 = 0 := by
      simp only [List.length_cons] at heven
      omega
    obtain ⟨bytes, hbytes, hlength, hvalue⟩ := decodePairs_digits h heven' (i + 2)
    have hbyte : (UInt8.ofNat (16 * x + y)).toNat = 16 * x + y := by
      have := hexValue?_lt hx
      have := hexValue?_lt hy
      rw [UInt8.toNat_ofNat']
      omega
    refine ⟨UInt8.ofNat (16 * x + y) :: bytes, ?_, ?_, ?_⟩
    · rw [List.map_cons, List.map_cons, decodePairs, hexByteValue?_asciiByte hx,
        hexByteValue?_asciiByte hy]
      simp only [hbytes, Except.map]
    · rw [List.length_cons, List.length_cons, List.length_cons, ← hlength]
      omega
    · rw [List.foldl_cons, hbyte]
      have : 256 * n + (16 * x + y) = 16 * (16 * n + x) + y := by omega
      rw [this, hvalue]

/-- **The digits of a number in base sixteen denote it**, be the letters small ones or capitals. -/
theorem hexNatFrom?_of_toDigits {n : Nat} : ∀ {ds : List Char},
    ds.map Char.toLower = Nat.toDigits 16 n → hexNatFrom? 0 ds = some n := by
  induction n using Nat.strongRecOn with
  | ind n ih =>
      intro ds h
      rw [Nat.toDigits_eq_if (by decide)] at h
      split at h
      · next hlt =>
          obtain ⟨c, rfl, hc⟩ := List.map_eq_singleton_iff.1 h
          refine hexNatFrom?_cons.2 ⟨n, ?_, ?_⟩
          · rw [← hexValue?_toLower, hc, hexValue?_digitChar hlt]
          · simp [hexNatFrom?]
      · next hge =>
          obtain ⟨ds, last, rfl, hds, hlast⟩ := List.map_eq_append_iff.1 h
          obtain ⟨c, rfl, hc⟩ := List.map_eq_singleton_iff.1 hlast
          have hbefore := ih (n / 16) (by omega) hds
          have hvalue : hexValue? c = some (n % 16) := by
            rw [← hexValue?_toLower, hc, hexValue?_digitChar (Nat.mod_lt n (by decide))]
          rw [hexNatFrom?] at hbefore ⊢
          rw [List.foldlM_append, hbefore]
          simp [hvalue, Nat.div_add_mod]

/-- **Decimal digits can be read in base sixteen as well.** -/
theorem hexNatFrom?_of_isDigit {ds : List Char} (h : ∀ c ∈ ds, c.isDigit) (n : Nat) :
    hexNatFrom? n ds = some (Nat.ofDigitChars 16 ds n) := by
  induction ds generalizing n with
  | nil => rfl
  | cons c cs ih =>
      have hc := hexValue?_of_isDigit (h c List.mem_cons_self)
      refine hexNatFrom?_cons.2 ⟨_, hc, ?_⟩
      rw [Nat.ofDigitChars_cons]
      exact ih (fun d hd => h d (List.mem_cons_of_mem c hd)) _

end AddressTrace.Text
