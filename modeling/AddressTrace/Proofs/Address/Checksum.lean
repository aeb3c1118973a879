import AddressTrace.Address
import AddressTrace.Proofs.Text.Hex
import Mathlib

/-!
# The checksummed spelling

An address has one spelling with a checksum.  The digest is taken of the digits in lower case, so it
does not depend on how the address was spelled, and neither does the spelling that it gives: this is
a canonical form of the spellings that differ in the case of their letters only.

## Main definitions

* `Address.IsFull` — `0x` and forty hexadecimal digits;
* `Address.digest` — what the case of the letters is taken from.

## Main statements

* `Address.getElem?_caseByDigest` — the case of each digit;
* `Address.checksummed?_eq_some` — which texts have the spelling, and what it is;
* `Address.checksummed_canonical` — the spelling is a canonical form.
-/

namespace AddressTrace

open Text Digest

/-- A digest has 32 bytes. -/
theorem Digest.length_keccak256 (message : List UInt8) : (keccak256 message).length = 32 := by
  simp [keccak256, Keccak.bytesOf]

namespace Address

/-! ### The case of the digits -/

/-- The case of a letter is the only thing that is changed. -/
theorem toLower_caseOf (capital : Prop) [Decidable capital] (c : Char) :
    (if capital then c.toUpper else c).toLower = c.toLower := by
  split
  · exact Char.toLower_toUpper_eq_toLower c
  · rfl

/-- **The case of each digit** is that of the four bits of its index. -/
theorem getElem?_caseByDigest (bytes : List UInt8) (digits : List Char) (start i : Nat) :
    (caseByDigest bytes start digits)[i]? =
      digits[i]?.map fun c => if 8 ≤ nibble bytes (start + i) then c.toUpper else c := by
  induction digits generalizing start i with
  | nil => rfl
  | cons c cs ih =>
      cases i with
      | zero => rfl
      | succ i =>
          rw [caseByDigest, List.getElem?_cons_succ, List.getElem?_cons_succ, ih, Nat.add_assoc,
            Nat.add_comm 1 i]

theorem map_toLower_caseByDigest (bytes : List UInt8) (start : Nat) (digits : List Char) :
    (caseByDigest bytes start digits).map Char.toLower = digits.map Char.toLower := by
  induction digits generalizing start with
  | nil => rfl
  | cons c cs ih => rw [caseByDigest, List.map_cons, List.map_cons, ih, toLower_caseOf]

/-! ### Full addresses -/

/-- **A full address**: `0x` and forty hexadecimal digits. -/
def IsFull (address : String) : Prop :=
  ∃ digits, address.toList = '0' :: 'x' :: digits ∧ digits.length = 40 ∧
    ∀ c ∈ digits, isHexDigit c = true

/-- **What the case of the letters is taken from**: the digest of the digits in lower case. -/
def digest (digits : List Char) : List UInt8 :=
  keccak256 (String.ofList (digits.map Char.toLower)).toUTF8.toList

/-- The digits of an address in the case that their digest gives them. -/
def checksum (digits : List Char) : List Char :=
  caseByDigest (digest digits) 0 (digits.map Char.toLower)

/-- **Which texts have a checksummed spelling**, and what it is. -/
theorem checksummed?_eq_some {address spelling : String} :
    checksummed? address = some spelling ↔
      ∃ digits, address.toList = '0' :: 'x' :: digits ∧ digits.length = 40 ∧
        (∀ c ∈ digits, isHexDigit c = true) ∧ spelling.toList = '0' :: 'x' :: checksum digits := by
  rw [checksummed?]
  split
  · next digits heq =>
      rw [Option.ite_none_right_eq_some, List.all_eq_true]
      constructor
      · rintro ⟨⟨hlength, hdigits⟩, hspelling⟩
        refine ⟨digits, heq, hlength, hdigits, ?_⟩
        rw [← Option.some.inj hspelling, String.toList_ofList]
        rfl
      · rintro ⟨digits', heq', hlength, hdigits, hspelling⟩
        obtain rfl : digits = digits' := by simpa using heq.symm.trans heq'
        refine ⟨⟨hlength, hdigits⟩, congrArg some (String.toList_injective ?_)⟩
        rw [String.toList_ofList, hspelling]
        rfl
  · next hother =>
      refine iff_of_false (fun h => nomatch h) ?_
      rintro ⟨digits, heq, -⟩
      exact hother digits heq

/-- **Exactly the full addresses have one.** -/
theorem isSome_checksummed? {address : String} :
    (checksummed? address).isSome = true ↔ IsFull address := by
  rw [Option.isSome_iff_exists]
  constructor
  · rintro ⟨spelling, h⟩
    obtain ⟨digits, heq, hlength, hdigits, -⟩ := checksummed?_eq_some.1 h
    exact ⟨digits, heq, hlength, hdigits⟩
  · rintro ⟨digits, heq, hlength, hdigits⟩
    exact ⟨String.ofList ('0' :: 'x' :: checksum digits), checksummed?_eq_some.2
      ⟨digits, heq, hlength, hdigits, String.toList_ofList⟩⟩

/-- A full address is taken for an address. -/
theorem IsFull.isAddressLike {address : String} (h : IsFull address) :
    isAddressLike address = true := by
  obtain ⟨digits, heq, hlength, hdigits⟩ := h
  have hascii : ∀ c ∈ '0' :: 'x' :: digits, c.toNat < 128 :=
    List.forall_mem_cons.2 ⟨by decide, List.forall_mem_cons.2 ⟨by decide, fun c hc =>
      toNat_lt_of_isHexDigit (hdigits c hc)⟩⟩
  have hsize : address.utf8ByteSize = 42 := by
    rw [← String.ofList_toList (s := address), heq, utf8ByteSize_ofList hascii, List.length_cons,
      List.length_cons, hlength]
  simp [Address.isAddressLike, hsize, heq]

/-- Full addresses are equal up to case if their digits are. -/
theorem foldCase_eq_iff {address address' : String} {digits digits' : List Char}
    (h : address.toList = '0' :: 'x' :: digits) (h' : address'.toList = '0' :: 'x' :: digits') :
    foldCase address = foldCase address' ↔
      digits.map Char.toLower = digits'.map Char.toLower := by
  rw [foldCase, foldCase, h, h', String.ofList_inj]
  simp

/-! ### The digits of the spelling -/

section

variable {digits : List Char}

theorem map_toLower_checksum (digits : List Char) :
    (checksum digits).map Char.toLower = digits.map Char.toLower := by
  rw [checksum, map_toLower_caseByDigest, List.map_map]
  exact List.map_congr_left fun c _ => Char.toLower_toLower_eq_toLower c

theorem length_checksum (digits : List Char) : (checksum digits).length = digits.length := by
  simpa using congrArg List.length (map_toLower_checksum digits)

/-- **The spelling depends on the digits up to their case** and on nothing else. -/
theorem checksum_eq_iff {digits' : List Char} :
    checksum digits = checksum digits' ↔ digits.map Char.toLower = digits'.map Char.toLower := by
  constructor
  · intro h
    rw [← map_toLower_checksum digits, h, map_toLower_checksum]
  · intro h
    rw [checksum, checksum, digest, digest, h]

/-- The spelling of the spelling is the spelling itself. -/
theorem checksum_checksum (digits : List Char) : checksum (checksum digits) = checksum digits :=
  checksum_eq_iff.2 (map_toLower_checksum digits)

theorem isHexDigit_of_mem_checksum (h : ∀ c ∈ digits, isHexDigit c = true) :
    ∀ c ∈ checksum digits, isHexDigit c = true := by
  intro c hc
  -- Whether a character is a digit does not depend on its case, and only the case is changed.
  have hlower : c.toLower ∈ digits.map Char.toLower := by
    rw [← map_toLower_checksum]
    exact List.mem_map_of_mem hc
  obtain ⟨d, hd, heq⟩ := List.mem_map.1 hlower
  rw [← isHexDigit_toLower, ← heq, isHexDigit_toLower]
  exact h d hd

/-- **The case of each letter** of the spelling; what is no letter stays as it is. -/
theorem case_of_getElem?_checksum {i : Nat} {c d : Char} (hc : digits[i]? = some c)
    (hd : (checksum digits)[i]? = some d) :
    (c.isAlpha = false → d = c) ∧
      (c.isAlpha = true → (d.isUpper = true ↔ 8 ≤ nibble (digest digits) i)) := by
  rw [checksum, getElem?_caseByDigest, List.getElem?_map, hc, Nat.zero_add] at hd
  obtain rfl := Option.some.inj hd
  refine ⟨fun hother => ?_, fun hletter => ?_⟩
  · rw [Char.isAlpha, Bool.or_eq_false_iff, Bool.eq_false_iff, Bool.eq_false_iff] at hother
    dsimp only
    rw [Char.toLower_eq_of_not_isUpper hother.1, Char.toUpper_eq_of_not_isLower hother.2, ite_self]
  · split
    · next h => simp [hletter, h]
    · next h => simp [h]

end

/-- **The checksummed spelling is a canonical form** of full addresses.  Exactly these have one; it
is a full address that looks like one, it is that address up to the case of the letters, and it is
its own checksummed spelling.  Digits stay as they are, and a letter is a capital exactly when its
four bits in the digest of the forty digits in lower case are eight or more.  Two full addresses
have one spelling exactly when they are equal up to the case of the letters. -/
theorem checksummed_canonical :
    (∀ address, (checksummed? address).isSome = true ↔ IsFull address) ∧
      (∀ address spelling, checksummed? address = some spelling →
        IsFull spelling ∧ isAddressLike spelling = true ∧ foldCase spelling = foldCase address ∧
        checksummed? spelling = some spelling ∧
        ∃ digits digits', address.toList = '0' :: 'x' :: digits ∧
          spelling.toList = '0' :: 'x' :: digits' ∧ (digest digits).length = 32 ∧
          ∀ i c d, digits[i]? = some c → digits'[i]? = some d →
            (c.isAlpha = false → d = c) ∧
              (c.isAlpha = true → (d.isUpper = true ↔ 8 ≤ nibble (digest digits) i))) ∧
      ∀ address address', IsFull address → IsFull address' →
        (checksummed? address = checksummed? address' ↔ foldCase address = foldCase address') := by
  refine ⟨fun _ => isSome_checksummed?, fun address spelling h => ?_, ?_⟩
  · obtain ⟨digits, haddress, hlength, hdigits, hspelling⟩ := checksummed?_eq_some.1 h
    have hlength' : (checksum digits).length = 40 := (length_checksum digits).trans hlength
    have hdigits' := isHexDigit_of_mem_checksum hdigits
    have hfull : IsFull spelling := ⟨_, hspelling, hlength', hdigits'⟩
    refine ⟨hfull, hfull.isAddressLike, ?_, ?_, digits, checksum digits, haddress, hspelling,
      length_keccak256 _, fun i c d => case_of_getElem?_checksum⟩
    · rw [foldCase_eq_iff hspelling haddress, map_toLower_checksum]
    · exact checksummed?_eq_some.2
        ⟨_, hspelling, hlength', hdigits', by rw [checksum_checksum, hspelling]⟩
  · intro address address' hfull hfull'
    obtain ⟨spelling, h⟩ := Option.isSome_iff_exists.1 (isSome_checksummed?.2 hfull)
    obtain ⟨spelling', h'⟩ := Option.isSome_iff_exists.1 (isSome_checksummed?.2 hfull')
    obtain ⟨digits, haddress, -, -, hspelling⟩ := checksummed?_eq_some.1 h
    obtain ⟨digits', haddress', -, -, hspelling'⟩ := checksummed?_eq_some.1 h'
    rw [foldCase_eq_iff haddress haddress', ← checksum_eq_iff, h, h', Option.some_inj,
      ← String.toList_inj, hspelling, hspelling']
    simp

/-- An address in capitals and the same one in small letters have one spelling, which is its own and
keeps the digits in front. -/
theorem checksummed_canonical_capitals :
    IsFull "0x5AAEB6053F3E94C9B9A09F33669435E7EF1BEAED" ∧
      IsFull "0x5aaeb6053f3e94c9b9a09f33669435e7ef1beaed" ∧
      ∃ spelling, checksummed? "0x5AAEB6053F3E94C9B9A09F33669435E7EF1BEAED" = some spelling ∧
        checksummed? "0x5aaeb6053f3e94c9b9a09f33669435e7ef1beaed" = some spelling ∧
        checksummed? spelling = some spelling ∧
        foldCase spelling = "0x5aaeb6053f3e94c9b9a09f33669435e7ef1beaed" ∧
        ∃ digits, spelling.toList = '0' :: 'x' :: digits ∧
          ∀ d, digits[0]? = some d → d = '5' := by
  obtain ⟨hsome, hspelling, hsame⟩ := checksummed_canonical
  have hcapitals : IsFull "0x5AAEB6053F3E94C9B9A09F33669435E7EF1BEAED" :=
    ⟨"5AAEB6053F3E94C9B9A09F33669435E7EF1BEAED".toList, rfl, rfl, List.all_eq_true.1 (by decide)⟩
  have hsmall : IsFull "0x5aaeb6053f3e94c9b9a09f33669435e7ef1beaed" :=
    ⟨"5aaeb6053f3e94c9b9a09f33669435e7ef1beaed".toList, rfl, rfl, List.all_eq_true.1 (by decide)⟩
  obtain ⟨spelling, hread⟩ := Option.isSome_iff_exists.1 ((hsome _).2 hcapitals)
  obtain ⟨-, -, hfold, hagain, digits, digits', hdigits, hdigits', -, hcase⟩ := hspelling _ _ hread
  obtain rfl : "5AAEB6053F3E94C9B9A09F33669435E7EF1BEAED".toList = digits := by simpa using hdigits
  have hfolds : foldCase "0x5AAEB6053F3E94C9B9A09F33669435E7EF1BEAED" =
      foldCase "0x5aaeb6053f3e94c9b9a09f33669435e7ef1beaed" := by
    decide +kernel
  have hfolded : foldCase "0x5AAEB6053F3E94C9B9A09F33669435E7EF1BEAED" =
      "0x5aaeb6053f3e94c9b9a09f33669435e7ef1beaed" := by
    decide +kernel
  refine ⟨hcapitals, hsmall, spelling, hread, ?_, hagain, hfold.trans hfolded, digits', hdigits',
    fun d hd => (hcase 0 '5' d rfl hd).1 (by decide)⟩
  rw [← hread, (hsame _ _ hcapitals hsmall).2 hfolds]

end Address

end AddressTrace
