import AddressTrace.Failure
import AddressTrace.Proofs.Abi.Interface
import AddressTrace.Proofs.Address.Checksum

/-!
# Returned addresses

A function that is called returns one address, so what it returned is read from the first word of
the data: the last twenty bytes of the word are the address, and what stands before and behind them
is not looked at.  Twenty bytes are written as forty digits, which always have a checksummed
spelling.  So the data are either too short or give an address.

## Main statements

* `Method.returned_eq` — what is read from the data of one address;
* `Address.exists_checksummed?_encodeHex` — twenty bytes have a checksummed spelling;
* `Address.eq_of_checksummed?_encodeHex` — and different ones have different spellings;
* `Method.returnedAddress_of_lt`, `Method.returnedAddress_of_le` — data that are too short, and
  others;
* `Interface.returned_address_spelled` — the address that a function returned.
-/

namespace AddressTrace

open Text

/-! ### Bytes as addresses -/

namespace Address

variable {bytes : List UInt8}

theorem toList_marked_encodeHex (bytes : List UInt8) :
    ("0x" ++ encodeHex bytes).toList = '0' :: 'x' :: bytes.flatMap hexPair := by
  simp [encodeHex]

/-- Twenty bytes make up a full address. -/
theorem isFull_encodeHex (h : bytes.length = 20) : IsFull ("0x" ++ encodeHex bytes) := by
  refine ⟨bytes.flatMap hexPair, toList_marked_encodeHex bytes, ?_,
    isHexDigit_of_mem_flatMap_hexPair⟩
  rw [length_flatMap_hexPair, h]

/-- **Twenty bytes have a checksummed spelling.** -/
theorem exists_checksummed?_encodeHex (h : bytes.length = 20) :
    ∃ spelling, checksummed? ("0x" ++ encodeHex bytes) = some spelling :=
  Option.isSome_iff_exists.1 (isSome_checksummed?.2 (isFull_encodeHex h))

/-- **Different bytes have different spellings**, as the digits of bytes are written in one case. -/
theorem eq_of_checksummed?_encodeHex {bytes' : List UInt8} {spelling : String}
    (h : checksummed? ("0x" ++ encodeHex bytes) = some spelling)
    (h' : checksummed? ("0x" ++ encodeHex bytes') = some spelling) : bytes = bytes' := by
  obtain ⟨digits, hdigits, -, -, hspelling⟩ := checksummed?_eq_some.1 h
  obtain ⟨digits', hdigits', -, -, hspelling'⟩ := checksummed?_eq_some.1 h'
  rw [toList_marked_encodeHex] at hdigits hdigits'
  obtain rfl : bytes.flatMap hexPair = digits := by simpa using hdigits
  obtain rfl : bytes'.flatMap hexPair = digits' := by simpa using hdigits'
  have hchecksum : checksum (bytes.flatMap hexPair) = checksum (bytes'.flatMap hexPair) := by
    simpa using hspelling.symm.trans hspelling'
  -- Bytes are written in lower case, so spellings that are equal up to case have equal digits.
  rw [checksum_eq_iff, map_toLower_flatMap_hexPair, map_toLower_flatMap_hexPair] at hchecksum
  have hread : decodeHex (encodeHex bytes) = decodeHex (encodeHex bytes') := by
    rw [encodeHex, encodeHex, hchecksum]
  rw [decodeHex_encodeHex, decodeHex_encodeHex] at hread
  exact Except.ok.inj hread

end Address

/-! ### The data of one address -/

namespace Abi

namespace Method

variable {m : Method}

/-- **What is read from the data of one address**: the last twenty bytes of the first word. -/
theorem returned_eq (h : m.outputs = [.address]) (data : List UInt8) :
    m.returned data = if data.length < 32
      then .error (if data = [] then .nothingReturned else .invalidData)
      else .ok [.address ((data.take 32).drop 12)] := by
  rw [returned, h]
  by_cases hempty : data = []
  · subst hempty
    rfl
  · have hnot : data.isEmpty = false := by simpa using hempty
    rw [hnot, if_neg hempty]
    by_cases hshort : data.length < 32
    · rw [if_pos hshort]
      have hword : wordAt data 0 = .error .invalidData := if_neg (by omega)
      simp [outputsFrom, Kind.scan, hword, bind, Except.bind]
    · rw [if_neg hshort]
      have hword : wordAt data 0 = .ok (data.take 32) := if_pos (by omega)
      simp [outputsFrom, outputAt, Kind.scan, Kind.isAddress, hword, bind, Except.bind, pure,
        Except.pure]

/-- Data that are too short are a problem of decoding. -/
theorem returnedAddress_of_lt (h : m.outputs = [.address]) {data : List UInt8}
    (hdata : data.length < 32) : m.returnedAddress data =
      .error (.abi (if data = [] then .nothingReturned else .invalidData)) := by
  rw [returnedAddress, returned_eq h, if_pos hdata]

/-- **The address of data that are long enough** is that of the last twenty bytes of the first
word. -/
theorem returnedAddress_of_le (h : m.outputs = [.address]) {data : List UInt8}
    (hdata : 32 ≤ data.length) : ∃ spelling,
      Address.checksummed? ("0x" ++ encodeHex ((data.take 32).drop 12)) = some spelling ∧
        m.returnedAddress data = .ok spelling := by
  have hlength : ((data.take 32).drop 12).length = 20 := by
    rw [List.length_drop, List.length_take]
    omega
  obtain ⟨spelling, hspelling⟩ := Address.exists_checksummed?_encodeHex hlength
  refine ⟨spelling, hspelling, ?_⟩
  rw [returnedAddress, returned_eq h, if_neg (Nat.not_lt.2 hdata)]
  simp only [hspelling]

/-- An address is read from its word, whatever stands behind it. -/
theorem returnedAddress_word (h : m.outputs = [.address]) {address : List UInt8}
    (haddress : address.length = 20) {spelling : String}
    (hspelling : Address.checksummed? ("0x" ++ encodeHex address) = some spelling)
    (rest : List UInt8) :
    m.returnedAddress (List.replicate 12 0 ++ address ++ rest) = .ok spelling := by
  have hword : (List.replicate 12 0 ++ address).length = 32 := by simp [haddress]
  have hdata : 32 ≤ (List.replicate 12 0 ++ address ++ rest).length := by
    rw [List.length_append, hword]
    omega
  have hbytes : ((List.replicate 12 0 ++ address ++ rest).take 32).drop 12 = address := by
    rw [List.take_left' hword, List.drop_left' List.length_replicate]
  obtain ⟨spelling', hspelling', hread⟩ := returnedAddress_of_le h hdata
  rw [hbytes, hspelling] at hspelling'
  rw [hread, ← Option.some.inj hspelling']

end Method

namespace Interface

/-- The overload that is looked for has one output, an address. -/
theorem outputs_of_addressMethod? {i : Interface} {name : String} {m : Method}
    (h : i.addressMethod? name = some m) : m.outputs = [.address] :=
  Method.returnsAddress_iff.1 (List.find?_some h)

/-- **The address that a function returned**, where the function is the overload of a name that
returns one address.  Data shorter than a word are a problem of decoding; from all others the
address in the last twenty bytes of the first word is read, in its checksummed spelling, and there
is no other outcome.  The word of twenty bytes gives their spelling, whatever follows, and words of
other bytes give other spellings. -/
theorem returned_address_spelled (i : Interface) {name : String} {m : Method}
    (h : i.addressMethod? name = some m) :
    (∀ data : List UInt8,
      (data.length < 32 → ∃ problem, m.returnedAddress data = .error (.abi problem)) ∧
        (32 ≤ data.length → ∃ spelling,
          Address.checksummed? ("0x" ++ encodeHex ((data.take 32).drop 12)) = some spelling ∧
            m.returnedAddress data = .ok spelling) ∧
        ∀ problem, (m.returnedAddress data).mapError Failure.ofReturn ≠ .error (.rpc problem)) ∧
      ∀ address : List UInt8, address.length = 20 → ∃ spelling,
        Address.checksummed? ("0x" ++ encodeHex address) = some spelling ∧
          (∀ rest, m.returnedAddress (List.replicate 12 0 ++ address ++ rest) = .ok spelling) ∧
          ∀ address' : List UInt8, address'.length = 20 → address' ≠ address → ∀ rest,
            m.returnedAddress (List.replicate 12 0 ++ address' ++ rest) ≠ .ok spelling := by
  have houtputs := outputs_of_addressMethod? h
  refine ⟨fun data => ⟨fun hdata => ⟨_, Method.returnedAddress_of_lt houtputs hdata⟩,
    Method.returnedAddress_of_le houtputs, fun problem hproblem => ?_⟩, fun address haddress => ?_⟩
  · by_cases hdata : data.length < 32
    · rw [Method.returnedAddress_of_lt houtputs hdata] at hproblem
      cases hproblem
    · obtain ⟨spelling, -, hread⟩ := Method.returnedAddress_of_le houtputs (Nat.not_lt.1 hdata)
      rw [hread] at hproblem
      cases hproblem
  · obtain ⟨spelling, hspelling⟩ := Address.exists_checksummed?_encodeHex haddress
    refine ⟨spelling, hspelling, Method.returnedAddress_word houtputs haddress hspelling,
      fun address' haddress' hne rest hread => hne ?_⟩
    obtain ⟨spelling', hspelling'⟩ := Address.exists_checksummed?_encodeHex haddress'
    rw [Method.returnedAddress_word houtputs haddress' hspelling' rest] at hread
    exact Address.eq_of_checksummed?_encodeHex hspelling' (Except.ok.inj hread ▸ hspelling)

/-- The second overload of a name is the one that returns one address.  A word whose first bytes are
not zero gives the address behind them, and the next address gives another one. -/
theorem returned_address_spelled_secondOverload :
    ((empty.push ⟨"pair", [], [.address, .uint 256]⟩).push
        ⟨"pair", [.uint 24], [.address]⟩).addressMethod? "pair" =
          some ⟨"pair", [.uint 24], [.address]⟩ ∧
      (∃ problem, Method.returnedAddress ⟨"pair", [.uint 24], [.address]⟩ (List.replicate 31 0) =
        .error (.abi problem)) ∧
      ∃ spelling, Method.returnedAddress ⟨"pair", [.uint 24], [.address]⟩
          (List.replicate 12 0 ++ List.replicate 20 0xab ++ [7]) = .ok spelling ∧
        Method.returnedAddress ⟨"pair", [.uint 24], [.address]⟩
          (List.replicate 12 255 ++ List.replicate 20 0xab) = .ok spelling ∧
        Method.returnedAddress ⟨"pair", [.uint 24], [.address]⟩
          (List.replicate 12 0 ++ (List.replicate 19 0xab ++ [0xac]) ++ []) ≠ .ok spelling := by
  have hfound : ((empty.push ⟨"pair", [], [.address, .uint 256]⟩).push
      ⟨"pair", [.uint 24], [.address]⟩).addressMethod? "pair" =
        some ⟨"pair", [.uint 24], [.address]⟩ := rfl
  obtain ⟨hdata, hwords⟩ := returned_address_spelled _ hfound
  obtain ⟨spelling, hspelling, hread, hother⟩ := hwords (List.replicate 20 0xab) rfl
  refine ⟨hfound, (hdata _).1 (by decide), spelling, hread [7], ?_,
    hother (List.replicate 19 0xab ++ [0xac]) rfl (by decide) []⟩
  obtain ⟨spelling', hspelling', hread'⟩ :=
    (hdata (List.replicate 12 255 ++ List.replicate 20 0xab)).2.1 (by decide)
  have hbytes : ((List.replicate 12 (255 : UInt8) ++ List.replicate 20 0xab).take 32).drop 12 =
      List.replicate 20 0xab := rfl
  rw [hbytes, hspelling] at hspelling'
  rw [hread', ← Option.some.inj hspelling']

end Interface

end Abi

end AddressTrace
