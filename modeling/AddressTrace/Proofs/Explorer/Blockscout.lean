import AddressTrace.Explorer.Blockscout
import AddressTrace.Proofs.Linkage.Descriptor
import AddressTrace.Proofs.Resolve.Isolation
import AddressTrace.Proofs.Text.Hex

/-!
# Linked libraries of a Blockscout response

An explorer of the Blockscout kind lists the libraries of a contract with their addresses.  They are
written into a descriptor, without the markers of the addresses, and the descriptor is read again
when the links of the contract are followed.  Nothing is lost on this way: the contract is linked
with the libraries that were listed, at the addresses that were listed, and with no others.

## Main definitions

* `Blockscout.Linkable` — a library that an explorer lists with a full address.

## Main statements

* `Blockscout.Linkable.marked_link` — the marker of an address is put back;
* `Blockscout.ofDescriptor_library` — what the descriptor of a record says;
* `Blockscout.linked_as_listed` — the links of a response are those that it lists.
-/

namespace AddressTrace

open Text

/-! ### Hexadecimal digits -/

namespace Text

theorem isBlank_of_isHexDigit {c : Char} (h : isHexDigit c = true) : isBlank c = false := by
  have hrange := toNat_of_isHexDigit h
  rw [Bool.eq_false_iff, isBlank]
  simp only [ne_eq, Bool.or_eq_true, Bool.and_eq_true, decide_eq_true_eq, beq_iff_eq]
  omega

theorem not_mem_of_isHexDigit {cs : List Char} (h : ∀ c ∈ cs, isHexDigit c = true) {c : Char}
    (hc : isHexDigit c = false) : c ∉ cs := by
  intro hmem
  rw [h c hmem] at hc
  cases hc

theorem withoutMarkers_of_not_mem {cs : List Char} (h : 'x' ∉ cs) : withoutMarkers cs = cs := by
  fun_cases withoutMarkers cs with
  | case1 cs => simp at h
  | case2 => rfl

end Text

/-- An address without the letter of a marker gets one. -/
theorem Address.withMarker_of_not_mem {cs : List Char} (h : 'x' ∉ cs) (h' : 'X' ∉ cs) :
    withMarker (String.ofList cs) = "0x" ++ String.ofList cs := by
  have hmarker : hasMarker (String.ofList cs) = false := by
    have hx : cs.take 2 ≠ ['0', 'x'] := fun heq => h (List.mem_of_mem_take (i := 2) (by simp [heq]))
    have hX : cs.take 2 ≠ ['0', 'X'] :=
      fun heq => h' (List.mem_of_mem_take (i := 2) (by simp [heq]))
    simp [hasMarker, hx, hX]
  rw [withMarker, hmarker]
  rfl

namespace Blockscout

/-! ### One library -/

/-- **A library that an explorer lists with a full address**: its name is there, holds no semicolon
and does not begin with a blank character, and its address is `0x` and forty hexadecimal digits. -/
structure Linkable (library : String × String) : Prop where
  name_ne : library.1.toList ≠ []
  separator_not_mem : ';' ∉ library.1.toList
  head_not_blank : ∀ c ∈ library.1.toList.head?, isBlank c = false
  address_eq : ∃ digits : List Char, library.2 = "0x" ++ String.ofList digits ∧
    digits.length = 40 ∧ ∀ c ∈ digits, isHexDigit c = true

namespace Linkable

variable {library : String × String}

/-- What is written of the address are its digits. -/
theorem exists_digits (h : Linkable library) :
    ∃ digits : List Char, library.2 = "0x" ++ String.ofList digits ∧ digits.length = 40 ∧
      (∀ c ∈ digits, isHexDigit c = true) ∧ link library = (library.1, String.ofList digits) := by
  obtain ⟨digits, haddress, hlength, hhex⟩ := h.address_eq
  refine ⟨digits, haddress, hlength, hhex, ?_⟩
  have htext : library.2.toList = '0' :: 'x' :: digits := by
    simp [haddress]
  have hx : 'x' ∉ digits := not_mem_of_isHexDigit hhex (by decide)
  rw [link, htext, withoutMarkers, withoutMarkers_of_not_mem hx]

/-- A library can be told from its neighbours in a descriptor. -/
theorem writable_link (h : Linkable library) : Linkage.Writable (link library) := by
  obtain ⟨digits, -, hlength, hhex, hlink⟩ := h.exists_digits
  have hdigits : (link library).2.toList = digits := by rw [hlink, String.toList_ofList]
  refine ⟨h.name_ne, ?_, h.separator_not_mem, ?_, ?_, h.head_not_blank, ?_⟩
  · rw [hdigits]
    exact List.ne_nil_of_length_eq_add_one hlength
  · rw [hdigits]
    exact not_mem_of_isHexDigit hhex (by decide)
  · rw [hdigits]
    exact not_mem_of_isHexDigit hhex (by decide)
  · rw [hdigits]
    exact fun c hc => isBlank_of_isHexDigit (hhex c (List.mem_of_getLast? hc))

/-- **The marker of an address is put back** when the descriptor is read. -/
theorem marked_link (h : Linkable library) : Linkage.marked (link library) = library := by
  obtain ⟨digits, haddress, -, hhex, hlink⟩ := h.exists_digits
  rw [hlink, Linkage.marked, Address.withMarker_of_not_mem (not_mem_of_isHexDigit hhex (by decide))
    (not_mem_of_isHexDigit hhex (by decide)), ← haddress]

end Linkable

/-! ### All libraries of a response -/

variable {c : Contract}

/-- **What the descriptor of a record says** are the libraries that the explorer listed. -/
theorem ofDescriptor_library (h : ∀ library ∈ c.libraries, Linkable library) :
    Linkage.ofDescriptor (Linkage.descriptor (c.libraries.map link)) = .ofList c.libraries := by
  have hwritable : ∀ l ∈ c.libraries.map link, Linkage.Writable l :=
    List.forall_mem_map.2 fun library hlibrary => (h library hlibrary).writable_link
  have hmarked : (c.libraries.map link).map Linkage.marked = c.libraries := by
    rw [List.map_map]
    exact (List.map_congr_left fun library hlibrary => (h library hlibrary).marked_link).trans
      (List.map_id _)
  rw [Linkage.ofDescriptor_descriptor hwritable, hmarked]

theorem library_of_mem_records {address chain : String} {r : ContractRecord}
    (h : r ∈ c.records address chain) :
    r.library = Linkage.descriptor (c.libraries.map link) := by
  rw [Contract.records] at h
  split at h
  · cases h
  · obtain ⟨file, -, rfl⟩ := List.mem_map.1 h
    rfl

/-- **A contract is linked as its explorer lists it.**  A response with a source gives records, and
the descriptor of each of them says of a name the last address that the response lists for it, and
nothing else.  So where a lookup gives these records, these are the links of the contract, and a
library that is called by its name is called at the address that was listed. -/
theorem linked_as_listed (address chain : String) {response : String}
    (hread : (Json.Form.parse? response).bind contract? = some c)
    (hsource : c.sourceCode.isSome = true) (hlibraries : ∀ l ∈ c.libraries, Linkable l) :
    ∃ rs, records address chain response = .ok rs ∧ rs ≠ [] ∧
      (∀ r ∈ rs, (Linkage.ofDescriptor r.library).keys.Nodup ∧
        ∀ name target, (name, target) ∈ (Linkage.ofDescriptor r.library).toList ↔
          Assoc.LastAt name target c.libraries) ∧
      ∀ (w : World) (options : Options) (record : ContractRecord),
        (w.lookup record.address record.chain).outcome = .ok rs →
        (∀ name target, (name, target) ∈ w.links record.chain record.address ↔
          Assoc.LastAt name target c.libraries) ∧
        ∀ (tree : SyntaxTree) (ds : Declarations) (object : NodeId) (name function target : String),
          tree.kind? object = some (.identifier name) →
          callTarget? tree ds (w.libraries options record) object function = some target →
          Assoc.LastAt name target c.libraries := by
  have hrecords : records address chain response = .ok (c.records address chain) := by
    rw [records, hread]
  have hne : c.records address chain ≠ [] := by
    obtain ⟨sourceCode, hcode⟩ := Option.isSome_iff_exists.1 hsource
    rw [Contract.records, hcode]
    exact List.cons_ne_nil _ _
  have hsame : ∀ r ∈ c.records address chain,
      Linkage.ofDescriptor r.library = .ofList c.libraries := by
    intro r hr
    rw [library_of_mem_records hr, ofDescriptor_library hlibraries]
  have hlast : ∀ name target, (name, target) ∈ (SortedMap.ofList c.libraries).toList ↔
      Assoc.LastAt name target c.libraries := by
    intro name target
    rw [SortedMap.mem_toList, SortedMap.find?_ofList_eq_some]
  refine ⟨_, hrecords, hne, fun r hr => ?_, fun w options record hlookup => ?_⟩
  · rw [hsame r hr]
    exact ⟨SortedMap.nodup_keys _, hlast⟩
  · have hlinks : w.links record.chain record.address = (SortedMap.ofList c.libraries).toList := by
      obtain ⟨r, rest, hrest⟩ := List.exists_cons_of_ne_nil hne
      have hfirst := hsame r (hrest ▸ List.mem_cons_self)
      rw [World.links, World.links?_eq, hlookup, hrest, ← hfirst]
      rfl
    rw [hlinks]
    refine ⟨hlast, fun tree ds object name function target hkind hcalled => ?_⟩
    simp only [callTarget?, hkind] at hcalled
    obtain ⟨library, hlibrary, hfunction⟩ := Option.bind_eq_some_iff.1 hcalled
    obtain ⟨-, htarget⟩ := Option.ite_none_right_eq_some.1 hfunction
    obtain rfl := Option.some.inj htarget
    have hlink := (World.find?_libraries.1 hlibrary).1
    rw [hlinks] at hlink
    exact (hlast _ _).1 hlink

/-! ### A name that is listed twice -/

/-- A response that lists a library twice, under a name with a colon and a blank at its end. -/
def listedTwice : String :=
  "\x7b\"name\":\"C\",\"source_code\":\"\",\"external_libraries\":[" ++
    "\x7b\"name\":\"l:L \"," ++
    "\"address_hash\":\"0x1111111111111111111111111111111111111111\"\x7d," ++
    "\x7b\"name\":\"l:L \"," ++
    "\"address_hash\":\"0xAbAbAbAbAbAbAbAbAbAbAbAbAbAbAbAbAbAbAbAb\"\x7d]\x7d"

/-- The contract is linked with the library at the address that is listed last. -/
theorem linked_as_listed_twice :
    ∃ c, (Json.Form.parse? listedTwice).bind contract? = some c ∧ c.sourceCode.isSome = true ∧
      (∀ l ∈ c.libraries, Linkable l) ∧
      ∃ rs, records "0x99" "eth" listedTwice = .ok rs ∧ rs ≠ [] ∧
        ∀ r ∈ rs, ("l:L ", "0xAbAbAbAbAbAbAbAbAbAbAbAbAbAbAbAbAbAbAbAb") ∈
          (Linkage.ofDescriptor r.library).toList := by
  have hcontract : ((Json.Form.parse? listedTwice).bind contract?).map
      (fun c => (c.sourceCode, c.libraries)) = some (some "",
        [("l:L ", "0x1111111111111111111111111111111111111111"),
          ("l:L ", "0xAbAbAbAbAbAbAbAbAbAbAbAbAbAbAbAbAbAbAbAb")]) := by
    decide +kernel
  obtain ⟨c, hread, hc⟩ := Option.map_eq_some_iff.1 hcontract
  obtain ⟨hcode, hlibraries⟩ := Prod.mk.inj hc
  have hsource : c.sourceCode.isSome = true := by rw [hcode]; rfl
  have hlinkable : ∀ l ∈ c.libraries, Linkable l := by
    rw [hlibraries]
    refine List.forall_mem_cons.2 ⟨?_, List.forall_mem_singleton.2 ?_⟩
    · refine ⟨by decide, by decide, ?_, List.replicate 40 '1', by decide +kernel, rfl,
        List.all_eq_true.1 (by decide)⟩
      rintro c ⟨⟩
      decide
    · refine ⟨by decide, by decide, ?_, (List.replicate 20 ['A', 'b']).flatten,
        by decide +kernel, rfl, List.all_eq_true.1 (by decide)⟩
      rintro c ⟨⟩
      decide
  obtain ⟨rs, hrecords, hne, hsame, -⟩ :=
    linked_as_listed "0x99" "eth" hread hsource hlinkable
  refine ⟨c, hread, hsource, hlinkable, rs, hrecords, hne, fun r hr => ((hsame r hr).2 _ _).2 ?_⟩
  rw [hlibraries]
  exact ⟨[_], [], rfl, List.forall_mem_nil _⟩

end Blockscout

end AddressTrace
