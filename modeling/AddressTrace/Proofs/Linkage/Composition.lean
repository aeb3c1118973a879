import AddressTrace.Proofs.Data.SortedMap
import AddressTrace.Proofs.Linkage.Descriptor

/-!
# Descriptors put together

A descriptor is read part by part: what two descriptors say together is what the first one says with
the second one laid over it.  So a part that says nothing of a name, be it malformed, empty or a
link of another name, can be left out.  The links that are read can be written down again, in
whatever order, and are then read back as they are.

## Main definitions

* `Linkage.Says` — a part of a descriptor stands for a link.

## Main statements

* `Linkage.link?_eq_some` — which link is read from a part;
* `Linkage.links_unsplit` — the links of a descriptor, part by part;
* `Linkage.writable_of_mem_toList` — the links that can be read;
* `Linkage.descriptors_compose` — composition and the way back.
-/

namespace AddressTrace

/-! ### Parts -/

namespace Text

variable {sep : Char}

/-- **The parts of two texts with a separator between them** are those of the one and those of the
other. -/
theorem pieces_append (cs ds : List Char) :
    pieces sep (cs ++ sep :: ds) = pieces sep cs ++ pieces sep ds := by
  induction cs with
  | nil => exact if_pos rfl
  | cons c cs ih =>
      rw [List.cons_append, pieces, pieces, ih]
      by_cases hc : c = sep
      · rw [if_pos hc, if_pos hc, List.cons_append]
      · rw [if_neg hc, if_neg hc]
        obtain ⟨p, ps, hp⟩ := List.exists_cons_of_ne_nil (pieces_ne_nil sep cs)
        simp only [hp, List.cons_append]

/-- There is no separator in a part. -/
theorem not_mem_of_mem_pieces {cs p : List Char} (h : p ∈ pieces sep cs) : sep ∉ p := by
  induction cs generalizing p with
  | nil =>
      rw [List.mem_singleton.1 h]
      exact List.not_mem_nil
  | cons c cs ih =>
      rw [pieces] at h
      split at h
      · rcases List.mem_cons.1 h with rfl | h
        · exact List.not_mem_nil
        · exact ih h
      · next hc =>
          obtain ⟨q, ps, hq⟩ := List.exists_cons_of_ne_nil (pieces_ne_nil sep cs)
          rw [hq] at h ih
          rcases List.mem_cons.1 h with rfl | h
          · exact List.not_mem_cons_of_ne_of_not_mem (Ne.symm hc) (ih List.mem_cons_self)
          · exact ih (List.mem_cons_of_mem q h)

end Text

/-! ### Markers -/

namespace Address

theorem withMarker_of_hasMarker {address : String} (h : hasMarker address = true) :
    withMarker address = address :=
  if_pos h

/-- **An address has its marker** after it was put there. -/
theorem hasMarker_withMarker (address : String) : hasMarker (withMarker address) = true := by
  rw [withMarker]
  split
  · assumption
  · simp [hasMarker]

theorem hasMarker_iff {address : String} :
    hasMarker address = true ↔ ['0', 'x'] <+: address.toList ∨ ['0', 'X'] <+: address.toList := by
  rw [hasMarker, Bool.or_eq_true, beq_iff_eq, beq_iff_eq, eq_comm, List.prefix_iff_eq_take,
    eq_comm (b := ['0', 'X']), List.prefix_iff_eq_take]
  rfl

/-- The marker is put in front. -/
theorem toList_withMarker (address : String) :
    (withMarker address).toList = address.toList ∨
      (withMarker address).toList = '0' :: 'x' :: address.toList := by
  rw [withMarker]
  split
  · exact .inl rfl
  · exact .inr (by simp)

end Address

namespace Linkage

open Text

/-! ### One part -/

/-- **A part of a descriptor stands for a link**: it is the pair of the link between margins. -/
def Says (text : List Char) (link : String × String) : Prop :=
  Writable link ∧ ∃ before after, AllBlank before ∧ AllBlank after ∧
    text = before ++ pair link ++ after

namespace Writable

variable {link : String × String}

/-- A link whose address is marked can be written like the link itself. -/
theorem marked (h : Writable link) : Writable (marked link) := by
  rcases Address.toList_withMarker link.2 with haddress | haddress
  · have hsame : Linkage.marked link = link := Prod.ext rfl (String.toList_injective haddress)
    rwa [hsame]
  · refine ⟨h.name_ne, ?_, h.separator_not_mem_name, ?_, ?_, h.head_not_blank, ?_⟩
    all_goals rw [Linkage.marked, haddress]
    · exact List.cons_ne_nil _ _
    · simp [h.separator_not_mem_address]
    · simp [h.colon_not_mem]
    · rw [List.getLast?_cons_of_ne_nil (List.cons_ne_nil _ _), List.getLast?_cons_of_ne_nil
        h.address_ne]
      exact h.last_not_blank

end Writable

/-- A link is read only from the pair of a name and an address. -/
theorem exists_pair_of_link? {text : List Char} {read : String × String}
    (h : link? text = some read) :
    ∃ link, text = pair link ∧ link.1.toList ≠ [] ∧ link.2.toList ≠ [] ∧ ':' ∉ link.2.toList ∧
      marked link = read := by
  rw [link?] at h
  split at h
  · next name address hsplit =>
      obtain ⟨htext, hcolon⟩ := eq_of_splitLast? hsplit
      split at h
      · cases h
      · next hne =>
          rw [not_or, List.isEmpty_iff, List.isEmpty_iff] at hne
          refine ⟨(String.ofList name, String.ofList address), ?_, ?_, ?_, ?_, Option.some.inj h⟩
          all_goals simp only [pair, String.toList_ofList]
          · exact htext
          · exact hne.1
          · exact hne.2
          · exact hcolon
  · cases h

/-- **Which link is read from a part**: the one that it stands for, with its address marked. -/
theorem link?_eq_some {text : List Char} (h : ';' ∉ text) {read : String × String} :
    link? (trimChars text) = some read ↔ ∃ link, Says text link ∧ marked link = read := by
  constructor
  · intro hread
    obtain ⟨link, hpair, hname, haddress, hcolon, hmarked⟩ := exists_pair_of_link? hread
    obtain ⟨before, after, hbefore, hafter, htext⟩ := exists_eq_trimChars text
    -- Between its margins the text has no blank at either end, so neither has the pair.
    have hhead := isBlank_head?_trimChars text
    have hlast := isBlank_getLast?_trimChars text
    rw [hpair] at htext hhead hlast
    rw [head?_pair hname] at hhead
    rw [getLast?_pair haddress] at hlast
    have hseparator : ';' ∉ pair link := fun hmem => h (by simp [htext, hmem])
    rw [pair, List.mem_append, not_or] at hseparator
    have hwritable : Writable link :=
      { name_ne := hname
        address_ne := haddress
        separator_not_mem_name := hseparator.1
        separator_not_mem_address := fun hmem => hseparator.2 (List.mem_cons_of_mem _ hmem)
        colon_not_mem := hcolon
        head_not_blank := hhead
        last_not_blank := hlast }
    exact ⟨link, ⟨hwritable, before, after, hbefore, hafter, htext⟩, hmarked⟩
  · rintro ⟨link, ⟨hlink, before, after, hbefore, hafter, rfl⟩, rfl⟩
    rw [hlink.trimChars_append_pair hbefore hafter, ← hlink.trimChars_pair]
    exact hlink.link?_pair

/-! ### Descriptors -/

theorem links_append (cs ds : List Char) : links (cs ++ ';' :: ds) = links cs ++ links ds := by
  rw [links, pieces_append, List.filterMap_append]
  rfl

/-- **The links of a descriptor** are those of its parts, in their order. -/
theorem links_unsplit (parts : List (List Char)) :
    links (unsplit ';' parts) = parts.flatMap links := by
  induction parts with
  | nil => rfl
  | cons p parts ih =>
      cases parts with
      | nil => exact (List.append_nil _).symm
      | cons q parts => rw [unsplit, links_append, ih, List.flatMap_cons (x := p)]

/-- A descriptor with one part only says the link that the part stands for, if it does. -/
theorem links_of_not_mem {text : List Char} (h : ';' ∉ text) :
    links text = (link? (trimChars text)).toList := by
  rw [links, pieces_eq_singleton h]
  cases hlink : link? (trimChars text) <;> simp [hlink]

theorem ofDescriptor_append (a b : String) :
    ofDescriptor (a ++ ";" ++ b) = (ofDescriptor a).override (ofDescriptor b) := by
  have htext : (a ++ ";" ++ b).toList = a.toList ++ ';' :: b.toList := by simp
  rw [ofDescriptor, htext, links_append, SortedMap.ofList_append]
  rfl

/-- **What a single part says**: it gives a name an address exactly when it stands for such a
link. -/
theorem find?_ofDescriptor_of_not_mem {text : String} (h : ';' ∉ text.toList)
    {name address : String} : (ofDescriptor text).find? name = some address ↔
      ∃ link, Says text.toList link ∧ marked link = (name, address) := by
  rw [← link?_eq_some h, ofDescriptor, links_of_not_mem h]
  cases link? (trimChars text.toList) with
  | none => simp [SortedMap.ofList]
  | some read =>
      have hkeys : ([read].map Prod.fst).Nodup := List.nodup_singleton read.1
      rw [Option.toList_some, SortedMap.find?_ofList hkeys, List.mem_singleton, Option.some_inj,
        eq_comm]

/-- **A part that says nothing of a name can be left out** where the name is looked for. -/
theorem find?_ofDescriptor_insert {text : List Char} {name : String}
    (h : (ofDescriptor (String.ofList text)).find? name = none) (before after : List (List Char)) :
    (ofDescriptor (String.ofList (unsplit ';' (before ++ text :: after)))).find? name =
      (ofDescriptor (String.ofList (unsplit ';' (before ++ after)))).find? name := by
  simp only [ofDescriptor, String.toList_ofList] at h ⊢
  simp only [links_unsplit, List.flatMap_append, List.flatMap_cons, SortedMap.find?_ofList_append,
    h, Option.or_none]

/-! ### Links that were read -/

section

variable {descriptor : String}

/-- **The links that can be read** are such as can be written, and their addresses are marked. -/
theorem writable_of_mem_toList {link : String × String}
    (h : link ∈ (ofDescriptor descriptor).toList) :
    Writable link ∧ Address.hasMarker link.2 = true := by
  rw [ofDescriptor, SortedMap.mem_toList, SortedMap.find?_ofList_eq_some] at h
  obtain ⟨text, htext, hread⟩ := List.mem_filterMap.1 h.mem
  obtain ⟨written, hlink, hmarked⟩ := (link?_eq_some (not_mem_of_mem_pieces htext)).1 hread
  obtain rfl : marked written = link := hmarked
  exact ⟨hlink.1.marked, Address.hasMarker_withMarker written.2⟩

/-- **The links that were read are read back** from a descriptor that holds them in any order. -/
theorem ofDescriptor_of_perm {links : List (String × String)}
    (h : links.Perm (ofDescriptor descriptor).toList) :
    ofDescriptor (Linkage.descriptor links) = ofDescriptor descriptor := by
  have hread : ∀ link ∈ links, Writable link ∧ Address.hasMarker link.2 = true := fun link hlink =>
    writable_of_mem_toList (h.mem_iff.1 hlink)
  have hmarked : links.map marked = links := by
    refine (List.map_congr_left fun link hlink => ?_).trans (List.map_id links)
    exact Prod.ext rfl (Address.withMarker_of_hasMarker (hread link hlink).2)
  rw [ofDescriptor_descriptor fun link hlink => (hread link hlink).1, hmarked]
  exact SortedMap.ofList_eq_of_perm h

end

/-- **Descriptors compose.**  Two descriptors with a semicolon between them say what the first one
says with the second one laid over it.  A single part gives a name an address exactly when it is a
pair of the name and the address between margins, and what is said of a name does not depend on the
parts that say nothing of it, wherever they stand.  Of the links that are read the name is there and
holds no semicolon, and the address is marked and holds neither a semicolon nor a colon; written
down in any order they are read back as they are. -/
theorem descriptors_compose :
    (∀ a b, ofDescriptor (a ++ ";" ++ b) = (ofDescriptor a).override (ofDescriptor b)) ∧
      (∀ text : String, ';' ∉ text.toList → ∀ name address,
        (ofDescriptor text).find? name = some address ↔
          ∃ link, Says text.toList link ∧ marked link = (name, address)) ∧
      (∀ text name, (ofDescriptor (String.ofList text)).find? name = none →
        ∀ before after : List (List Char),
          (ofDescriptor (String.ofList (unsplit ';' (before ++ text :: after)))).find? name =
            (ofDescriptor (String.ofList (unsplit ';' (before ++ after)))).find? name) ∧
      ∀ text,
        (∀ name address, (name, address) ∈ (ofDescriptor text).toList →
          name ≠ "" ∧ ';' ∉ name.toList ∧
            (['0', 'x'] <+: address.toList ∨ ['0', 'X'] <+: address.toList) ∧
            ';' ∉ address.toList ∧ ':' ∉ address.toList) ∧
        ∀ links : List (String × String), links.Perm (ofDescriptor text).toList →
          ofDescriptor (descriptor links) = ofDescriptor text := by
  refine ⟨ofDescriptor_append, fun text h name address => find?_ofDescriptor_of_not_mem h,
    fun text name h => find?_ofDescriptor_insert h, fun text => ⟨fun name address hmem => ?_,
      fun links h => ofDescriptor_of_perm h⟩⟩
  obtain ⟨hwritable, hmarker⟩ := writable_of_mem_toList hmem
  have hname : name ≠ "" := fun h => hwritable.name_ne (by rw [h]; rfl)
  exact ⟨hname, hwritable.separator_not_mem_name, Address.hasMarker_iff.1 hmarker,
    hwritable.separator_not_mem_address, hwritable.colon_not_mem⟩

/-- A qualified name between margins, a half of a pair among two pairs, and a name that two pairs of
one descriptor give an address. -/
theorem descriptors_compose_qualified :
    ';' ∉ "\u00a0c.sol:Math:44\n".toList ∧
      (ofDescriptor "\u00a0c.sol:Math:44\n").find? "c.sol:Math" = some "0x44" ∧
      (ofDescriptor (String.ofList "Math:".toList)).find? "Math" = none ∧
      (ofDescriptor "Math:11;Math:;L :0X22").find? "Math" =
        (ofDescriptor "Math:11;L :0X22").find? "Math" ∧
      ("L ", "0X22") ∈ (ofDescriptor "Math:11;L :0X22;Math:0x33").toList ∧ ';' ∉ "L ".toList ∧
      [("Math", "0x33"), ("L ", "0X22")].Perm (ofDescriptor "Math:11;L :0X22;Math:0x33").toList ∧
      ofDescriptor (descriptor [("Math", "0x33"), ("L ", "0X22")]) =
        ofDescriptor "Math:11;L :0X22;Math:0x33" := by
  obtain ⟨-, hsingle, hinsert, hread⟩ := descriptors_compose
  have hseparator : ';' ∉ "\u00a0c.sol:Math:44\n".toList := by decide
  have hwritable : Writable ("c.sol:Math", "44") := by
    refine ⟨by decide, by decide, by decide, by decide, by decide, ?_, ?_⟩ <;>
    · rintro c ⟨⟩
      decide
  have hlink : Says "\u00a0c.sol:Math:44\n".toList ("c.sol:Math", "44") :=
    ⟨hwritable, ['\u00a0'], ['\n'], by simp [AllBlank, isBlank], by simp [AllBlank, isBlank],
      by decide⟩
  have hnone : (ofDescriptor (String.ofList "Math:".toList)).find? "Math" = none := by
    decide +kernel
  have hmem : ("L ", "0X22") ∈ (ofDescriptor "Math:11;L :0X22;Math:0x33").toList := by
    decide +kernel
  have hperm : [("Math", "0x33"), ("L ", "0X22")].Perm
      (ofDescriptor "Math:11;L :0X22;Math:0x33").toList := by
    decide +kernel
  obtain ⟨-, hname, -⟩ := (hread _).1 _ _ hmem
  exact ⟨hseparator, (hsingle _ hseparator _ _).2 ⟨_, hlink, rfl⟩, hnone,
    hinsert _ _ hnone ["Math:11".toList] ["L :0X22".toList], hmem, hname, hperm,
    (hread _).2 _ hperm⟩

end Linkage

end AddressTrace
