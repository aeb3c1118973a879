import AddressTrace.Linkage.Descriptor
import AddressTrace.Proofs.Text.Blank

/-!
# Reading descriptors back

A descriptor is cut at its semicolons and each pair at its last colon, and the margins of a pair are
removed before it is cut.  So a name may hold colons, and it may end with blank characters but not
begin with one.  Links of this kind are read back as they were written, in their order.

## Main definitions

* `Linkage.Writable` — a link that can be told from its neighbours in a descriptor.

## Main statements

* `pieces_unsplit`, `splitLast?_append` — the steps of reading undone;
* `Linkage.Writable.link?_pair` — one link is read back;
* `Linkage.links_descriptor` — all links of a descriptor are.
-/

namespace AddressTrace

/-! ### Texts that were put together -/

namespace Text

variable {sep : Char}

theorem pieces_eq_singleton {cs : List Char} (h : sep ∉ cs) : pieces sep cs = [cs] := by
  induction cs with
  | nil => rfl
  | cons c cs ih =>
      obtain ⟨hc, hcs⟩ := List.ne_and_not_mem_of_not_mem_cons h
      rw [pieces, if_neg (Ne.symm hc), ih hcs]

/-- What stands in front of a separator is the first part. -/
theorem pieces_append_cons {cs : List Char} (h : sep ∉ cs) (rest : List Char) :
    pieces sep (cs ++ sep :: rest) = cs :: pieces sep rest := by
  induction cs with
  | nil => exact if_pos rfl
  | cons c cs ih =>
      obtain ⟨hc, hcs⟩ := List.ne_and_not_mem_of_not_mem_cons h
      rw [List.cons_append, pieces, if_neg (Ne.symm hc), ih hcs]

/-- **Parts without a separator are found again** when they were put together. -/
theorem pieces_unsplit {parts : List (List Char)} (hne : parts ≠ [])
    (h : ∀ p ∈ parts, sep ∉ p) : pieces sep (unsplit sep parts) = parts := by
  induction parts with
  | nil => exact absurd rfl hne
  | cons p parts ih =>
      obtain ⟨hp, hparts⟩ := List.forall_mem_cons.1 h
      cases parts with
      | nil => exact pieces_eq_singleton hp
      | cons q parts => rw [unsplit, pieces_append_cons hp, ih (List.cons_ne_nil _ _) hparts]

theorem splitLast?_eq_none {cs : List Char} (h : sep ∉ cs) : splitLast? sep cs = none := by
  induction cs with
  | nil => rfl
  | cons c cs ih =>
      obtain ⟨hc, hcs⟩ := List.ne_and_not_mem_of_not_mem_cons h
      rw [splitLast?, ih hcs]
      exact if_neg (Ne.symm hc)

/-- **A separator is the last one** if none stands behind it. -/
theorem splitLast?_append {after : List Char} (h : sep ∉ after) (before : List Char) :
    splitLast? sep (before ++ sep :: after) = some (before, after) := by
  induction before with
  | nil =>
      rw [List.nil_append, splitLast?, splitLast?_eq_none h]
      exact if_pos rfl
  | cons c before ih => rw [List.cons_append, splitLast?, ih]

end Text

/-! ### Links -/

namespace Linkage

open Text

/-- **A link that can be told from its neighbours** in a descriptor: it has a name and an address,
no semicolon in either of them, no colon in the address, and no blank character at its ends. -/
structure Writable (link : String × String) : Prop where
  name_ne : link.1.toList ≠ []
  address_ne : link.2.toList ≠ []
  separator_not_mem_name : ';' ∉ link.1.toList
  separator_not_mem_address : ';' ∉ link.2.toList
  colon_not_mem : ':' ∉ link.2.toList
  head_not_blank : ∀ c ∈ link.1.toList.head?, isBlank c = false
  last_not_blank : ∀ c ∈ link.2.toList.getLast?, isBlank c = false

/-- A link with its address marked. -/
def marked (link : String × String) : String × String := (link.1, Address.withMarker link.2)

section

variable {link : String × String}

theorem head?_pair (h : link.1.toList ≠ []) : (pair link).head? = link.1.toList.head? :=
  List.head?_append_of_ne_nil _ h

theorem getLast?_pair (h : link.2.toList ≠ []) :
    (pair link).getLast? = link.2.toList.getLast? := by
  rw [pair, List.getLast?_append_of_ne_nil _ (List.cons_ne_nil _ _), List.getLast?_cons_of_ne_nil h]

end

namespace Writable

variable {link : String × String}

theorem separator_not_mem (h : Writable link) : ';' ∉ pair link := by
  simp [pair, h.separator_not_mem_name, h.separator_not_mem_address]

/-- The pair of a link is found between any margins. -/
theorem trimChars_append_pair (h : Writable link) {before after : List Char}
    (hbefore : AllBlank before) (hafter : AllBlank after) :
    trimChars (before ++ pair link ++ after) = pair link := by
  refine trimChars_append hbefore hafter ?_ ?_
  · rw [head?_pair h.name_ne]
    exact h.head_not_blank
  · rw [getLast?_pair h.address_ne]
    exact h.last_not_blank

/-- The pair of a link has no margins. -/
theorem trimChars_pair (h : Writable link) : trimChars (pair link) = pair link := by
  simpa using h.trimChars_append_pair (List.forall_mem_nil _) (List.forall_mem_nil _)

/-- **A link is read back from its pair**, with its address marked. -/
theorem link?_pair (h : Writable link) : link? (trimChars (pair link)) = some (marked link) := by
  rw [h.trimChars_pair, pair, link?, splitLast?_append h.colon_not_mem]
  simp [h.name_ne, h.address_ne, marked]

end Writable

/-- **The links of a descriptor are read back**, in their order and with their addresses marked. -/
theorem links_descriptor {links : List (String × String)} (h : ∀ link ∈ links, Writable link) :
    Linkage.links (descriptor links).toList = links.map marked := by
  rw [Linkage.links, descriptor, String.toList_ofList]
  cases links with
  | nil => rfl
  | cons link links =>
      have hpieces : pieces ';' (unsplit ';' ((link :: links).map pair)) =
          (link :: links).map pair := by
        refine pieces_unsplit (List.cons_ne_nil _ _) fun p hp => ?_
        obtain ⟨link, hlink, rfl⟩ := List.mem_map.1 hp
        exact (h link hlink).separator_not_mem
      rw [hpieces, List.filterMap_map, ← List.filterMap_eq_map]
      exact List.filterMap_congr fun link hlink => (h link hlink).link?_pair

/-- **What a descriptor says** is the last address of each name, marked. -/
theorem ofDescriptor_descriptor {links : List (String × String)}
    (h : ∀ link ∈ links, Writable link) :
    ofDescriptor (descriptor links) = .ofList (links.map marked) := by
  rw [ofDescriptor, links_descriptor h]

end Linkage

end AddressTrace
