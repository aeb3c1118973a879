import AddressTrace.Network.Basic
import AddressTrace.Proofs.Data.SortedMap

/-!
# Overloads of an interface

An interface is read function by function, and each function is put behind the overloads of its own
name.  So the overloads of a name are the functions of that name, and a name is listed as one of a
function that returns an address exactly when looking for such an overload finds one.

## Main definitions

* `Interface.Keyed` — overloads stand under their own name;
* `Interface.IsAddressOverload` — an overload of a function that returns exactly one address.

## Main statements

* `Interface.keyed_of_interfaceOf` — the interface of some records is of this sort;
* `Interface.Keyed.mem_addressFunctions` — which names are listed;
* `Interface.Keyed.exists_addressMethod?` — an overload of a listed name is found.
-/

namespace AddressTrace.Abi

/-- A function returns one address and nothing else if its only output is one. -/
theorem Method.returnsAddress_iff {m : Method} :
    m.returnsAddress = true ↔ m.outputs = [.address] := by
  rw [returnsAddress]
  split
  · next output houtputs =>
      rw [houtputs]
      cases output <;> simp [Kind.isAddress]
  · next hother =>
      exact iff_of_false Bool.false_ne_true fun houtputs => hother _ houtputs

namespace Interface

/-- **Overloads stand under their own name.** -/
def Keyed (i : Interface) : Prop :=
  ∀ name methods, i.overloads.find? name = some methods → ∀ m ∈ methods, m.name = name

/-- **An overload of a function that returns exactly one address.** -/
structure IsAddressOverload (i : Interface) (function : String) (m : Method) : Prop where
  mem : m ∈ i.methods
  name_eq : m.name = function
  outputs_eq : m.outputs = [.address]

/-! ### Reading -/

theorem keyed_empty : empty.Keyed :=
  fun _ _ h => nomatch h

/-- A function is put behind the overloads of its own name. -/
theorem Keyed.push {i : Interface} (h : i.Keyed) (m : Method) : (i.push m).Keyed := by
  intro name methods hmethods
  rw [Interface.push] at hmethods
  by_cases hname : m.name = name
  · subst hname
    rw [SortedMap.find?_insert_self] at hmethods
    cases hmethods
    intro other hother
    rcases List.mem_append.1 hother with hother | hother
    · cases hbefore : i.overloads.find? m.name with
      | none =>
          rw [hbefore] at hother
          cases hother
      | some before =>
          rw [hbefore] at hother
          exact h m.name before hbefore other hother
    · rw [List.mem_singleton.1 hother]
  · -- The overloads of other names stay as they are.
    rw [SortedMap.find?_insert_of_ne _ hname] at hmethods
    exact h name methods hmethods

theorem Keyed.foldl_push {i : Interface} (h : i.Keyed) (methods : List Method) :
    (methods.foldl Interface.push i).Keyed := by
  induction methods generalizing i with
  | nil => exact h
  | cons m methods ih => exact ih (h.push m)

theorem keyed_ofJson {text : String} {i : Interface} (h : ofJson text = .ok i) : i.Keyed := by
  simp only [ofJson] at h
  split at h
  · cases h
    exact keyed_empty.foldl_push _
  · cases h

/-- **The interface of some records has each overload under its name.** -/
theorem keyed_of_interfaceOf {records : List ContractRecord} {i : Interface}
    (h : interfaceOf records = .ok (some i)) : i.Keyed := by
  unfold interfaceOf at h
  split at h
  · split at h
    · next hread =>
        cases h
        exact keyed_ofJson hread
    · cases h
  · cases h

/-! ### Listing and looking for functions -/

section

variable {i : Interface} {name : String}

/-- **The overloads of a name are the functions of that name.** -/
theorem Keyed.mem_named (h : i.Keyed) {m : Method} :
    m ∈ i.named name ↔ m ∈ i.methods ∧ m.name = name := by
  have hmethods : m ∈ i.methods ↔
      ∃ key methods, i.overloads.find? key = some methods ∧ m ∈ methods := by
    simp only [methods, SortedMap.values, List.mem_flatten, List.mem_map, 
      ← SortedMap.mem_toList, SortedMap.toList]
    constructor
    · rintro ⟨_, ⟨⟨key, overloads⟩, hentry, rfl⟩, hm⟩
      exact ⟨key, overloads, hentry, hm⟩
    · rintro ⟨key, overloads, hentry, hm⟩
      exact ⟨overloads, ⟨(key, overloads), hentry, rfl⟩, hm⟩
  have hnamed : m ∈ i.named name ↔ ∃ methods, i.overloads.find? name = some methods ∧
      m ∈ methods := by
    rw [named]
    cases i.overloads.find? name <;> simp
  rw [hmethods, hnamed]
  constructor
  · rintro ⟨overloads, hfind, hm⟩
    exact ⟨⟨name, overloads, hfind, hm⟩, h _ _ hfind m hm⟩
  · -- The function stands under some name, and that is its own.
    rintro ⟨⟨key, overloads, hfind, hm⟩, hname⟩
    obtain rfl : key = name := (h _ _ hfind m hm).symm.trans hname
    exact ⟨overloads, hfind, hm⟩

/-- **A name is listed** if a function of this name returns exactly one address. -/
theorem Keyed.mem_addressFunctions (h : i.Keyed) :
    name ∈ i.addressFunctions ↔ ∃ m, i.IsAddressOverload name m := by
  have hlisted : name ∈ i.addressFunctions ↔ ∃ m ∈ i.named name, m.returnsAddress = true := by
    simp only [addressFunctions, List.mem_map, List.mem_filter, List.any_eq_true]
    constructor
    · rintro ⟨⟨key, overloads⟩, ⟨hentry, m, hm, hreturns⟩, rfl⟩
      have hfind := SortedMap.mem_toList.1 hentry
      exact ⟨m, by rw [named, hfind]; exact hm, hreturns⟩
    · rintro ⟨m, hm, hreturns⟩
      rw [named] at hm
      cases hfind : i.overloads.find? name with
      | none =>
          rw [hfind] at hm
          cases hm
      | some overloads =>
          rw [hfind] at hm
          exact ⟨(name, overloads), ⟨SortedMap.mem_toList.2 hfind, m, hm, hreturns⟩, rfl⟩
  rw [hlisted]
  constructor
  · rintro ⟨m, hm, hreturns⟩
    obtain ⟨hmem, hname⟩ := h.mem_named.1 hm
    exact ⟨m, hmem, hname, Method.returnsAddress_iff.1 hreturns⟩
  · rintro ⟨m, hm⟩
    exact ⟨m, h.mem_named.2 ⟨hm.mem, hm.name_eq⟩, Method.returnsAddress_iff.2 hm.outputs_eq⟩

/-- What looking for an overload finds is one of this name that returns exactly one address. -/
theorem Keyed.isAddressOverload (h : i.Keyed) {m : Method} (hm : i.addressMethod? name = some m) :
    i.IsAddressOverload name m := by
  obtain ⟨hmem, hkey⟩ := h.mem_named.1 (List.mem_of_find?_eq_some hm)
  exact ⟨hmem, hkey, Method.returnsAddress_iff.1 (List.find?_some hm)⟩

/-- **What is listed is found**: looking for an overload of a listed name finds one, and it returns
exactly one address. -/
theorem Keyed.exists_addressMethod? (h : i.Keyed) (hname : name ∈ i.addressFunctions) :
    ∃ m, i.addressMethod? name = some m ∧ i.IsAddressOverload name m := by
  obtain ⟨m, hm⟩ := h.mem_addressFunctions.1 hname
  have hsome : (i.addressMethod? name).isSome := by
    rw [addressMethod?, List.find?_isSome]
    exact ⟨m, h.mem_named.2 ⟨hm.mem, hm.name_eq⟩, Method.returnsAddress_iff.2 hm.outputs_eq⟩
  obtain ⟨found, hfound⟩ := Option.isSome_iff_exists.1 hsome
  exact ⟨found, hfound, h.isAddressOverload hfound⟩

end

end Interface

end AddressTrace.Abi
