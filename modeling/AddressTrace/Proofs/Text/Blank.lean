import AddressTrace.Text.Blank
import Mathlib.Data.List.DropRight
import Mathlib.Data.List.TakeWhile

/-!
# Texts and their margins

A text is what is left of it without its margins, with the margins put back.  What has no blank
character at its ends is found again between any margins.

## Main definitions

* `AllBlank` — a text of blank characters.

## Main statements

* `exists_eq_trimChars` — a text without its margins, and its margins;
* `isBlank_head?_trimChars`, `isBlank_getLast?_trimChars` — there are no margins left;
* `trimChars_append` — what stands between margins is found again.
-/

namespace AddressTrace.Text

/-- **A text of blank characters.** -/
def AllBlank (cs : List Char) : Prop := ∀ c ∈ cs, isBlank c = true

theorem trimEnd_eq_rdropWhile (cs : List Char) : trimEnd cs = cs.rdropWhile isBlank := rfl

/-- **A text is put together** from its margins and what stands between them. -/
theorem exists_eq_trimChars (cs : List Char) :
    ∃ before after, AllBlank before ∧ AllBlank after ∧ cs = before ++ trimChars cs ++ after := by
  refine ⟨cs.takeWhile isBlank, (cs.dropWhile isBlank).rtakeWhile isBlank,
    fun c hc => List.mem_takeWhile_imp hc, fun c hc => List.mem_rtakeWhile_imp hc, ?_⟩
  rw [trimChars, trimEnd_eq_rdropWhile, List.append_assoc, List.rdropWhile_append_rtakeWhile,
    List.takeWhile_append_dropWhile]

/-- **What stands between margins is found again** if there is something else at both of its
ends. -/
theorem trimChars_append {before text after : List Char} (hbefore : AllBlank before)
    (hafter : AllBlank after) (hhead : ∀ c ∈ text.head?, isBlank c = false)
    (hlast : ∀ c ∈ text.getLast?, isBlank c = false) :
    trimChars (before ++ text ++ after) = text := by
  have hend : (text ++ after).rdropWhile isBlank = text := by
    rw [List.rdropWhile, List.reverse_append,
      List.dropWhile_append_of_pos fun c hc => hafter c (List.mem_reverse.1 hc)]
    refine List.rdropWhile_eq_self_iff.2 fun hne => ?_
    simp [hlast _ (List.getLast_mem_getLast? hne)]
  rw [trimChars, List.append_assoc, List.dropWhile_append_of_pos hbefore, trimEnd_eq_rdropWhile]
  cases text with
  | nil =>
    rw [List.nil_append, List.dropWhile_eq_nil_iff.2 hafter]
    rfl
  | cons c text =>
    rw [List.cons_append, List.dropWhile_cons_of_neg (by simp [hhead c rfl]), ← List.cons_append,
      hend]

/-- A text without its margins does not begin with a blank character. -/
theorem isBlank_head?_trimChars (cs : List Char) :
    ∀ c ∈ (trimChars cs).head?, isBlank c = false := by
  intro c hc
  have hne : trimChars cs ≠ [] := List.ne_nil_of_mem (List.mem_of_mem_head? hc)
  have hhead : (cs.dropWhile isBlank).head? = some c := by
    obtain ⟨rest, hrest⟩ : trimChars cs <+: cs.dropWhile isBlank :=
      List.rdropWhile_prefix isBlank _
    rw [← hrest, List.head?_append_of_ne_nil _ hne]
    exact hc
  have hnot := List.head?_dropWhile_not isBlank cs
  rwa [hhead] at hnot

/-- Nor does it end with one. -/
theorem isBlank_getLast?_trimChars (cs : List Char) :
    ∀ c ∈ (trimChars cs).getLast?, isBlank c = false := by
  intro c hc
  have hne : trimChars cs ≠ [] := List.ne_nil_of_mem (List.mem_of_getLast? hc)
  have hlast : (trimChars cs).getLast hne = c :=
    Option.some.inj ((List.getLast?_eq_some_getLast hne).symm.trans hc)
  rw [← hlast, Bool.eq_false_iff]
  exact List.rdropWhile_last_not isBlank _ hne

end AddressTrace.Text
